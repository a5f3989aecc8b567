import Mathlib.Algebra.GroupWithZero.Nat
import SmsActivate.Lib.Runs

set_option autoImplicit false

namespace SmsActivate.Lib

variable {State Label : Type}

-- Some labels use up work that others have brought in, at a price.
section Budget

variable (step : State → Label → Option State) (work : State → Nat) (uses : Label → Bool) (price : Label → Nat)

def used (history : List (State × Label)) : Nat := history.countP (fun entry => uses entry.2)

def spent (history : List (State × Label)) : Nat := (history.map (fun entry => price entry.2)).sum

theorem used_snoc (history : List (State × Label)) (t : State) (label : Label) :
    used uses (history ++ [(t, label)]) = used uses history + if uses label then 1 else 0 := by
  simp [used, List.countP_append, List.countP_cons]

theorem spent_snoc (history : List (State × Label)) (t : State) (label : Label) :
    spent price (history ++ [(t, label)]) = spent price history + price label := by
  simp [spent]

theorem run_budget
    (pays : ∀ t label u, step t label = some u → work u + (if uses label then 1 else 0) ≤ work t + price label)
    (s t : State) (history : List (State × Label)) (run : Run step s history t) :
    used uses history + work t ≤ work s + spent price history := by
  induction run with
  | start => simp [used, spent]
  | snoc t u history label before next ih =>
      have paid := pays t label u next
      rw [used_snoc, spent_snoc]
      omega

end Budget

end SmsActivate.Lib
