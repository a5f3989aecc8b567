import Mathlib.Algebra.BigOperators.Group.List.Basic
import Mathlib.Algebra.Ring.Int.Defs

set_option autoImplicit false

namespace SmsActivate.Lib

variable {State Label : Type}

-- A history pairs each label with the state it was taken in, so conditions on
-- the state before a step and sums over the labels are both read off it.
inductive Run (step : State → Label → Option State) (s : State) : List (State × Label) → State → Prop where
  | start : Run step s [] s
  | snoc (t u : State) (history : List (State × Label)) (label : Label)
      (before : Run step s history t) (next : step t label = some u) : Run step s (history ++ [(t, label)]) u

def exec (step : State → Label → Option State) (s : State) : List Label → Option State
  | [] => some s
  | label :: rest => (step s label).bind (fun t => exec step t rest)

def trace (step : State → Label → Option State) (s : State) : List Label → List (State × Label)
  | [] => []
  | label :: rest => (s, label) :: ((step s label).map (fun t => trace step t rest)).getD []

theorem run_cons (step : State → Label → Option State) (s t u : State) (label : Label)
    (history : List (State × Label)) (next : step s label = some t) (rest : Run step t history u) :
    Run step s ((s, label) :: history) u := by
  induction rest with
  | start => exact .snoc s t [] label .start next
  | snoc v w history last before after ih => exact .snoc v w ((s, label) :: history) last ih after

theorem run_append (step : State → Label → Option State) (s t u : State) (first second : List (State × Label))
    (before : Run step s first t) (after : Run step t second u) : Run step s (first ++ second) u := by
  induction after with
  | start =>
      rw [List.append_nil]
      exact before
  | snoc v w history label _ next ih =>
      rw [← List.append_assoc]
      exact .snoc v w (first ++ history) label ih next

theorem exec_run (step : State → Label → Option State) (s t : State) (labels : List Label)
    (done : exec step s labels = some t) : Run step s (trace step s labels) t := by
  induction labels generalizing s with
  | nil =>
      have same : s = t := Option.some.inj done
      subst t
      exact .start
  | cons label rest ih =>
      obtain ⟨middle, next, remaining⟩ := Option.bind_eq_some_iff.mp done
      rw [trace, next]
      exact run_cons step s middle t label (trace step middle rest) next (ih middle remaining)

theorem exec_append (step : State → Label → Option State) (s : State) (first second : List Label) :
    exec step s (first ++ second) = (exec step s first).bind (fun t => exec step t second) := by
  induction first generalizing s with
  | nil => rfl
  | cons label rest ih =>
      rw [List.cons_append, exec, exec]
      cases step s label with
      | none => rfl
      | some t => exact ih t

theorem trace_labels (step : State → Label → Option State) (s : State) (labels : List Label) :
    ∀ entry ∈ trace step s labels, entry.2 ∈ labels := by
  induction labels generalizing s with
  | nil => simp [trace]
  | cons label rest ih =>
      intro entry member
      cases next : step s label with
      | none =>
          simp only [trace, next, Option.map_none, Option.getD_none, List.mem_singleton] at member
          simp [member]
      | some t =>
          simp only [trace, next, Option.map_some, Option.getD_some, List.mem_cons] at member
          cases member with
          | inl same => simp [same]
          | inr later => exact List.mem_cons_of_mem label (ih t entry later)

theorem exec_reaches (step : State → Label → Option State) (s : State) (labels : List Label)
    (holds : State → Prop) [DecidablePred holds]
    (found : (exec step s labels).any (fun t => decide (holds t)) = true) :
    ∃ t, Run step s (trace step s labels) t ∧ holds t := by
  cases done : exec step s labels with
  | none => simp [done] at found
  | some t =>
      rw [done] at found
      exact ⟨t, exec_run step s t labels done, of_decide_eq_true found⟩

-- What a history lists has been reached and done.
theorem run_entry (step : State → Label → Option State) (s t : State) (history : List (State × Label))
    (run : Run step s history t) :
    ∀ entry ∈ history, (∃ earlier, Run step s earlier entry.1) ∧ ∃ u, step entry.1 entry.2 = some u := by
  induction run with
  | start => simp
  | snoc t u history label before next ih =>
      intro entry member
      cases List.mem_append.mp member with
      | inl old => exact ih entry old
      | inr new =>
          rw [List.mem_singleton.mp new]
          exact ⟨⟨history, before⟩, u, next⟩

theorem run_invariant (step : State → Label → Option State) (holds : State → Prop)
    (keeps : ∀ t label u, holds t → step t label = some u → holds u)
    (s t : State) (history : List (State × Label)) (run : Run step s history t) (initial : holds s) : holds t := by
  induction run with
  | start => exact initial
  | snoc t u history label before next ih => exact keeps t label u ih next

-- The invariant may mention the history; the guard is what every step of the
-- run is assumed to meet in the state before it.
theorem run_guarded (step : State → Label → Option State) (guard : State → Label → Prop)
    (holds : List (State × Label) → State → Prop)
    (keeps : ∀ history t label u, holds history t → guard t label → step t label = some u →
      holds (history ++ [(t, label)]) u)
    (s t : State) (history : List (State × Label)) (run : Run step s history t)
    (meets : ∀ entry ∈ history, guard entry.1 entry.2) (initial : holds [] s) : holds history t := by
  induction run with
  | start => exact initial
  | snoc t u history label before next ih =>
      have earlier : ∀ entry ∈ history, guard entry.1 entry.2 := fun entry member => meets entry (by simp [member])
      exact keeps history t label u (ih earlier) (meets (t, label) (by simp)) next

theorem run_history (step : State → Label → Option State) (holds : List (State × Label) → State → Prop)
    (keeps : ∀ history t label u, holds history t → step t label = some u → holds (history ++ [(t, label)]) u)
    (s t : State) (history : List (State × Label)) (run : Run step s history t) (initial : holds [] s) :
    holds history t :=
  run_guarded step (fun _ _ => True) holds (fun history t label u h _ next => keeps history t label u h next)
    s t history run (fun _ _ => trivial) initial

-- Every step meets a condition on the history and the state before it.
def Along (meets : List (State × Label) → State → Label → Prop) (history : List (State × Label)) : Prop :=
  ∀ earlier t label later, history = earlier ++ (t, label) :: later → meets earlier t label

theorem along_snoc (meets : List (State × Label) → State → Label → Prop) (history : List (State × Label)) (t : State)
    (label : Label) : Along meets (history ++ [(t, label)]) ↔ Along meets history ∧ meets history t label := by
  constructor
  · intro along
    constructor
    · intro earlier other otherLabel later split
      exact along earlier other otherLabel (later ++ [(t, label)]) (by simp [split])
    · exact along history t label [] rfl
  · rintro ⟨along, last⟩ earlier other otherLabel later split
    cases List.eq_nil_or_concat later with
    | inl nothing =>
        subst nothing
        obtain ⟨same, pair⟩ := List.append_inj' split rfl
        cases pair
        rw [← same]
        exact last
    | inr more =>
        obtain ⟨front, final, rfl⟩ := more
        apply along earlier other otherLabel front
        have shape : history ++ [(t, label)] = (earlier ++ (other, otherLabel) :: front) ++ [final] := by simpa using split
        exact (List.append_inj' shape rfl).1

theorem run_along (step : State → Label → Option State) (meets : List (State × Label) → State → Label → Prop)
    (holds : List (State × Label) → State → Prop)
    (keeps : ∀ history t label u, holds history t → meets history t label → step t label = some u →
      holds (history ++ [(t, label)]) u)
    (s t : State) (history : List (State × Label)) (run : Run step s history t) (along : Along meets history)
    (initial : holds [] s) : holds history t := by
  induction run with
  | start => exact initial
  | snoc t u history label before next ih =>
      obtain ⟨earlier, last⟩ := (along_snoc meets history t label).mp along
      exact keeps history t label u (ih earlier) last next

def total (weight : State → Label → Int) (history : List (State × Label)) : Int :=
  (history.map (fun entry => weight entry.1 entry.2)).sum

theorem total_nil (weight : State → Label → Int) : total weight ([] : List (State × Label)) = 0 := rfl

theorem total_snoc (weight : State → Label → Int) (history : List (State × Label)) (s : State) (label : Label) :
    total weight (history ++ [(s, label)]) = total weight history + weight s label := by
  simp [total]

end SmsActivate.Lib
