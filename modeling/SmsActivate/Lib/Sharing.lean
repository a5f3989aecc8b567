import Mathlib.Logic.Function.Basic
import SmsActivate.Lib.Runs

set_option autoImplicit false

namespace SmsActivate.Lib

-- Clients of one store. Each keeps a state of its own and sees the store as the
-- last step of any of them has left it.
structure Shared (Name State Store : Type) where
  client : Name → State
  store : Store

section Sharing

variable {Name State Label Store : Type} [DecidableEq Name]
variable (step : State → Label → Option State) (getStore : State → Store) (putStore : Store → State → State)

def sharedStep (s : Shared Name State Store) (entry : Name × Label) : Option (Shared Name State Store) :=
  (step (putStore s.store (s.client entry.1)) entry.2).map (fun next =>
    ⟨Function.update s.client entry.1 next, getStore next⟩)

variable (part : Name → Store → Store)

-- A client with its own part of the store, as if there were no others.
def alone (name : Name) (s : Shared Name State Store) : State := putStore (part name s.store) (s.client name)

def shareOf (name : Name) (history : List (Shared Name State Store × Name × Label)) : List (State × Label) :=
  history.filterMap (fun entry =>
    if entry.2.1 = name then some (alone putStore part name entry.1, entry.2.2) else none)

structure Isolates (allowed : Name → Label → Prop) (confined : Name → State → Prop) : Prop where
  getPut : ∀ store s, getStore (putStore store s) = store
  putPut : ∀ first second s, putStore first (putStore second s) = putStore first s
  confinedPut : ∀ name store s, confined name s → confined name (putStore store s)
  keeps : ∀ name s label t, confined name s → allowed name label → step s label = some t → confined name t
  narrows : ∀ name s label t, confined name s → allowed name label → step s label = some t →
    step (putStore (part name (getStore s)) s) label = some (putStore (part name (getStore t)) t)
  spares : ∀ name other s label t, name ≠ other → confined name s → allowed name label → step s label = some t →
    part other (getStore t) = part other (getStore s)

variable (allowed : Name → Label → Prop) (confined : Name → State → Prop)

theorem share_of_snoc (name actor : Name) (history : List (Shared Name State Store × Name × Label))
    (s : Shared Name State Store) (label : Label) :
    shareOf putStore part name (history ++ [(s, actor, label)]) =
      shareOf putStore part name history ++ if actor = name then [(alone putStore part name s, label)] else [] := by
  by_cases same : actor = name <;> simp [shareOf, same]

theorem shared_step_actor (isolates : Isolates step getStore putStore part allowed confined)
    (s t : Shared Name State Store) (name : Name) (label : Label) (inside : confined name (s.client name))
    (fine : allowed name label) (done : sharedStep step getStore putStore s (name, label) = some t) :
    step (alone putStore part name s) label = some (alone putStore part name t) := by
  obtain ⟨next, moved, rfl⟩ := Option.map_eq_some_iff.mp done
  have narrowed := isolates.narrows name _ label next (isolates.confinedPut name s.store _ inside) fine moved
  rw [isolates.getPut, isolates.putPut] at narrowed
  simp only [alone, Function.update_self]
  exact narrowed

theorem shared_step_other (isolates : Isolates step getStore putStore part allowed confined)
    (s t : Shared Name State Store) (name actor : Name) (label : Label) (different : actor ≠ name)
    (inside : confined actor (s.client actor)) (fine : allowed actor label)
    (done : sharedStep step getStore putStore s (actor, label) = some t) :
    alone putStore part name t = alone putStore part name s := by
  obtain ⟨next, moved, rfl⟩ := Option.map_eq_some_iff.mp done
  have spared := isolates.spares actor name _ label next different (isolates.confinedPut actor s.store _ inside) fine moved
  rw [isolates.getPut] at spared
  simp only [alone, spared, Function.update_of_ne (Ne.symm different)]

theorem shared_step_confined (isolates : Isolates step getStore putStore part allowed confined)
    (s t : Shared Name State Store) (entry : Name × Label) (inside : ∀ name, confined name (s.client name))
    (fine : allowed entry.1 entry.2) (done : sharedStep step getStore putStore s entry = some t) :
    ∀ name, confined name (t.client name) := by
  obtain ⟨next, moved, rfl⟩ := Option.map_eq_some_iff.mp done
  intro name
  by_cases same : name = entry.1
  · subst same
    simp only [Function.update_self]
    exact isolates.keeps _ _ entry.2 next (isolates.confinedPut _ s.store _ (inside entry.1)) fine moved
  · simp only [Function.update_of_ne same]
    exact inside name

-- Whatever the others do, each client goes through a run of its own on its own
-- part of the store.
theorem shared_run_isolated (isolates : Isolates step getStore putStore part allowed confined)
    (start last : Shared Name State Store) (history : List (Shared Name State Store × Name × Label))
    (run : Run (sharedStep step getStore putStore) start history last)
    (inside : ∀ name, confined name (start.client name)) (fine : ∀ entry ∈ history, allowed entry.2.1 entry.2.2) :
    (∀ name, confined name (last.client name)) ∧
      ∀ name, Run step (alone putStore part name start) (shareOf putStore part name history) (alone putStore part name last) := by
  induction run with
  | start => exact ⟨inside, fun name => .start⟩
  | snoc t u history entry before next ih =>
      obtain ⟨confinedBefore, runs⟩ := ih (fun past member => fine past (List.mem_append_left _ member))
      have mine := fine (t, entry) (by simp)
      refine ⟨shared_step_confined step getStore putStore part allowed confined isolates t u entry confinedBefore mine next, ?_⟩
      intro name
      obtain ⟨actor, label⟩ := entry
      rw [share_of_snoc]
      by_cases same : actor = name
      · subst same
        rw [if_pos rfl]
        exact .snoc _ _ _ label (runs actor) (shared_step_actor step getStore putStore part allowed confined isolates t u actor
          label (confinedBefore actor) mine next)
      · rw [if_neg same, List.append_nil, shared_step_other step getStore putStore part allowed confined isolates t u name actor
          label same (confinedBefore actor) mine next]
        exact runs name

end Sharing

end SmsActivate.Lib
