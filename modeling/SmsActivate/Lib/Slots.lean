import SmsActivate.Lib.Simulation

set_option autoImplicit false

namespace SmsActivate.Lib

-- A place for one item at a time, with a countdown that starts over whenever an
-- item is put there. Requests are made for the item that is held, and no other.
inductive Slot (Id : Type) (limit : Nat) where
  | free
  | holding (id : Id) (left : Fin (limit + 1))
deriving DecidableEq

inductive SlotEvent (Id : Type) where
  | put (id : Id)
  | poll (id : Id)
  | expire (id : Id)
  | cancel (id : Id)
  | finish (id : Id)
  | resolve (id : Id)
  | quiet
deriving DecidableEq

inductive RequestKind where
  | poll
  | finish
  | cancel
deriving DecidableEq, Repr

def SlotEvent.request {Id : Type} : SlotEvent Id → Option (RequestKind × Id)
  | .poll id => some (.poll, id)
  | .expire id => some (.cancel, id)
  | .cancel id => some (.cancel, id)
  | .finish id => some (.finish, id)
  | _ => none

section Slots

variable {Id : Type} [DecidableEq Id] {limit : Nat}

def slotStep (slot : Slot Id limit) (event : SlotEvent Id) : Option (Slot Id limit) :=
  match event, slot with
  | .put id, _ => some (.holding id (Fin.last limit))
  | .resolve _, _ => some .free
  | .quiet, slot => some slot
  | .poll id, .holding held ⟨left + 1, bound⟩ =>
      if held = id then some (.holding held ⟨left, Nat.lt_of_succ_lt bound⟩) else none
  | .expire id, .holding held ⟨0, bound⟩ => if held = id then some (.holding held ⟨0, bound⟩) else none
  | .cancel id, .holding held left => if held = id then some (.holding held left) else none
  | .finish id, .holding held left => if held = id then some (.holding held left) else none
  | _, _ => none

def Slot.remaining (id : Id) : Slot Id limit → Nat
  | .free => 0
  | .holding held left => if held = id then left.val else 0

def Slot.Holds (id : Id) : Slot Id limit → Prop
  | .free => False
  | .holding held _ => held = id

def polled (id : Id) (past : List (SlotEvent Id)) : Nat := past.count (.poll id)

def placed (id : Id) (past : List (SlotEvent Id)) : Nat := past.count (.put id)

theorem remaining_bound (id : Id) (slot : Slot Id limit) : slot.remaining id ≤ limit := by
  cases slot with
  | free => exact Nat.zero_le limit
  | holding held left =>
      have bound := left.isLt
      by_cases mine : held = id
      · rw [Slot.remaining, if_pos mine]
        omega
      · rw [Slot.remaining, if_neg mine]
        exact Nat.zero_le limit

-- A poll uses up a unit of the countdown, and only putting the item gives any.
theorem slot_step_remaining (id : Id) (slot next : Slot Id limit) (event : SlotEvent Id)
    (done : slotStep slot event = some next) :
    next.remaining id + (if event = .poll id then 1 else 0) ≤ slot.remaining id + (if event = .put id then limit else 0) := by
  cases event with
  | put other =>
      have bound := remaining_bound id next
      by_cases same : other = id
      · simp only [same, if_true, reduceCtorEq, if_false]
        omega
      · rw [← Option.some.inj done]
        simp [Slot.remaining, same]
  | resolve other =>
      rw [← Option.some.inj done]
      simp [Slot.remaining]
  | quiet =>
      rw [← Option.some.inj done]
      simp
  | poll other =>
      match slot, done with
      | .holding held ⟨left + 1, bound⟩, done =>
          obtain ⟨same, shape⟩ := Option.ite_none_right_eq_some.mp done
          subst same
          rw [← Option.some.inj shape]
          by_cases mine : held = id
          · simp [Slot.remaining, mine]
          · simp [Slot.remaining, mine]
  | expire other =>
      match slot, done with
      | .holding held ⟨0, bound⟩, done =>
          obtain ⟨_, shape⟩ := Option.ite_none_right_eq_some.mp done
          rw [← Option.some.inj shape]
          simp
  | cancel other | finish other =>
      match slot, done with
      | .holding held left, done =>
          obtain ⟨_, shape⟩ := Option.ite_none_right_eq_some.mp done
          rw [← Option.some.inj shape]
          simp

theorem slot_polls (id : Id) (slot : Slot Id limit) (history : List (Slot Id limit × SlotEvent Id))
    (run : Run slotStep .free history slot) :
    polled id (events history) + slot.remaining id ≤ limit * placed id (events history) := by
  induction run with
  | start => exact Nat.zero_le _
  | snoc t u history event before next ih =>
      have moved := slot_step_remaining id t u event next
      rw [events_snoc, polled, placed, List.count_append, List.count_append, List.count_singleton, List.count_singleton,
        Nat.mul_add]
      simp only [polled, placed] at ih
      by_cases mine : event = .put id
      · simp [mine] at moved ⊢
        omega
      · simp [mine] at moved ⊢
        omega

-- An item that is not in the slot stays out of it, and no request is made for
-- it, until it is put there.
theorem slot_step_silent (id : Id) (slot next : Slot Id limit) (event : SlotEvent Id) (out : ¬ slot.Holds id)
    (elsewhere : event ≠ .put id) (done : slotStep slot event = some next) :
    ¬ next.Holds id ∧ ∀ kind, event.request ≠ some (kind, id) := by
  cases event with
  | put other =>
      rw [← Option.some.inj done]
      refine ⟨?_, by simp [SlotEvent.request]⟩
      intro held
      exact elsewhere (congrArg SlotEvent.put held)
  | resolve other =>
      rw [← Option.some.inj done]
      exact ⟨fun held => held, by simp [SlotEvent.request]⟩
  | quiet =>
      rw [← Option.some.inj done]
      exact ⟨out, by simp [SlotEvent.request]⟩
  | poll other =>
      match slot, done with
      | .holding held ⟨left + 1, bound⟩, done =>
          obtain ⟨same, shape⟩ := Option.ite_none_right_eq_some.mp done
          rw [← Option.some.inj shape, ← same]
          exact ⟨out, fun kind named => out (congrArg Prod.snd (Option.some.inj named))⟩
  | expire other =>
      match slot, done with
      | .holding held ⟨0, bound⟩, done =>
          obtain ⟨same, shape⟩ := Option.ite_none_right_eq_some.mp done
          rw [← Option.some.inj shape, ← same]
          exact ⟨out, fun kind named => out (congrArg Prod.snd (Option.some.inj named))⟩
  | cancel other | finish other =>
      match slot, done with
      | .holding held left, done =>
          obtain ⟨same, shape⟩ := Option.ite_none_right_eq_some.mp done
          rw [← Option.some.inj shape, ← same]
          exact ⟨out, fun kind named => out (congrArg Prod.snd (Option.some.inj named))⟩

theorem slot_silent (id : Id) (slot next : Slot Id limit) (history : List (Slot Id limit × SlotEvent Id))
    (run : Run slotStep slot history next) (out : ¬ slot.Holds id) (elsewhere : SlotEvent.put id ∉ events history) :
    ¬ next.Holds id ∧ ∀ event ∈ events history, ∀ kind, event.request ≠ some (kind, id) := by
  induction run with
  | start => exact ⟨out, by simp [events]⟩
  | snoc t u history event before next ih =>
      rw [events_snoc, List.mem_append, not_or] at elsewhere
      obtain ⟨still, silent⟩ := ih elsewhere.1
      have other : event ≠ .put id := by
        rintro rfl
        exact elsewhere.2 (by simp)
      obtain ⟨after, last⟩ := slot_step_silent id t u event still other next
      refine ⟨after, ?_⟩
      intro past member
      rw [events_snoc] at member
      cases List.mem_append.mp member with
      | inl old => exact silent past old
      | inr new =>
          rw [List.mem_singleton.mp new]
          exact last

end Slots

end SmsActivate.Lib
