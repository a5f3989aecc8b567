import Mathlib.Data.List.Nodup

set_option autoImplicit false

namespace SmsActivate.Lib

variable {Store Write : Type}

def taken (perform : Store → Write → Option Store) (store : Store) (write : Write) : Store :=
  (perform store write).getD store

-- The store once the queued writes have been taken in issue order.
def settle (perform : Store → Write → Option Store) (store : Store) (queue : List Write) : Store :=
  queue.foldl (taken perform) store

theorem settle_nil (perform : Store → Write → Option Store) (store : Store) : settle perform store [] = store := rfl

theorem settle_cons (perform : Store → Write → Option Store) (store : Store) (write : Write) (rest : List Write) :
    settle perform store (write :: rest) = settle perform (taken perform store write) rest := rfl

theorem settle_append (perform : Store → Write → Option Store) (store : Store) (first second : List Write) :
    settle perform store (first ++ second) = settle perform (settle perform store first) second := by
  simp [settle]

theorem taken_some (perform : Store → Write → Option Store) (store after : Store) (write : Write)
    (accepted : perform store write = some after) : taken perform store write = after := by
  simp [taken, accepted]

theorem taken_none (perform : Store → Write → Option Store) (store : Store) (write : Write)
    (refused : perform store write = none) : taken perform store write = store := by
  simp [taken, refused]

-- What every write of the queue keeps, when it is performed, holds once the
-- queue has settled.
theorem settle_invariant (perform : Store → Write → Option Store) (holds : Store → Prop) (queue : List Write)
    (kept : ∀ store write after, write ∈ queue → holds store → perform store write = some after → holds after)
    (store : Store) (initial : holds store) : holds (settle perform store queue) := by
  induction queue generalizing store with
  | nil => exact initial
  | cons write rest ih =>
      rw [settle_cons]
      apply ih (fun store other after member => kept store other after (List.mem_cons_of_mem write member))
      cases performed : perform store write with
      | none =>
          rw [taken_none perform store write performed]
          exact initial
      | some after =>
          rw [taken_some perform store after write performed]
          exact kept store write after List.mem_cons_self initial performed

-- One of the requests under way is answered.
theorem count_answered {Item : Type} [DecidableEq Item] (holds : Item → Bool) (pending : List Item) (item : Item)
    (member : item ∈ pending) : pending.countP holds = (pending.erase item).countP holds + if holds item then 1 else 0 := by
  rw [(List.perm_cons_erase member).countP_eq holds, List.countP_cons]

-- Replies on their way, in the order in which their requests were processed:
-- a request is answered once, and its reply is taken off when it is handled.
section Answered

variable {Call Reply : Type} (answered : List (Call × Reply)) (call : Call) (reply : Reply)

theorem answered_snoc (once : (answered.map Prod.fst).Nodup) (unanswered : call ∉ answered.map Prod.fst) :
    ((answered ++ [(call, reply)]).map Prod.fst).Nodup := by
  rw [List.map_append, List.map_singleton, List.nodup_append]
  refine ⟨once, List.nodup_singleton call, ?_⟩
  intro first inFirst second inSecond same
  rw [same, List.mem_singleton.mp inSecond] at inFirst
  exact unanswered inFirst

variable [DecidableEq Call] [BEq Reply]

theorem unanswered_taken (other : Call) (unanswered : other ∉ answered.map Prod.fst) :
    other ∉ (answered.erase (call, reply)).map Prod.fst := by
  intro member
  obtain ⟨pair, inside, named⟩ := List.mem_map.mp member
  exact unanswered (List.mem_map.mpr ⟨pair, List.mem_of_mem_erase inside, named⟩)

variable [LawfulBEq Reply]

theorem answered_taken (once : (answered.map Prod.fst).Nodup) (member : (call, reply) ∈ answered) :
    call ∉ (answered.erase (call, reply)).map Prod.fst ∧ ((answered.erase (call, reply)).map Prod.fst).Nodup := by
  have apart := ((List.perm_cons_erase member).map Prod.fst).nodup_iff.mp once
  rw [List.map_cons, List.nodup_cons] at apart
  exact apart

-- The replies to requests that were processed before the given one, and
-- those to requests that were processed after it.
def ahead : List (Call × Reply) := answered.takeWhile (fun pair => decide (pair.1 ≠ call))

def behind : List (Call × Reply) := (answered.dropWhile (fun pair => decide (pair.1 ≠ call))).tail

theorem ahead_behind (once : (answered.map Prod.fst).Nodup) (member : (call, reply) ∈ answered) :
    answered = ahead answered call ++ (call, reply) :: behind answered call ∧
      answered.erase (call, reply) = ahead answered call ++ behind answered call := by
  induction answered with
  | nil => cases member
  | cons pair rest ih =>
      rw [List.map_cons, List.nodup_cons] at once
      by_cases same : pair = (call, reply)
      · subst same
        simp [ahead, behind]
      · have inside : (call, reply) ∈ rest := (List.mem_cons.mp member).resolve_left (fun equal => same equal.symm)
        have other : pair.1 ≠ call := by
          intro equal
          apply once.1
          rw [equal]
          exact List.mem_map_of_mem inside
        obtain ⟨whole, erased⟩ := ih once.2 inside
        have front : ahead (pair :: rest) call = pair :: ahead rest call := by simp [ahead, other]
        have back : behind (pair :: rest) call = behind rest call := by simp [behind, other]
        rw [front, back, List.cons_append, List.cons_append, ← whole, ← erased]
        exact ⟨rfl, List.erase_cons_tail (by simpa using same)⟩

end Answered

section Newest

variable {Value : Type}

-- What is shown in the end when the values under way arrive in their order.
def newest (shown : Value) (values : List Value) : Value := values.getLastD shown

theorem newest_snoc (shown value : Value) (values : List Value) : newest shown (values ++ [value]) = value := by
  simp [newest]

-- A value may arrive out of turn when the last of the older ones is equal to
-- it, or a later one is still to come.
theorem newest_taken (shown value : Value) (older later : List Value) (kept : newest value older = value ∨ later ≠ []) :
    newest value (older ++ later) = newest shown (older ++ value :: later) := by
  cases List.eq_nil_or_concat later with
  | inl nothing =>
      rw [nothing, List.append_nil, newest_snoc]
      exact kept.resolve_right (fun more => more nothing)
  | inr more =>
      obtain ⟨front, last, rfl⟩ := more
      rw [List.concat_eq_append, ← List.cons_append, ← List.append_assoc, ← List.append_assoc, newest_snoc, newest_snoc]

end Newest

end SmsActivate.Lib
