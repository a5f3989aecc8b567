import Mathlib.Data.List.Basic

set_option autoImplicit false

namespace SmsActivate.Lib

-- A copy kept up to date by reading: with each change of the source there are
-- notices, each notice leads to a read, and what reads have found waits in a
-- queue until it replaces the copy.
structure Mirror (Value Copy : Type) where
  source : Value
  notices : Nat
  reads : Nat
  results : List Value
  shown : Copy

-- What is kept of a queue when its first kept item, or one that is not kept,
-- is taken off.
theorem filter_first {Item : Type} [BEq Item] [LawfulBEq Item] (keep : Item → Bool) (items : List Item) (item : Item)
    (member : item ∈ items) (kept : keep item = true)
    (first : ∀ earlier ∈ items.takeWhile (fun other => other != item), keep earlier = false) :
    items.filter keep = item :: (items.erase item).filter keep := by
  induction items with
  | nil => cases member
  | cons other rest ih =>
      by_cases same : other = item
      · subst same
        rw [List.erase_cons_head, List.filter_cons_of_pos kept]
      · have skips : (other != item) = true := by simpa using same
        rw [List.takeWhile_cons, if_pos skips] at first
        have dropped : keep other = false := first other (by simp)
        have inside : item ∈ rest := (List.mem_cons.mp member).resolve_left (fun equal => same equal.symm)
        rw [List.erase_cons_tail (by simpa using same), List.filter_cons_of_neg (by simp [dropped]),
          List.filter_cons_of_neg (by simp [dropped])]
        exact ih inside (fun earlier before => first earlier (List.mem_cons_of_mem _ before))

theorem filter_erase_dropped {Item : Type} [BEq Item] [LawfulBEq Item] (keep : Item → Bool) (items : List Item) (item : Item)
    (dropped : keep item = false) : (items.erase item).filter keep = items.filter keep := by
  induction items with
  | nil => rfl
  | cons other rest ih =>
      by_cases same : other = item
      · subst same
        rw [List.erase_cons_head, List.filter_cons_of_neg (by simp [dropped])]
      · rw [List.erase_cons_tail (by simpa using same), List.filter_cons, List.filter_cons, ih]

section Mirrors

variable {Value Copy : Type} (shows : Copy → Value → Prop)

inductive MirrorMove (m : Mirror Value Copy) : Mirror Value Copy → Prop where
  | still : MirrorMove m m
  | change (value : Value) (more : Nat) : MirrorMove m { m with source := value, notices := m.notices + (more + 1) }
  | ask (more : Nat) : MirrorMove m { m with reads := m.reads + more }
  | refresh (left : Nat) (noticed : m.notices = left + 1) :
      MirrorMove m { m with notices := left, reads := m.reads + 1 }
  | serve (left : Nat) (asked : m.reads = left + 1) :
      MirrorMove m { m with reads := left, results := m.results ++ [m.source] }
  | deliver (value : Value) (rest : List Value) (copy : Copy) (first : m.results = value :: rest)
      (replaces : shows copy value) : MirrorMove m { m with results := rest, shown := copy }

-- Why the copy will be right: a read is still to come, or the newest value
-- found is the current one.
inductive Fresh (m : Mirror Value Copy) : Prop where
  | noticed (pending : 0 < m.notices) : Fresh m
  | asked (pending : 0 < m.reads) : Fresh m
  | found (older : List Value) (queue : m.results = older ++ [m.source]) : Fresh m
  | current (queue : m.results = []) (right : shows m.shown m.source) : Fresh m

theorem mirror_move_fresh (m n : Mirror Value Copy) (move : MirrorMove shows m n) (fresh : Fresh shows m) : Fresh shows n := by
  cases move with
  | still => exact fresh
  | change value more => exact .noticed (Nat.add_pos_right m.notices (Nat.succ_pos more))
  | ask more =>
      cases fresh with
      | noticed pending => exact .noticed pending
      | asked pending => exact .asked (Nat.add_pos_left pending more)
      | found older queue => exact .found older queue
      | current queue right => exact .current queue right
  | refresh left noticed => exact .asked (Nat.succ_pos m.reads)
  | serve left asked => exact .found m.results rfl
  | deliver value rest copy first replaces =>
      cases fresh with
      | noticed pending => exact .noticed pending
      | asked pending => exact .asked pending
      | found older queue =>
          rw [first] at queue
          cases older with
          | nil =>
              obtain ⟨same, nothing⟩ := List.cons.inj queue
              refine .current nothing ?_
              rw [same] at replaces
              exact replaces
          | cons oldest more =>
              obtain ⟨_, left⟩ := List.cons.inj queue
              exact .found more left
      | current queue right => cases first.symm.trans queue

theorem mirror_settled (m : Mirror Value Copy) (fresh : Fresh shows m) (notices : m.notices = 0) (reads : m.reads = 0)
    (results : m.results = []) : shows m.shown m.source := by
  cases fresh with
  | noticed pending => omega
  | asked pending => omega
  | found older queue =>
      rw [results] at queue
      exact False.elim (List.append_ne_nil_of_right_ne_nil older (by simp) queue.symm)
  | current queue right => exact right

end Mirrors

end SmsActivate.Lib
