import Mathlib.Data.List.Basic

set_option autoImplicit false

namespace SmsActivate.Lib

variable {Key Value : Type} [DecidableEq Key]

-- A finite map as an association list. The first entry of a key decides.
abbrev Table (Key Value : Type) := List (Key × Value)

def tableGet (key : Key) : Table Key Value → Option Value
  | [] => none
  | (other, value) :: rest => if key = other then some value else tableGet key rest

def tableSet (key : Key) (value : Value) (table : Table Key Value) : Table Key Value :=
  (key, value) :: table.filter (fun entry => decide (entry.1 ≠ key))

def tableMerge (update table : Table Key Value) : Table Key Value :=
  update ++ table.filter (fun entry => (tableGet entry.1 update).isNone)

theorem table_get_filter (keep : Key → Bool) (key : Key) (table : Table Key Value) :
    tableGet key (table.filter (fun entry => keep entry.1)) = if keep key then tableGet key table else none := by
  induction table with
  | nil => simp [tableGet]
  | cons entry rest ih =>
      obtain ⟨other, value⟩ := entry
      by_cases same : key = other
      · subst other
        cases kept : keep key <;> simp [kept, tableGet, ih]
      · cases kept : keep other <;> simp [kept, tableGet, same, ih]

theorem table_get_append (key : Key) (first second : Table Key Value) :
    tableGet key (first ++ second) = (tableGet key first).or (tableGet key second) := by
  induction first with
  | nil => simp [tableGet]
  | cons entry rest ih =>
      obtain ⟨other, value⟩ := entry
      by_cases same : key = other <;> simp [tableGet, same, ih]

@[simp] theorem table_get_set_same (key : Key) (value : Value) (table : Table Key Value) :
    tableGet key (tableSet key value table) = some value := by
  simp [tableSet, tableGet]

theorem table_get_set_other (key other : Key) (value : Value) (table : Table Key Value) (different : other ≠ key) :
    tableGet other (tableSet key value table) = tableGet other table := by
  have kept := table_get_filter (fun k => decide (k ≠ key)) other table
  simpa [tableSet, tableGet, different] using kept

theorem table_filter_set_outside (keep : Key → Bool) (key : Key) (value : Value) (table : Table Key Value)
    (outside : keep key = false) :
    (tableSet key value table).filter (fun entry => keep entry.1) = table.filter (fun entry => keep entry.1) := by
  rw [tableSet, List.filter_cons_of_neg (by simp [outside]), List.filter_filter]
  apply List.filter_congr
  intro entry _
  by_cases same : entry.1 = key
  · simp [same, outside]
  · simp [same]

theorem table_get_entry (key : Key) (value : Value) (table : Table Key Value)
    (found : tableGet key table = some value) : (key, value) ∈ table := by
  induction table with
  | nil => cases found
  | cons entry rest ih =>
      obtain ⟨other, held⟩ := entry
      by_cases same : key = other
      · rw [tableGet, if_pos same] at found
        rw [same, Option.some.inj found]
        exact List.mem_cons_self
      · rw [tableGet, if_neg same] at found
        exact List.mem_cons_of_mem _ (ih found)

theorem table_get_merge (key : Key) (update table : Table Key Value) :
    tableGet key (tableMerge update table) = (tableGet key update).or (tableGet key table) := by
  rw [tableMerge, table_get_append, table_get_filter (fun k => (tableGet k update).isNone)]
  cases tableGet key update <;> simp

theorem table_get_none (key : Key) (table : Table Key Value) :
    tableGet key table = none ↔ key ∉ table.map Prod.fst := by
  induction table with
  | nil => simp [tableGet]
  | cons entry rest ih =>
      obtain ⟨other, value⟩ := entry
      by_cases same : key = other <;> simp [tableGet, same, ih]

-- The keys that matter are unique: those of a table built by tableSet alone.
def UniqueKeys (keep : Key → Bool) (table : Table Key Value) : Prop :=
  ((table.filter (fun entry => keep entry.1)).map Prod.fst).Nodup

def tableCount (keep : Key → Bool) (holds : Value → Bool) (table : Table Key Value) : Nat :=
  table.countP (fun entry => keep entry.1 && holds entry.2)

theorem unique_keys_set (keep : Key → Bool) (key : Key) (value : Value) (table : Table Key Value)
    (unique : UniqueKeys keep table) : UniqueKeys keep (tableSet key value table) := by
  have rest : ((table.filter (fun entry => decide (entry.1 ≠ key))).filter (fun entry => keep entry.1)).map Prod.fst |>.Nodup := by
    refine unique.sublist (List.Sublist.map _ ?_)
    rw [List.filter_filter]
    exact List.monotone_filter_right table (fun entry kept => (Bool.and_eq_true_iff.mp kept).1)
  unfold UniqueKeys tableSet
  by_cases kept : keep key = true
  · rw [List.filter_cons, if_pos kept, List.map_cons, List.nodup_cons]
    refine ⟨?_, rest⟩
    intro member
    obtain ⟨entry, found, same⟩ := List.mem_map.mp member
    simp [same] at found
  · rw [List.filter_cons, if_neg kept]
    exact rest

theorem table_count_set (keep : Key → Bool) (holds : Value → Bool) (key : Key) (value : Value) (table : Table Key Value) :
    tableCount keep holds (tableSet key value table) =
      tableCount keep holds (table.filter (fun entry => decide (entry.1 ≠ key))) + if keep key && holds value then 1 else 0 := by
  simp only [tableCount, tableSet, List.countP_cons]

theorem table_filter_absent (key : Key) (table : Table Key Value) (absent : tableGet key table = none) :
    table.filter (fun entry => decide (entry.1 ≠ key)) = table := by
  rw [List.filter_eq_self]
  intro entry member
  have missing := (table_get_none key table).mp absent
  exact decide_eq_true (fun same => missing (same ▸ List.mem_map_of_mem member))

theorem table_count_insert (keep : Key → Bool) (holds : Value → Bool) (key : Key) (value : Value) (table : Table Key Value)
    (kept : keep key = true) (absent : tableGet key table = none) :
    tableCount keep holds (tableSet key value table) = tableCount keep holds table + if holds value then 1 else 0 := by
  rw [table_count_set, table_filter_absent key table absent, kept, Bool.true_and]

theorem table_count_other (keep : Key → Bool) (holds : Value → Bool) (key : Key) (value : Value) (table : Table Key Value)
    (outside : keep key = false) : tableCount keep holds (tableSet key value table) = tableCount keep holds table := by
  rw [table_count_set, outside, Bool.false_and, if_neg Bool.false_ne_true, Nat.add_zero, tableCount, List.countP_filter, tableCount]
  refine List.countP_congr (fun entry _ => ?_)
  by_cases same : entry.1 = key
  · simp [same, outside]
  · simp [same]

theorem table_count_without (keep : Key → Bool) (holds : Value → Bool) (key : Key) (old : Value) (table : Table Key Value)
    (kept : keep key = true) (unique : UniqueKeys keep table) (found : tableGet key table = some old) :
    tableCount keep holds table =
      tableCount keep holds (table.filter (fun entry => decide (entry.1 ≠ key))) + if holds old then 1 else 0 := by
  induction table with
  | nil => cases found
  | cons entry rest ih =>
      obtain ⟨other, value⟩ := entry
      by_cases same : key = other
      · subst other
        have value_eq : value = old := by simpa [tableGet] using found
        have gone : tableGet key rest = none := by
          rw [table_get_none]
          intro member
          obtain ⟨again, inside, named⟩ := List.mem_map.mp member
          rw [UniqueKeys, List.filter_cons, if_pos kept, List.map_cons, List.nodup_cons] at unique
          exact unique.1 (List.mem_map.mpr ⟨again, List.mem_filter.mpr ⟨inside, by rw [named]; exact kept⟩, named⟩)
        rw [List.filter_cons_of_neg (by simp), table_filter_absent key rest gone, value_eq]
        simp [tableCount, List.countP_cons, kept]
      · have later : tableGet key rest = some old := by simpa [tableGet, same] using found
        have restUnique : UniqueKeys keep rest := by
          refine unique.sublist (List.Sublist.map _ ?_)
          exact (List.sublist_cons_self _ _).filter _
        have counted := ih restUnique later
        rw [List.filter_cons_of_pos (by simpa using fun h => same h.symm)]
        simp only [tableCount, List.countP_cons] at counted ⊢
        omega

theorem table_count_replace (keep : Key → Bool) (holds : Value → Bool) (key : Key) (value old : Value) (table : Table Key Value)
    (kept : keep key = true) (unique : UniqueKeys keep table) (found : tableGet key table = some old) :
    tableCount keep holds (tableSet key value table) + (if holds old then 1 else 0) =
      tableCount keep holds table + if holds value then 1 else 0 := by
  rw [table_count_set, table_count_without keep holds key old table kept unique found, kept, Bool.true_and]
  omega

end SmsActivate.Lib
