import Mathlib.Data.List.Basic

set_option autoImplicit false

namespace SmsActivate.Lib

variable {Symbol : Type}

-- Named values as one text: an assignment sign between a name and its value,
-- a separator between two items.
abbrev Item (Symbol : Type) := List Symbol × List Symbol

def writeItem (assign : Symbol) (item : Item Symbol) : List Symbol := item.1 ++ assign :: item.2

def writeItems (separator assign : Symbol) (items : List (Item Symbol)) : List Symbol :=
  [separator].intercalate (items.map (writeItem assign))

structure Separable (separator assign : Symbol) (item : Item Symbol) : Prop where
  name : separator ∉ item.1
  unassigned : assign ∉ item.1
  value : separator ∉ item.2

theorem written_whole (separator assign : Symbol) (different : separator ≠ assign) (item : Item Symbol)
    (separable : Separable separator assign item) : separator ∉ writeItem assign item := by
  intro member
  cases List.mem_append.mp member with
  | inl name => exact separable.name name
  | inr rest =>
      cases List.mem_cons.mp rest with
      | inl sign => exact different sign
      | inr value => exact separable.value value

variable [DecidableEq Symbol]

def readItem (assign : Symbol) (text : List Symbol) : Item Symbol :=
  (text.takeWhile (fun c => decide (c ≠ assign)), (text.dropWhile (fun c => decide (c ≠ assign))).drop 1)

def readItems (separator assign : Symbol) (text : List Symbol) : List (Item Symbol) :=
  (text.splitOn separator).map (readItem assign)

theorem item_read_back (assign : Symbol) (item : Item Symbol) (unassigned : assign ∉ item.1) :
    readItem assign (writeItem assign item) = item := by
  have passed : ∀ c ∈ item.1, decide (c ≠ assign) = true := by
    intro c member
    exact decide_eq_true (fun same => unassigned (same ▸ member))
  rw [readItem, writeItem, List.takeWhile_append_of_pos passed, List.dropWhile_append_of_pos passed,
    List.takeWhile_cons_of_neg (by simp), List.dropWhile_cons_of_neg (by simp), List.append_nil]
  rfl

theorem items_read_back (separator assign : Symbol) (different : separator ≠ assign) (items : List (Item Symbol))
    (nonempty : items ≠ []) (separable : ∀ item ∈ items, Separable separator assign item) :
    readItems separator assign (writeItems separator assign items) = items := by
  have whole : ∀ text ∈ items.map (writeItem assign), separator ∉ text := by
    intro text member
    obtain ⟨item, inside, rfl⟩ := List.mem_map.mp member
    exact written_whole separator assign different item (separable item inside)
  have nothing : items.map (writeItem assign) ≠ [] := by
    rw [ne_eq, List.map_eq_nil_iff]
    exact nonempty
  rw [readItems, writeItems, List.splitOn_intercalate separator whole nothing, List.map_map]
  calc items.map (readItem assign ∘ writeItem assign)
      = items.map id := List.map_congr_left (fun item member => item_read_back assign item (separable item member).unassigned)
    _ = items := List.map_id items

end SmsActivate.Lib
