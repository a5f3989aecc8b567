import Mathlib.Algebra.Group.Int.Defs
import Mathlib.Data.List.Infix

set_option autoImplicit false

namespace SmsActivate

-- A Swift string is the sequence of its Unicode scalars here. A separator that
-- carries a combining mark is outside the model.
def componentsSeparatedBy (separator : Char) (text : String) : List String :=
  (text.toList.splitOn separator).map String.ofList

def replacingOccurrences (target : Char) (replacement text : String) : String :=
  String.ofList (text.toList.flatMap (fun c => if c = target then replacement.toList else [c]))

-- == and dictionaries compare strings by canonical equivalence. An ASCII
-- character is canonically equivalent to itself and to at most one other, the
-- Kelvin sign, the Greek question mark or the Greek varia.
def asciiForm (c : Char) : Char :=
  if c = '\u212A' then 'K' else if c = '\u037E' then ';' else if c = '\u1FEF' then '\x60' else c

-- text == literal, for an ASCII literal. Where the literal has no 'K', ';' or
-- backquote this is equality, and the model then writes =.
def equalsLiteral (literal text : String) : Bool := decide (text.toList.map asciiForm = literal.toList)

-- What the system's library does to text beyond ASCII: the normal form that ==
-- and dictionary keys compare, the search for another text, the lower case.
structure Foundation where
  canonical : String → String
  contains : String → String → Bool
  lowercased : String → String

def fitsInt (number : Int) : Prop := -(2 ^ 63 : Int) ≤ number ∧ number < 2 ^ 63

instance (number : Int) : Decidable (fitsInt number) :=
  inferInstanceAs (Decidable (-(2 ^ 63 : Int) ≤ number ∧ number < 2 ^ 63))

def digitsValue (digits : List Char) : Nat :=
  digits.foldl (fun value c => value * 10 + (c.toNat - '0'.toNat)) 0

-- Int.init?(_ description: String): an optional sign, at least one ASCII
-- digit, nothing else, and the value has to fit in 64 bits.
def intFromDescription (text : String) : Option Int :=
  let parsed : Option Int := match text.toList with
    | '-' :: digits => if digits ≠ [] ∧ digits.all Char.isDigit then some (-(digitsValue digits : Int)) else none
    | '+' :: digits => if digits ≠ [] ∧ digits.all Char.isDigit then some (digitsValue digits : Int) else none
    | digits => if digits ≠ [] ∧ digits.all Char.isDigit then some (digitsValue digits : Int) else none
  parsed.filter (fun value => decide (-(2 ^ 63 : Int) ≤ value ∧ value < 2 ^ 63))

theorem components_nonempty (separator : Char) (text : String) : componentsSeparatedBy separator text ≠ [] := by
  simp [componentsSeparatedBy]

theorem components_whole (separator : Char) (text : String) (plain : separator ∉ text.toList) :
    componentsSeparatedBy separator text = [text] := by
  rw [componentsSeparatedBy, List.splitOn_eq_singleton plain]
  simp

theorem components_first (separator : Char) (text first rest : String) (plain : separator ∉ first.toList)
    (shape : text.toList = first.toList ++ separator :: rest.toList) :
    componentsSeparatedBy separator text = first :: componentsSeparatedBy separator rest := by
  rw [componentsSeparatedBy, shape, List.splitOn_append_cons_self_of_not_mem plain]
  simp [componentsSeparatedBy]

-- The first component ends at the first separator, if there is one.
theorem components_cases (separator : Char) (text : String) :
    (separator ∉ text.toList ∧ componentsSeparatedBy separator text = [text]) ∨
      ∃ first rest, separator ∉ first.toList ∧ text.toList = first.toList ++ separator :: rest.toList ∧
        componentsSeparatedBy separator text = first :: componentsSeparatedBy separator rest := by
  by_cases found : separator ∈ text.toList
  · obtain ⟨before, after, shape, plain⟩ := List.eq_append_cons_of_mem found
    have first : before = (String.ofList before).toList := by simp
    have rest : after = (String.ofList after).toList := by simp
    rw [first] at plain
    rw [first, rest] at shape
    exact .inr ⟨String.ofList before, String.ofList after, plain, shape,
      components_first separator text _ _ plain shape⟩
  · exact .inl ⟨found, components_whole separator text found⟩

theorem replacing_absent (target : Char) (text : String) (absent : target ∉ text.toList) :
    replacingOccurrences target "" text = text := by
  have same : text.toList.flatMap (fun c => if c = target then [] else [c]) = text.toList := by
    generalize text.toList = characters at absent
    induction characters with
    | nil => rfl
    | cons c rest ih =>
        rw [List.mem_cons, not_or] at absent
        rw [List.flatMap_cons, if_neg (fun equal => absent.1 equal.symm), ih absent.2]
        rfl
  rw [replacingOccurrences]
  exact (congrArg String.ofList same).trans (String.ofList_toList)

theorem replacing_keeps (target kept : Char) (text : String) (different : kept ≠ target) (member : kept ∈ text.toList) :
    kept ∈ (replacingOccurrences target "" text).toList := by
  rw [replacingOccurrences, String.toList_ofList, List.mem_flatMap]
  exact ⟨kept, member, by simp [different]⟩

theorem replacing_member (target found : Char) (text : String)
    (member : found ∈ (replacingOccurrences target "" text).toList) : found ∈ text.toList := by
  rw [replacingOccurrences, String.toList_ofList, List.mem_flatMap] at member
  obtain ⟨c, inside, same⟩ := member
  by_cases removed : c = target
  · simp [removed] at same
  · simp only [if_neg removed, List.mem_singleton] at same
    rw [same]
    exact inside

end SmsActivate
