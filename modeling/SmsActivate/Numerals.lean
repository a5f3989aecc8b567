import SmsActivate.Text

set_option autoImplicit false

namespace SmsActivate

theorem digits_value_of_digits (number : Nat) : digitsValue (Nat.toDigits 10 number) = number := by
  have same : digitsValue (Nat.toDigits 10 number) = Nat.ofDigitChars 10 (Nat.toDigits 10 number) 0 := by
    rw [Nat.ofDigitChars_eq_foldl, digitsValue]
    congr 1
    funext value c
    rw [Nat.mul_comm]
  rw [same, Nat.ofDigitChars_ten_toDigits]

theorem digits_all (number : Nat) : (Nat.toDigits 10 number).all Char.isDigit = true := by
  rw [List.all_eq_true]
  intro c member
  exact Nat.isDigit_of_mem_toDigits (by omega) (by omega) member

theorem signed_value (text : String) (number : Nat) (shape : text.toList = '-' :: Nat.toDigits 10 number)
    (fits : fitsInt (-number)) : intFromDescription text = some (-number : Int) := by
  have bounded : decide (-(2 ^ 63 : Int) ≤ -number ∧ (-number : Int) < 2 ^ 63) = true := decide_eq_true fits
  have written : Nat.toDigits 10 number ≠ [] ∧ (Nat.toDigits 10 number).all Char.isDigit = true :=
    ⟨Nat.toDigits_ne_nil, digits_all number⟩
  unfold intFromDescription
  rw [shape]
  simp only
  rw [if_pos written, digits_value_of_digits, Option.filter_some, if_pos bounded]

theorem unsigned_value (text : String) (number : Nat) (shape : text.toList = Nat.toDigits 10 number)
    (fits : fitsInt number) : intFromDescription text = some (number : Int) := by
  have value := digits_value_of_digits number
  have digits := digits_all number
  have nonempty : Nat.toDigits 10 number ≠ [] := Nat.toDigits_ne_nil
  unfold intFromDescription
  rw [shape]
  generalize Nat.toDigits 10 number = characters at value digits nonempty
  cases characters with
  | nil => exact False.elim (nonempty rfl)
  | cons first rest =>
      have head : first.isDigit = true := by
        rw [List.all_cons, Bool.and_eq_true] at digits
        exact digits.1
      split
      · rename_i same
        obtain ⟨rfl, _⟩ := List.cons.inj same
        cases head
      · rename_i same
        obtain ⟨rfl, _⟩ := List.cons.inj same
        cases head
      · have bounded : decide (-(2 ^ 63 : Int) ≤ number ∧ (number : Int) < 2 ^ 63) = true := decide_eq_true fits
        rw [if_pos ⟨nonempty, digits⟩, value, Option.filter_some, if_pos bounded]

-- Every 64-bit integer is read back from its own description.
theorem description_read_back (number : Int) (fits : fitsInt number) : intFromDescription (toString number) = some number := by
  rw [Int.toString_eq_repr, Int.repr_eq_if]
  by_cases natural : 0 ≤ number
  · rw [if_pos natural]
    have same : (number.toNat : Int) = number := Int.toNat_of_nonneg natural
    have parsed := unsigned_value number.toNat.repr number.toNat Nat.toList_repr (same ▸ fits)
    rw [parsed, same]
  · rw [if_neg natural]
    have same : (-((-number).toNat : Int)) = number := by omega
    have shape : ("-" ++ (-number).toNat.repr).toList = '-' :: Nat.toDigits 10 (-number).toNat := by
      rw [String.toList_append, Nat.toList_repr]
      rfl
    have parsed := signed_value ("-" ++ (-number).toNat.repr) (-number).toNat shape (same.symm ▸ fits)
    rw [parsed, same]

end SmsActivate
