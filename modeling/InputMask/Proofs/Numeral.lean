import InputMask.Numeric.Format
import Mathlib.Tactic.Positivity

/-!
# Rows of digits and the numbers they write

A numeric mask cuts, trims, pads and splits rows of digits. Each of these is arithmetic on the
number that the row writes: trimming gives its numeral, and splitting off the last digits is
division by a power of ten.

## Main definitions

* `IsNumeral`: a text of ASCII digits
* `numberOf`: the number that a row of digits writes
* `decimalsOf`: the last digits of a number, with zeros in front

## Main results

* `numberOf_append`: a row of digits behind another
* `trimZeros_eq_toDigits`: a row without superfluous zeros in front is the numeral of its number
* `toDigits_split`: a large numeral is that of the quotient with the last digits behind it
-/

namespace InputMask

/-- A text of ASCII digits. -/
def IsNumeral (digits : List Char) : Prop :=
  ∀ c ∈ digits, isDigit c = true

instance (digits : List Char) : Decidable (IsNumeral digits) :=
  List.decidableBAll (isDigit · = true) digits

/-- The number that a row of digits writes; an empty row writes zero. -/
def numberOf (digits : List Char) : Nat :=
  Nat.ofDigitChars 10 digits 0

/-- The last digits of a number, as many as asked for. -/
def decimalsOf (count number : Nat) : List Char :=
  (Nat.toDigits 10 (number % 10 ^ count)).leftpad count '0'

section Numeral

variable {digits others : List Char} {c : Char} {count number : Nat}

theorem isDigit_iff : isDigit c = true ↔ 48 ≤ c.toNat ∧ c.toNat ≤ 57 := by
  rw [isDigit, Bool.and_eq_true, decide_eq_true_iff, decide_eq_true_iff]
  rfl

theorem isNumeral_cons_iff : IsNumeral (c :: digits) ↔ isDigit c = true ∧ IsNumeral digits :=
  List.forall_mem_cons

theorem isNumeral_append_iff :
    IsNumeral (digits ++ others) ↔ IsNumeral digits ∧ IsNumeral others := by
  simp [IsNumeral, or_imp, forall_and]

theorem isNumeral_filter (text : List Char) : IsNumeral (text.filter isDigit) :=
  fun _ member => (List.mem_filter.mp member).2

theorem IsNumeral.filter_eq (numeral : IsNumeral digits) : digits.filter isDigit = digits :=
  List.filter_eq_self.mpr numeral

theorem isNumeral_toDigits (number : Nat) : IsNumeral (Nat.toDigits 10 number) := by
  intro c member
  have digit := Nat.isDigit_of_mem_toDigits (by decide) (by decide) member
  rw [Char.isDigit, Bool.and_eq_true, decide_eq_true_iff, decide_eq_true_iff] at digit
  exact isDigit_iff.mpr digit

theorem isNumeral_decimalsOf (count number : Nat) : IsNumeral (decimalsOf count number) := by
  rw [decimalsOf, List.leftpad, isNumeral_append_iff]
  refine ⟨fun c member => ?_, isNumeral_toDigits _⟩
  rw [List.eq_of_mem_replicate member]
  rfl

/-- A digit is written as its value says. -/
theorem digitChar_of_isDigit (digit : isDigit c = true) : Nat.digitChar (c.toNat - 48) = c := by
  obtain ⟨least, most⟩ := isDigit_iff.mp digit
  apply Char.toNat_inj.mp
  rw [Nat.toNat_digitChar_of_lt_ten (by omega)]
  omega

theorem numberOf_cons (c : Char) (digits : List Char) :
    numberOf (c :: digits) = Nat.ofDigitChars 10 digits (c.toNat - 48) := by
  rw [numberOf, Nat.ofDigitChars_cons, Nat.mul_zero, Nat.zero_add]
  rfl

theorem numberOf_append (digits others : List Char) :
    numberOf (digits ++ others) = 10 ^ others.length * numberOf digits + numberOf others := by
  rw [numberOf, Nat.ofDigitChars_append, Nat.ofDigitChars_eq_ofDigitChars_zero]
  rfl

/-- The first ones of some digits write no larger number than all of them. -/
theorem numberOf_take_le (count : Nat) (digits : List Char) :
    numberOf (digits.take count) ≤ numberOf digits := by
  have split := numberOf_append (digits.take count) (digits.drop count)
  rw [List.take_append_drop] at split
  have scaled := Nat.le_mul_of_pos_left (numberOf (digits.take count))
    (show 0 < 10 ^ (digits.drop count).length by positivity)
  omega

@[simp] theorem numberOf_toDigits (number : Nat) : numberOf (Nat.toDigits 10 number) = number :=
  Nat.ofDigitChars_ten_toDigits

/-- Digits behind the numeral of a positive number make a numeral. -/
theorem toDigits_append (positive : 0 < number) (numeral : IsNumeral digits) :
    Nat.toDigits 10 number ++ digits = Nat.toDigits 10 (Nat.ofDigitChars 10 digits number) := by
  induction digits generalizing number with
  | nil => simp
  | cons c digits ih =>
    obtain ⟨digit, others⟩ := isNumeral_cons_iff.mp numeral
    have small : c.toNat - 48 < 10 := by
      have bounds := isDigit_iff.mp digit
      omega
    have first : Nat.toDigits 10 number ++ [c] =
        Nat.toDigits 10 (10 * number + (c.toNat - 48)) := by
      rw [← Nat.toDigits_append_toDigits (by decide) positive small,
        Nat.toDigits_of_lt_base small, digitChar_of_isDigit digit]
    -- the first of the digits goes to the numeral, which stays one of a positive number
    rw [Nat.ofDigitChars_cons, List.append_cons, first]
    exact ih (by omega) others

/-- Without the zeros in front, digits are the numeral of their number, or nothing is left. -/
theorem dropWhile_zero_eq (numeral : IsNumeral digits) :
    digits.dropWhile (· = '0') =
      if numberOf digits = 0 then [] else Nat.toDigits 10 (numberOf digits) := by
  induction digits with
  | nil => rfl
  | cons c digits ih =>
    obtain ⟨digit, others⟩ := isNumeral_cons_iff.mp numeral
    have behind := ih others
    by_cases zero : c = '0'
    · subst zero
      have same : numberOf ('0' :: digits) = numberOf digits := numberOf_cons '0' digits
      rw [List.dropWhile_cons_of_pos (by simp), same, behind]
    · obtain ⟨least, most⟩ := isDigit_iff.mp digit
      have other : c.toNat ≠ 48 := fun same => zero (Char.toNat_inj.mp same)
      have positive : 0 < c.toNat - 48 := by omega
      have whole := toDigits_append positive others
      rw [Nat.toDigits_of_lt_base (by omega), digitChar_of_isDigit digit, ← numberOf_cons] at whole
      have more : numberOf (c :: digits) ≠ 0 := by
        rw [numberOf_cons, Nat.ofDigitChars_eq_ofDigitChars_zero]
        positivity
      rw [List.dropWhile_cons_of_neg (by simpa using zero), if_neg more, ← whole]
      rfl

/-- A row of digits without superfluous zeros in front is the numeral of its number. -/
theorem trimZeros_eq_toDigits (numeral : IsNumeral digits) :
    trimZeros digits = Nat.toDigits 10 (numberOf digits) := by
  rw [trimZeros, dropWhile_zero_eq numeral]
  by_cases zero : numberOf digits = 0
  · simp [zero]
  · have some_digit : Nat.toDigits 10 (numberOf digits) ≠ [] := Nat.toDigits_ne_nil
    rw [if_neg zero]
    split
    · contradiction
    · rfl

theorem length_decimalsOf (some_decimal : 0 < count) :
    (decimalsOf count number).length = count := by
  have small : number % 10 ^ count < 10 ^ count := Nat.mod_lt _ (by positivity)
  have short := (Nat.length_toDigits_le_iff (by decide) some_decimal).mpr small
  rw [decimalsOf, List.length_leftpad, Nat.max_eq_left short]

theorem decimalsOf_ne_nil (some_decimal : 0 < count) : decimalsOf count number ≠ [] := by
  rw [← List.length_pos_iff, length_decimalsOf some_decimal]
  exact some_decimal

@[simp] theorem numberOf_decimalsOf : numberOf (decimalsOf count number) = number % 10 ^ count := by
  rw [decimalsOf, List.leftpad, numberOf_append, numberOf_toDigits, numberOf,
    Nat.ofDigitChars_replicate_zero, Nat.mul_zero, Nat.mul_zero, Nat.zero_add]

/-- The numeral of a large number is that of the quotient, with the last digits behind it. -/
theorem toDigits_split (some_decimal : 0 < count) (large : 10 ^ count ≤ number) :
    Nat.toDigits 10 number = Nat.toDigits 10 (number / 10 ^ count) ++ decimalsOf count number := by
  have positive : 0 < number / 10 ^ count := Nat.div_pos large (by positivity)
  rw [toDigits_append positive (isNumeral_decimalsOf count number),
    Nat.ofDigitChars_eq_ofDigitChars_zero, length_decimalsOf some_decimal]
  have last : Nat.ofDigitChars 10 (decimalsOf count number) 0 = number % 10 ^ count :=
    numberOf_decimalsOf
  rw [last, Nat.div_add_mod]

/-- The last digits of a small number are its numeral with zeros in front. -/
theorem decimalsOf_of_lt (small : number < 10 ^ count) :
    decimalsOf count number = padZeros count (Nat.toDigits 10 number) := by
  rw [decimalsOf, Nat.mod_eq_of_lt small]
  rfl

end Numeral

end InputMask
