import InputMask.Proofs.Numeral
import Mathlib.Data.List.TakeWhile

/-!
# The number a numeric mask shows

The kept digits of a value write one number. Its last digits are the decimals: the whole part
is the quotient by a power of ten and the decimals are the remainder, so both texts of the mask
depend on the number alone, and show it. The canonical text is never refused.

## Main definitions

* `Amount.ofNat`: the amount that a number is, with a number of decimals
* `Amount.digits`: the digits of an amount

## Main results

* `ofDigits_toDigits`: splitting a numeral is division with remainder
* `length_digits_ofNat_le`: how many digits the filling zeros add
* `formatNumeric_of_kept`: the output of a numeric mask, from the number alone
* `formatNumeric_eq_iff`: values have the same output if they write the same number
* `unmasked_formatNumeric_of_kept`: the unmasked text in numerals of quotient and remainder
-/

namespace InputMask

/-- The amount that a number is, its last digits being the decimals. -/
def Amount.ofNat (decimals number : Nat) : Amount :=
  if decimals = 0 then
    ⟨Nat.toDigits 10 number, none⟩
  else
    ⟨Nat.toDigits 10 (number / 10 ^ decimals), some (decimalsOf decimals number)⟩

/-- The digits of an amount, those of the whole part first. -/
def Amount.digits (amount : Amount) : List Char :=
  amount.whole ++ amount.fraction.getD []

/-- Splitting the numeral of a number is division with remainder. -/
theorem ofDigits_toDigits (decimals number : Nat) :
    Amount.ofDigits decimals (Nat.toDigits 10 number) = Amount.ofNat decimals number := by
  rw [Amount.ofDigits, Amount.ofNat]
  by_cases none_asked : decimals = 0
  · rw [if_pos none_asked, if_pos none_asked]
  · rw [if_neg none_asked, if_neg none_asked]
    have some_asked : 0 < decimals := Nat.pos_of_ne_zero none_asked
    have length : (decimalsOf decimals number).length = decimals := length_decimalsOf some_asked
    by_cases small : number < 10 ^ decimals
    · rw [← decimalsOf_of_lt small]
      simp [length, Nat.div_eq_of_lt small]
    · have large : 10 ^ decimals ≤ number := Nat.not_lt.mp small
      have long := (Nat.length_toDigits_le_iff (b := 10) (by decide) some_asked).not.mpr small
      have unpadded : padZeros decimals (Nat.toDigits 10 number) = Nat.toDigits 10 number := by
        rw [padZeros, Nat.sub_eq_zero_of_le (Nat.le_of_not_le long), List.replicate_zero,
          List.nil_append]
      rw [unpadded, toDigits_split some_asked large]
      simp [length, Nat.toDigits_ne_nil]

section Digits

variable {digits : List Char}

theorem isNumeral_digits_ofNat (decimals number : Nat) :
    IsNumeral (Amount.ofNat decimals number).digits := by
  rw [Amount.digits, Amount.ofNat]
  split
  · simpa using isNumeral_toDigits number
  · exact isNumeral_append_iff.mpr ⟨isNumeral_toDigits _, isNumeral_decimalsOf _ _⟩

/-- The digits of the amount that a number is write the number. -/
@[simp]
theorem numberOf_digits_ofNat (decimals number : Nat) :
    numberOf (Amount.ofNat decimals number).digits = number := by
  rw [Amount.digits, Amount.ofNat]
  by_cases none_asked : decimals = 0
  · simp [none_asked]
  · rw [if_neg none_asked]
    simp only [Option.getD_some, numberOf_append, numberOf_toDigits, numberOf_decimalsOf,
      length_decimalsOf (Nat.pos_of_ne_zero none_asked)]
    exact Nat.div_add_mod number _

/-- Only the dot is not a digit in the canonical text. -/
theorem filter_canonical_ofNat (decimals number : Nat) :
    (Amount.ofNat decimals number).canonical.filter isDigit =
      (Amount.ofNat decimals number).digits := by
  have dot : isDigit '.' = false := by decide
  rw [Amount.canonical, Amount.digits, Amount.ofNat]
  split_ifs
  · simp [(isNumeral_toDigits _).filter_eq]
  · simp [(isNumeral_toDigits _).filter_eq, (isNumeral_decimalsOf _ _).filter_eq, dot]

theorem length_digits_ofNat (decimals number : Nat) :
    (Amount.ofNat decimals number).digits.length =
      (Nat.toDigits 10 (number / 10 ^ decimals)).length + decimals := by
  rw [Amount.digits, Amount.ofNat]
  by_cases none_asked : decimals = 0
  · simp [none_asked]
  · simp [none_asked, length_decimalsOf (Nat.pos_of_ne_zero none_asked)]

/-- An amount has all its decimals and at least one digit before them. -/
theorem lt_length_digits_ofNat (decimals number : Nat) :
    decimals < (Amount.ofNat decimals number).digits.length := by
  have some_digit := List.length_pos_of_ne_nil
    (Nat.toDigits_ne_nil (n := number / 10 ^ decimals) (b := 10))
  rw [length_digits_ofNat]
  omega

theorem length_trimZeros_le (some_digit : digits ≠ []) :
    (trimZeros digits).length ≤ digits.length := by
  rw [trimZeros]
  split
  · exact List.length_pos_of_ne_nil some_digit
  · exact (List.dropWhile_suffix _).length_le

/-- Zeros are filled up to the decimals and one digit before them, and no further. -/
theorem length_digits_ofNat_le (decimals : Nat) (numeral : IsNumeral digits)
    (some_digit : digits ≠ []) :
    (Amount.ofNat decimals (numberOf digits)).digits.length ≤
      max digits.length (decimals + 1) := by
  rw [length_digits_ofNat]
  by_cases small : numberOf digits < 10 ^ decimals
  · rw [Nat.div_eq_of_lt small, Nat.toDigits_zero, List.length_singleton]
    omega
  · have large : 10 ^ decimals ≤ numberOf digits := Nat.not_lt.mp small
    have trimmed := length_trimZeros_le some_digit
    rw [trimZeros_eq_toDigits numeral] at trimmed
    obtain rfl | some_asked := Nat.eq_zero_or_pos decimals
    · simp [trimmed]
    · rw [toDigits_split some_asked large, List.length_append, length_decimalsOf some_asked]
        at trimmed
      exact trimmed.trans (Nat.le_max_left _ _)

end Digits

section Canonical

variable {digits others : List Char}

/-- ASCII digits are among the decimal digits of all scripts. -/
theorem isDecimalDigit_of_isDigit {c : Char} (digit : isDigit c = true) :
    Unicode.isDecimalDigit c = true := by
  obtain ⟨least, most⟩ := isDigit_iff.mp digit
  simp only [Unicode.isDecimalDigit, Unicode.zeros, List.any_cons, Bool.or_eq_true,
    Bool.and_eq_true, decide_eq_true_iff]
  exact Or.inl ⟨by omega, by omega⟩

theorem IsNumeral.all_isDecimalDigit (numeral : IsNumeral digits) :
    ∀ c ∈ digits, Unicode.isDecimalDigit c = true :=
  fun c member => isDecimalDigit_of_isDigit (numeral c member)

/-- One or more digits are a canonical number. -/
theorem isCanonicalNumber_of_isNumeral (numeral : IsNumeral digits) (some_digit : digits ≠ []) :
    isCanonicalNumber digits = true := by
  have all := numeral.all_isDecimalDigit
  rw [isCanonicalNumber, List.takeWhile_eq_self_iff.mpr all, List.dropWhile_eq_nil_iff.mpr all]
  simpa [some_digit] using all

/-- Digits, a dot and digits are a canonical number. -/
theorem isCanonicalNumber_append (numeral : IsNumeral digits) (some_digit : digits ≠ [])
    (numeral' : IsNumeral others) (some_other : others ≠ []) :
    isCanonicalNumber (digits ++ '.' :: others) = true := by
  have all := numeral.all_isDecimalDigit
  have all' := numeral'.all_isDecimalDigit
  have dot : Unicode.isDecimalDigit '.' = false := by decide
  rw [isCanonicalNumber, List.takeWhile_append_of_pos all, List.dropWhile_append_of_pos all,
    List.takeWhile_cons_of_neg (by simp [dot]), List.dropWhile_cons_of_neg (by simp [dot])]
  simpa [some_digit, some_other] using ⟨all, all'⟩

/-- The canonical text of a number is never refused. -/
theorem isCanonicalNumber_canonical_ofNat (decimals number : Nat) :
    isCanonicalNumber (Amount.ofNat decimals number).canonical = true := by
  rw [Amount.ofNat]
  by_cases none_asked : decimals = 0
  · rw [if_pos none_asked]
    exact isCanonicalNumber_of_isNumeral (isNumeral_toDigits _) Nat.toDigits_ne_nil
  · rw [if_neg none_asked]
    exact isCanonicalNumber_append (isNumeral_toDigits _) Nat.toDigits_ne_nil
      (isNumeral_decimalsOf _ _) (decimalsOf_ne_nil (Nat.pos_of_ne_zero none_asked))

end Canonical

section Format

variable {config : NumericConfig} {value other : List Char}

theorem isNumeral_keptDigits (config : NumericConfig) (value : List Char) :
    IsNumeral (keptDigits config value) := by
  have numeral := isNumeral_filter value
  rw [keptDigits]
  split
  · exact numeral
  · exact numeral
  · exact fun c member => numeral c (List.mem_of_mem_take member)

/-- Without a kept digit there is no output. -/
theorem formatNumeric_of_not_kept (none_kept : keptDigits config value = []) :
    formatNumeric config value = .empty := by
  rw [formatNumeric, amount?, none_kept]

@[simp]
theorem formatNumeric_nil (config : NumericConfig) : formatNumeric config [] = .empty := by
  refine formatNumeric_of_not_kept ?_
  rw [keptDigits]
  split <;> simp

/-- The amount depends on the number alone that the kept digits write. -/
theorem amount?_of_kept (kept : keptDigits config value ≠ []) :
    amount? config value =
      some (.ofNat config.decimals (numberOf (keptDigits config value))) := by
  rw [amount?]
  split
  · contradiction
  · rw [trimZeros_eq_toDigits (isNumeral_keptDigits config value), ofDigits_toDigits]

/-- The output of a numeric mask depends on the number alone that the kept digits write. -/
theorem formatNumeric_of_kept (kept : keptDigits config value ≠ []) :
    formatNumeric config value =
      ⟨(Amount.ofNat config.decimals (numberOf (keptDigits config value))).display config,
        (Amount.ofNat config.decimals (numberOf (keptDigits config value))).canonical⟩ := by
  rw [formatNumeric, amount?_of_kept kept]
  simp only [isCanonicalNumber_canonical_ofNat, if_true]

/-- The digits of the unmasked text write the number that the kept digits write. -/
theorem numberOf_unmasked_formatNumeric (kept : keptDigits config value ≠ []) :
    numberOf ((formatNumeric config value).unmasked.filter isDigit) =
      numberOf (keptDigits config value) := by
  rw [formatNumeric_of_kept kept, filter_canonical_ofNat, numberOf_digits_ofNat]

/-- Values with kept digits have the same output if and only if these write the same number. -/
theorem formatNumeric_eq_iff (kept : keptDigits config value ≠ [])
    (kept' : keptDigits config other ≠ []) :
    formatNumeric config value = formatNumeric config other ↔
      numberOf (keptDigits config value) = numberOf (keptDigits config other) := by
  constructor
  · intro same
    rw [← numberOf_unmasked_formatNumeric kept, same, numberOf_unmasked_formatNumeric kept']
  · intro number
    rw [formatNumeric_of_kept kept, formatNumeric_of_kept kept', number]

end Format

/-- The unmasked text of a value with digits is the numeral of the number that the kept ones
write, or with decimals the numeral of the quotient, a dot, and the remainder filled up with
zeros to exactly as many digits as there are decimals. -/
theorem unmasked_formatNumeric_of_kept (config : NumericConfig) (value : List Char)
    (kept : keptDigits config value ≠ []) :
    (config.decimals = 0 → (formatNumeric config value).unmasked =
      Nat.toDigits 10 (numberOf (keptDigits config value))) ∧
    (0 < config.decimals →
      (formatNumeric config value).unmasked =
        Nat.toDigits 10 (numberOf (keptDigits config value) / 10 ^ config.decimals) ++
          '.' :: decimalsOf config.decimals (numberOf (keptDigits config value)) ∧
      (decimalsOf config.decimals (numberOf (keptDigits config value))).length =
        config.decimals) := by
  rw [formatNumeric_of_kept kept, Amount.canonical, Amount.ofNat]
  refine ⟨fun none_asked => ?_, fun some_asked => ⟨?_, length_decimalsOf some_asked⟩⟩
  · rw [if_pos none_asked]
  · rw [if_neg (Nat.ne_of_gt some_asked)]

/-- Of `R$ 00 12,3x45` four digits are kept, which write twelve. -/
theorem unmasked_twelve_hundredths :
    (formatNumeric { decimals := 2, maxLength := some 4 } "R$ 00 12,3x45".toList).unmasked =
      "0.12".toList := by
  have value := (unmasked_formatNumeric_of_kept { decimals := 2, maxLength := some 4 }
    "R$ 00 12,3x45".toList (by decide)).2 (by decide)
  rw [value.1]
  decide

end InputMask
