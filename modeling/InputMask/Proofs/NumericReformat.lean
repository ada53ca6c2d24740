import InputMask.Proofs.NumericTyping

/-!
# Masking a number again

What a numeric mask shows has the digits of the amount, zeros filled up to the decimals and one
digit before them included. Masked again, these digits write the same number, unless the limit
cuts some of them off: it never does when it exceeds the number of decimals, and otherwise the
digit `1` is lost behind the zeros in front of it. The canonical text has the same digits.

## Main definitions

* `NumericConfig.LimitExceedsDecimals`: there is no limit, or it exceeds the number of decimals

## Main results

* `formatNumeric_eq_of_digits`: a text with the digits of the amount has the same output
* `numeric_remask_eq_iff`: masking what is shown changes nothing exactly when the limit leaves
  room for the decimals and one digit before them
-/

namespace InputMask

/-- There is no limit, or it exceeds the number of decimals. -/
def NumericConfig.LimitExceedsDecimals (config : NumericConfig) : Prop :=
  config.maxLength = none ∨ config.maxLength = some 0 ∨
    ∃ limit, config.maxLength = some limit ∧ config.decimals < limit

section Again

variable {config : NumericConfig} {value text : List Char}

/-- Such a limit leaves room for the decimals and one digit before them. -/
theorem limitExceedsDecimals_iff :
    config.LimitExceedsDecimals ↔ config.Admits (config.decimals + 1) := by
  constructor
  · rintro (unlimited | unlimited | ⟨limit, asked, exceeds⟩)
    · exact NumericConfig.admits_of_unlimited (.inl unlimited) _
    · exact NumericConfig.admits_of_unlimited (.inr unlimited) _
    · exact (NumericConfig.admits_iff asked (Nat.zero_lt_of_lt exceeds)).mpr exceeds
  · intro room
    cases asked : config.maxLength with
    | none => exact .inl asked
    | some limit =>
      obtain rfl | positive := Nat.eq_zero_or_pos limit
      · exact .inr (.inl asked)
      · exact .inr (.inr ⟨limit, asked, room limit asked positive⟩)

/-- The limit leaves room for as many digits as are kept. -/
theorem admits_length_keptDigits (config : NumericConfig) (value : List Char) :
    config.Admits (keptDigits config value).length := by
  intro limit asked positive
  rw [keptDigits_eq_take asked positive]
  exact List.length_take_le _ _

/-- Where the limit leaves room for the decimals and a digit before them, it leaves room for all
digits that are shown. -/
theorem admits_length_digits (room : config.Admits (config.decimals + 1))
    (kept : keptDigits config value ≠ []) :
    config.Admits (Amount.ofNat config.decimals (numberOf (keptDigits config value))).digits.length
    := by
  intro limit asked positive
  have filled := room limit asked positive
  have own := admits_length_keptDigits config value limit asked positive
  have bound := length_digits_ofNat_le config.decimals (isNumeral_keptDigits config value) kept
  omega

/-- A text with the digits of the amount has the output that the value has. -/
theorem formatNumeric_eq_of_digits (room : config.Admits (config.decimals + 1))
    (kept : keptDigits config value ≠ [])
    (digits : text.filter isDigit =
      (Amount.ofNat config.decimals (numberOf (keptDigits config value))).digits) :
    formatNumeric config text = formatNumeric config value := by
  have shown : keptDigits config text = text.filter isDigit :=
    keptDigits_of_admits (digits ▸ admits_length_digits room kept)
  have some_digit := lt_length_digits_ofNat config.decimals (numberOf (keptDigits config value))
  rw [digits] at shown
  refine (formatNumeric_eq_iff ?_ kept).mpr ?_
  · rw [shown]
    exact List.ne_nil_of_length_pos (Nat.zero_lt_of_lt some_digit)
  · rw [shown, numberOf_digits_ofNat]

theorem filter_unmasked_formatNumeric (kept : keptDigits config value ≠ []) :
    (formatNumeric config value).unmasked.filter isDigit =
      (Amount.ofNat config.decimals (numberOf (keptDigits config value))).digits := by
  rw [formatNumeric_of_kept kept, filter_canonical_ofNat]

/-- Both texts of a numeric mask are masked to where they came from. -/
theorem formatNumeric_formatNumeric (plain : config.NoDigits)
    (room : config.Admits (config.decimals + 1)) (value : List Char) :
    formatNumeric config (formatNumeric config value).masked = formatNumeric config value ∧
      formatNumeric config (formatNumeric config value).unmasked = formatNumeric config value := by
  by_cases kept : keptDigits config value = []
  · rw [formatNumeric_of_not_kept kept]
    exact ⟨formatNumeric_nil config, formatNumeric_nil config⟩
  · exact ⟨formatNumeric_eq_of_digits room kept (filter_masked_formatNumeric plain kept),
      formatNumeric_eq_of_digits room kept (filter_unmasked_formatNumeric kept)⟩

/-- Without that room, the zeros shown before the digit `1` leave none for it. -/
theorem admits_of_remask_one (plain : config.NoDigits)
    (same : formatNumeric config (formatNumeric config ['1']).masked =
      formatNumeric config ['1']) : config.Admits (config.decimals + 1) := by
  intro limit asked positive
  by_contra narrow
  have one : keptDigits config ['1'] = ['1'] :=
    keptDigits_of_admits ((NumericConfig.admits_iff asked positive).mpr positive)
  have unit : numberOf ['1'] = 1 := by decide
  let digits := (Amount.ofNat config.decimals 1).digits
  have shown : keptDigits config (formatNumeric config ['1']).masked = digits.take limit := by
    rw [keptDigits_eq_take asked positive, filter_masked_formatNumeric plain (by simp [one]), one,
      unit]
  have long : config.decimals < digits.length := lt_length_digits_ofNat config.decimals 1
  have some_shown : digits.take limit ≠ [] := by
    refine List.ne_nil_of_length_pos ?_
    rw [List.length_take]
    omega
  have number := (formatNumeric_eq_iff (by rwa [shown]) (by simp [one])).mp same
  rw [shown, one, unit] at number
  -- the digits cut off are at least one, so what is kept writes at most a tenth of one
  have split := numberOf_append (digits.take limit) (digits.drop limit)
  rw [List.take_append_drop, numberOf_digits_ofNat, number] at split
  have cut : (digits.drop limit).length ≠ 0 := by
    rw [List.length_drop]
    omega
  have large := Nat.one_lt_pow cut (show 1 < 10 by decide)
  omega

end Again

/-- If the texts around the digits hold none, masking what is shown changes nothing, for any
value, if and only if there is no limit or it exceeds the number of decimals. Masking the
canonical text changes nothing then either. -/
theorem numeric_remask_eq_iff (config : NumericConfig) (plain : config.NoDigits) :
    ((∀ value, formatNumeric config (formatNumeric config value).masked =
        formatNumeric config value) ↔ config.LimitExceedsDecimals) ∧
    (config.LimitExceedsDecimals → ∀ value,
      formatNumeric config (formatNumeric config value).unmasked = formatNumeric config value) := by
  rw [limitExceedsDecimals_iff]
  refine ⟨⟨fun stable => admits_of_remask_one plain (stable ['1']), fun room value => ?_⟩,
    fun room value => ?_⟩
  · exact (formatNumeric_formatNumeric plain room value).1
  · exact (formatNumeric_formatNumeric plain room value).2

/-- With two decimals and a limit of three digits `R$ 1,23` is masked to itself, and so is `1.23`.
With a limit of two digits some shown text is not. -/
theorem numeric_remask_two_decimals :
    (formatNumeric { before := "R$ ".toList, decimals := 2, maxLength := some 3 }
        (formatNumeric { before := "R$ ".toList, decimals := 2, maxLength := some 3 }
          "12345".toList).masked =
      ⟨"R$ 1,23".toList, "1.23".toList⟩) ∧
    (formatNumeric { before := "R$ ".toList, decimals := 2, maxLength := some 3 }
        (formatNumeric { before := "R$ ".toList, decimals := 2, maxLength := some 3 }
          "12345".toList).unmasked =
      ⟨"R$ 1,23".toList, "1.23".toList⟩) ∧
    ¬ ∀ value, formatNumeric { decimals := 2, maxLength := some 2 }
        (formatNumeric { decimals := 2, maxLength := some 2 } value).masked =
      formatNumeric { decimals := 2, maxLength := some 2 } value := by
  obtain ⟨stable, canonical⟩ := numeric_remask_eq_iff
    { before := "R$ ".toList, decimals := 2, maxLength := some 3 } (by decide)
  have exceeds : NumericConfig.LimitExceedsDecimals
      { before := "R$ ".toList, decimals := 2, maxLength := some 3 } :=
    .inr (.inr ⟨3, rfl, by decide⟩)
  have narrow : ¬ NumericConfig.LimitExceedsDecimals { decimals := 2, maxLength := some 2 } := by
    simp [NumericConfig.LimitExceedsDecimals]
  refine ⟨?_, ?_, ?_⟩
  · rw [stable.mpr exceeds]
    decide
  · rw [canonical exceeds]
    decide
  · exact (numeric_remask_eq_iff { decimals := 2, maxLength := some 2 } (by decide)).1.not.mpr
      narrow

end InputMask
