import InputMask.Proofs.NumericValue

/-!
# The form of what a numeric mask shows

A numeric mask shows nothing at all, or a number in both its texts. The unmasked text is a numeral,
with decimals two of them and a dot between. The masked text is the same numerals dressed as the
settings ask: the whole part cut into groups of three digits from the right, which leaves one to
three digits for the first group, and the texts of the settings between and around them.

## Main definitions

* `IsDecimalText`: a numeral, or two of them and a dot between
* `IsGrouping`: digits cut into groups, the first of one to three digits, the others of three

## Main results

* `exists_isGrouping_groupThousands`: grouping by thousands joins such groups
* `malformedNumber?_eq_none`: no canonical text is refused
* `formatNumeric_never_malformed`: nothing is shown, or a number in both texts
* `masked_formatNumeric_layout`: how the masked text is put together
-/

namespace InputMask

/-- One or more ASCII digits, optionally followed by a dot and one or more ASCII digits. -/
def IsDecimalText (text : List Char) : Prop :=
  ∃ whole, IsNumeral whole ∧ whole ≠ [] ∧
    (text = whole ∨
      ∃ fraction, IsNumeral fraction ∧ fraction ≠ [] ∧ text = whole ++ '.' :: fraction)

/-- Digits cut into groups: one to three digits, and three in each group behind. -/
structure IsGrouping (digits first : List Char) (others : List (List Char)) : Prop where
  joined : first ++ others.flatten = digits
  some_first : 1 ≤ first.length
  short_first : first.length ≤ 3
  full_others : ∀ group ∈ others, group.length = 3

/-! ### Groups of three digits -/

section Groups

variable {delimiter digits first last : List Char} {others pieces : List (List Char)}

theorem intercalate_concat (delimiter last : List Char) (some_piece : pieces ≠ []) :
    delimiter.intercalate (pieces ++ [last]) =
      delimiter.intercalate pieces ++ delimiter ++ last := by
  induction pieces with
  | nil => exact absurd rfl some_piece
  | cons piece pieces ih =>
    by_cases none : pieces = []
    · simp [none]
    · rw [List.cons_append, List.intercalate_cons_of_ne_nil (by simp), ih none,
        List.intercalate_cons_of_ne_nil none]
      simp

/-- Three more digits behind some are a group of their own. -/
theorem IsGrouping.concat (grouping : IsGrouping digits first others) (a b c : Char) :
    IsGrouping (digits ++ [a, b, c]) first (others ++ [[a, b, c]]) where
  joined := by simp [← grouping.joined]
  some_first := grouping.some_first
  short_first := grouping.short_first
  full_others := by
    intro group among
    obtain before | rfl := by simpa using among
    · exact grouping.full_others group before
    · rfl

/-- Digits set from the right come in groups with the delimiter between them. -/
theorem exists_isGrouping_groupFromRight (delimiter : List Char) (some_digit : digits ≠ []) :
    ∃ first others, IsGrouping digits.reverse first others ∧
      (groupFromRight delimiter.reverse digits).reverse =
        delimiter.intercalate (first :: others) := by
  induction digits using groupFromRight.induct with
  | case1 a b c d rest ih =>
    obtain ⟨first, others, grouping, grouped⟩ := ih (List.cons_ne_nil d rest)
    have joined := intercalate_concat delimiter [c, b, a] (List.cons_ne_nil first others)
    rw [List.cons_append, ← grouped] at joined
    refine ⟨first, others ++ [[c, b, a]], ?_, ?_⟩
    · simpa using grouping.concat c b a
    · rw [groupFromRight, joined]
      simp
  | case2 digits short =>
    have ungrouped : groupFromRight delimiter.reverse digits = digits := by
      rw [groupFromRight]
      exact short
    refine ⟨digits.reverse, [], ⟨by simp, ?_, ?_, nofun⟩, by simp [ungrouped]⟩
    · rw [List.length_reverse]
      exact List.length_pos_of_ne_nil some_digit
    · rcases digits with _ | ⟨a, _ | ⟨b, _ | ⟨c, _ | ⟨d, rest⟩⟩⟩⟩
      · exact absurd rfl some_digit
      · simp
      · simp
      · simp
      · exact (short a b c d rest rfl).elim

/-- Grouping by thousands joins groups of digits by the delimiter, of which the first has one to
three digits and all others have three. -/
theorem exists_isGrouping_groupThousands (delimiter : List Char) (some_digit : digits ≠ []) :
    ∃ first others, IsGrouping digits first others ∧
      groupThousands delimiter digits = delimiter.intercalate (first :: others) := by
  obtain ⟨first, others, grouping, grouped⟩ :=
    exists_isGrouping_groupFromRight delimiter (List.reverse_ne_nil_iff.mpr some_digit)
  rw [List.reverse_reverse] at grouping
  exact ⟨first, others, grouping, grouped⟩

theorem groupThousands_ne_nil (delimiter : List Char) (some_digit : digits ≠ []) :
    groupThousands delimiter digits ≠ [] := by
  obtain ⟨first, others, grouping, grouped⟩ :=
    exists_isGrouping_groupThousands delimiter some_digit
  have some_first : first ≠ [] := List.ne_nil_of_length_pos grouping.some_first
  rw [grouped]
  cases others with
  | nil => simpa using some_first
  | cons group others => simp [some_first]

end Groups

/-! ### Both texts of an amount -/

theorem IsDecimalText.ne_nil {text : List Char} (shape : IsDecimalText text) : text ≠ [] := by
  obtain ⟨whole, -, some_digit, rfl | ⟨fraction, -, -, rfl⟩⟩ := shape
  · exact some_digit
  · simp

section Amounts

variable {config : NumericConfig} {value : List Char} {amount : Amount}

theorem isDecimalText_canonical_ofNat (decimals number : Nat) :
    IsDecimalText (Amount.ofNat decimals number).canonical := by
  rw [Amount.canonical, Amount.ofNat]
  by_cases none_asked : decimals = 0
  · rw [if_pos none_asked]
    exact ⟨_, isNumeral_toDigits number, Nat.toDigits_ne_nil, Or.inl rfl⟩
  · rw [if_neg none_asked]
    have some_decimal : decimalsOf decimals number ≠ [] :=
      decimalsOf_ne_nil (Nat.pos_of_ne_zero none_asked)
    exact ⟨_, isNumeral_toDigits _, Nat.toDigits_ne_nil,
      Or.inr ⟨_, isNumeral_decimalsOf decimals number, some_decimal, rfl⟩⟩

/-- An amount with a whole part is shown with some text. -/
theorem display_ne_nil (config : NumericConfig) (some_digit : amount.whole ≠ []) :
    amount.display config ≠ [] := by
  have grouped := groupThousands_ne_nil config.delimiter some_digit
  obtain ⟨whole, fraction⟩ := amount
  cases fraction <;> simp [Amount.display, grouped]

theorem whole_ofNat (decimals number : Nat) :
    (Amount.ofNat decimals number).whole = Nat.toDigits 10 (number / 10 ^ decimals) := by
  rw [Amount.ofNat]
  split
  next none_asked => simp [none_asked]
  next => rfl

end Amounts

/-! ### Both texts of a value -/

section Format

variable {config : NumericConfig} {value : List Char} {amount : Amount}

/-- A digit is kept of every value that has one. -/
theorem keptDigits_eq_nil_iff : keptDigits config value = [] ↔ ∀ c ∈ value, isDigit c = false := by
  have none_at_all : value.filter isDigit = [] ↔ ∀ c ∈ value, isDigit c = false := by
    simp [List.filter_eq_nil_iff]
  rw [keptDigits, ← none_at_all]
  split
  · rfl
  · rfl
  next limit positive _ =>
    rw [List.take_eq_nil_iff, or_iff_right fun zero => positive zero]

theorem keptDigits_ne_nil (digit : ∃ c ∈ value, isDigit c = true) :
    keptDigits config value ≠ [] := by
  obtain ⟨c, member, is_digit⟩ := digit
  intro none_kept
  simp [keptDigits_eq_nil_iff.mp none_kept c member] at is_digit

/-- The canonical text of the amount that a value writes is accepted. -/
theorem isCanonicalNumber_of_amount? (written : amount? config value = some amount) :
    isCanonicalNumber amount.canonical = true := by
  by_cases kept : keptDigits config value = []
  · rw [amount?, kept] at written
    cases written
  · rw [amount?_of_kept kept] at written
    cases written
    exact isCanonicalNumber_canonical_ofNat _ _

/-- No canonical text is refused. -/
theorem malformedNumber?_eq_none (config : NumericConfig) (value : List Char) :
    malformedNumber? config value = none := by
  rw [malformedNumber?, Option.filter_eq_none_iff]
  intro canonical shown
  obtain ⟨amount, written, rfl⟩ := Option.map_eq_some_iff.mp shown
  simp [isCanonicalNumber_of_amount? written]

end Format

/-- Without an ASCII digit in the value both texts of a numeric mask are empty. With one neither is,
and the unmasked text is one or more ASCII digits, optionally with a dot and one or more ASCII
digits behind. The canonical text is never refused as malformed. -/
theorem formatNumeric_never_malformed (config : NumericConfig) (value : List Char) :
    ((∀ c ∈ value, isDigit c = false) → formatNumeric config value = ⟨[], []⟩) ∧
    ((∃ c ∈ value, isDigit c = true) →
      (formatNumeric config value).masked ≠ [] ∧ (formatNumeric config value).unmasked ≠ [] ∧
        IsDecimalText (formatNumeric config value).unmasked) ∧
    (∀ amount, amount? config value = some amount → isCanonicalNumber amount.canonical = true) ∧
    malformedNumber? config value = none := by
  refine ⟨fun none => ?_, fun digit => ?_, fun _ => isCanonicalNumber_of_amount?,
    malformedNumber?_eq_none config value⟩
  · exact formatNumeric_of_not_kept (keptDigits_eq_nil_iff.mpr none)
  · have shape := isDecimalText_canonical_ofNat config.decimals
      (numberOf (keptDigits config value))
    rw [formatNumeric_of_kept (keptDigits_ne_nil digit)]
    refine ⟨display_ne_nil config ?_, shape.ne_nil, shape⟩
    rw [whole_ofNat]
    exact Nat.toDigits_ne_nil

/-- Whatever the settings say, `x-` shows nothing and `x7y` a number. -/
theorem formatNumeric_never_malformed_one_digit :
    let config : NumericConfig :=
      { before := "9".toList, delimiter := "-.".toList, separator := [], decimals := 3,
        maxLength := some 1 }
    formatNumeric config "x-".toList = ⟨[], []⟩ ∧
      formatNumeric config "x7y".toList = ⟨"90007".toList, "0.007".toList⟩ ∧
      IsDecimalText "0.007".toList := by
  intro config
  have noise : ∀ c ∈ "x-".toList, isDigit c = false := by
    intro c member
    obtain rfl | rfl : c = 'x' ∨ c = '-' := by simpa using member
    · rfl
    · rfl
  have none := (formatNumeric_never_malformed config "x-".toList).1 noise
  have shown : formatNumeric config "x7y".toList = ⟨"90007".toList, "0.007".toList⟩ := by decide
  have shape := (formatNumeric_never_malformed config "x7y".toList).2.1 ⟨'7', by decide, by decide⟩
  rw [shown] at shape
  exact ⟨none, shown, shape.2.2⟩

/-- The masked text of a value with an ASCII digit is the text in front, the groups that the whole
part of the unmasked text is cut into with the delimiter between them, with decimals the separator
and the decimals of the unmasked text, and the text behind. The first group has one to three
digits, and all others have three. -/
theorem masked_formatNumeric_layout (config : NumericConfig) (value : List Char)
    (digit : ∃ c ∈ value, isDigit c = true) :
    ∃ whole first others, IsNumeral whole ∧ IsGrouping whole first others ∧
      (config.decimals = 0 →
        (formatNumeric config value).unmasked = whole ∧
        (formatNumeric config value).masked =
          config.before ++ config.delimiter.intercalate (first :: others) ++ config.after) ∧
      (0 < config.decimals → ∃ fraction, IsNumeral fraction ∧
        (formatNumeric config value).unmasked = whole ++ '.' :: fraction ∧
        (formatNumeric config value).masked =
          config.before ++ config.delimiter.intercalate (first :: others) ++ config.separator ++
            fraction ++ config.after) := by
  let number := numberOf (keptDigits config value)
  let amount := Amount.ofNat config.decimals number
  have whole : amount.whole = Nat.toDigits 10 (number / 10 ^ config.decimals) := whole_ofNat _ _
  have some_digit : amount.whole ≠ [] := whole ▸ Nat.toDigits_ne_nil
  obtain ⟨first, others, grouping, grouped⟩ :=
    exists_isGrouping_groupThousands config.delimiter some_digit
  rw [formatNumeric_of_kept (keptDigits_ne_nil digit)]
  refine ⟨amount.whole, first, others, whole ▸ isNumeral_toDigits _, grouping, ?_, ?_⟩
  · intro none_asked
    change amount.canonical = _ ∧ amount.display config = _
    have no_fraction : amount.fraction = none := by
      simp only [amount, Amount.ofNat, if_pos none_asked]
    rw [Amount.canonical, Amount.display, no_fraction, grouped]
    exact ⟨rfl, rfl⟩
  · intro some_asked
    change ∃ fraction, IsNumeral fraction ∧ amount.canonical = _ ∧ amount.display config = _
    have fraction : amount.fraction = some (decimalsOf config.decimals number) := by
      simp only [amount, Amount.ofNat, if_neg (Nat.ne_of_gt some_asked)]
    refine ⟨decimalsOf config.decimals number, isNumeral_decimalsOf _ _, ?_⟩
    rw [Amount.canonical, Amount.display, fraction, grouped]
    simp

/-- Of seven digits before the decimals one stands alone and the others in two groups of three. -/
theorem masked_formatNumeric_layout_nine_digits :
    let config : NumericConfig := { before := "R$ ".toList, after := "/h".toList, decimals := 2 }
    formatNumeric config "0123456789".toList =
        ⟨"R$ 1.234.567,89/h".toList, "1234567.89".toList⟩ ∧
      ∃ whole first others fraction, IsGrouping whole first others ∧
        "1234567.89".toList = whole ++ '.' :: fraction ∧
        "R$ 1.234.567,89/h".toList =
          "R$ ".toList ++ ".".toList.intercalate (first :: others) ++ ",".toList ++ fraction ++
            "/h".toList := by
  intro config
  have shown : formatNumeric config "0123456789".toList =
      ⟨"R$ 1.234.567,89/h".toList, "1234567.89".toList⟩ := by decide
  obtain ⟨whole, first, others, -, grouping, -, layout⟩ :=
    masked_formatNumeric_layout config "0123456789".toList ⟨'0', by decide, by decide⟩
  obtain ⟨fraction, -, unmasked, masked⟩ := layout (by decide)
  rw [shown] at unmasked masked
  exact ⟨shown, whole, first, others, fraction, grouping, unmasked, masked⟩

end InputMask
