import InputMask.Proofs.NumericValue
import InputMask.Proofs.Typing

/-!
# Typing in a numeric field

A numeric field is masked again from what it shows after each text that is typed. Where the
texts around the digits hold no digit themselves, the shown digits write the number that was
typed so far, and a digit behind them multiplies it by ten like one behind the value. The zeros
that fill up the decimals count for the limit, though: it must leave room for all decimals, a
zero before them and the next digit.

## Main definitions

* `NumericConfig.NoDigits`: the texts around the digits hold none
* `NumericConfig.Admits`: a number of digits within the limit

## Main results

* `filter_masked_formatNumeric`: the digits of the shown text
* `formatNumeric_masked_append`: masking the shown text with more behind it
* `numeric_typing_eq_pasting`: when typing digit by digit ends where pasting all of them ends
-/

namespace InputMask

namespace NumericConfig

/-- None of the texts around and between the digits holds a digit itself. -/
def NoDigits (config : NumericConfig) : Prop :=
  ∀ text ∈ [config.before, config.after, config.delimiter, config.separator],
    ∀ c ∈ text, isDigit c = false

instance (config : NumericConfig) : Decidable config.NoDigits :=
  have (text : List Char) : Decidable (∀ c ∈ text, isDigit c = false) :=
    List.decidableBAll (isDigit · = false) text
  List.decidableBAll _ _

/-- A number of digits is within the limit, if there is one. -/
def Admits (config : NumericConfig) (count : Nat) : Prop :=
  ∀ limit, config.maxLength = some limit → 0 < limit → count ≤ limit

variable {config : NumericConfig}

theorem NoDigits.filter_eq_nil (plain : config.NoDigits) {text : List Char}
    (member : text ∈ [config.before, config.after, config.delimiter, config.separator]) :
    text.filter isDigit = [] :=
  List.filter_eq_nil_iff.mpr fun c mem => by simp [plain text member c mem]

theorem Admits.mono {count least : Nat} (admits : config.Admits count) (le : least ≤ count) :
    config.Admits least :=
  fun limit asked positive => le.trans (admits limit asked positive)

theorem admits_of_unlimited (unlimited : config.maxLength = none ∨ config.maxLength = some 0)
    (count : Nat) : config.Admits count := by
  intro limit asked positive
  obtain none_asked | zero := unlimited
  · simp [none_asked] at asked
  · rw [zero, Option.some.injEq] at asked
    omega

theorem admits_iff {limit : Nat} (asked : config.maxLength = some limit) (positive : 0 < limit)
    {count : Nat} : config.Admits count ↔ count ≤ limit := by
  refine ⟨fun admits => admits limit asked positive, fun le other asked' _ => ?_⟩
  rw [asked, Option.some.injEq] at asked'
  rwa [← asked']

end NumericConfig

section Shown

variable {mark : List Char}

/-- Grouping leaves the digits as they are if the mark holds none. -/
theorem filter_groupFromRight (plain : mark.filter isDigit = []) (digits : List Char) :
    (groupFromRight mark digits).filter isDigit = digits.filter isDigit := by
  fun_induction groupFromRight mark digits with
  | case1 a b c d rest ih =>
    simp only [List.filter_cons, List.filter_append, plain, ih, List.nil_append]
  | case2 digits => rfl

theorem filter_groupThousands (plain : mark.filter isDigit = []) (digits : List Char) :
    (groupThousands mark digits).filter isDigit = digits.filter isDigit := by
  have reversed : mark.reverse.filter isDigit = [] := by
    rw [List.filter_reverse, plain, List.reverse_nil]
  rw [groupThousands, List.filter_reverse, filter_groupFromRight reversed, List.filter_reverse,
    List.reverse_reverse]

/-- Only the digits of an amount are digits of the shown text. -/
theorem filter_display {config : NumericConfig} (plain : config.NoDigits) (amount : Amount) :
    (amount.display config).filter isDigit = amount.digits.filter isDigit := by
  have before : config.before.filter isDigit = [] := plain.filter_eq_nil (by simp)
  have after : config.after.filter isDigit = [] := plain.filter_eq_nil (by simp)
  have delimiter : config.delimiter.filter isDigit = [] := plain.filter_eq_nil (by simp)
  have separator : config.separator.filter isDigit = [] := plain.filter_eq_nil (by simp)
  obtain ⟨whole, fraction⟩ := amount
  cases fraction <;>
    simp [Amount.display, Amount.digits, filter_groupThousands delimiter, before, after, separator]

end Shown

section Append

variable {config : NumericConfig} {value other added : List Char} {limit : Nat}

theorem keptDigits_of_admits (admits : config.Admits (value.filter isDigit).length) :
    keptDigits config value = value.filter isDigit := by
  rw [keptDigits]
  split
  · rfl
  · rfl
  next limit positive asked =>
    exact List.take_of_length_le (admits limit asked (Nat.pos_of_ne_zero positive))

theorem keptDigits_eq_take (asked : config.maxLength = some limit) (positive : 0 < limit)
    (value : List Char) : keptDigits config value = (value.filter isDigit).take limit := by
  obtain ⟨least, rfl⟩ := Nat.exists_eq_succ_of_ne_zero (Nat.ne_of_gt positive)
  rw [keptDigits, asked]
  rfl

/-- The digits of the shown text are those of the amount. -/
theorem filter_masked_formatNumeric (plain : config.NoDigits)
    (kept : keptDigits config value ≠ []) :
    (formatNumeric config value).masked.filter isDigit =
      (Amount.ofNat config.decimals (numberOf (keptDigits config value))).digits := by
  rw [formatNumeric_of_kept kept, filter_display plain, (isNumeral_digits_ofNat _ _).filter_eq]

/-- Masking the shown text with more behind it is masking the value with that behind it, where
the limit cuts neither. -/
theorem formatNumeric_masked_append (plain : config.NoDigits)
    (shown_admitted : config.Admits
      (((formatNumeric config value).masked ++ added).filter isDigit).length)
    (value_admitted : config.Admits ((value ++ added).filter isDigit).length) :
    formatNumeric config ((formatNumeric config value).masked ++ added) =
      formatNumeric config (value ++ added) := by
  have shown := keptDigits_of_admits shown_admitted
  have whole := keptDigits_of_admits value_admitted
  have first : keptDigits config value = value.filter isDigit :=
    keptDigits_of_admits (value_admitted.mono (by simp))
  rw [List.filter_append] at shown whole
  by_cases none_kept : value.filter isDigit = []
  · have blank := formatNumeric_of_not_kept (first.trans none_kept)
    have same : keptDigits config ((formatNumeric config value).masked ++ added) =
        keptDigits config (value ++ added) := by
      rw [shown, whole, blank, none_kept]
      rfl
    rw [formatNumeric, amount?, same]
    rfl
  · rw [filter_masked_formatNumeric plain (first.trans_ne none_kept), first] at shown
    have some_shown := List.ne_nil_of_length_pos
      (Nat.zero_lt_of_lt (lt_length_digits_ofNat config.decimals (numberOf (value.filter isDigit))))
    refine (formatNumeric_eq_iff ?_ ?_).mpr ?_
    · rw [shown]
      exact List.append_ne_nil_of_left_ne_nil some_shown _
    · rw [whole]
      exact List.append_ne_nil_of_left_ne_nil none_kept _
    · rw [shown, whole, numberOf_append, numberOf_append, numberOf_digits_ofNat]

/-- The filling zeros are all that the shown text adds to the digits of a value. -/
theorem length_filter_masked_le (plain : config.NoDigits)
    (admitted : config.Admits value.length) :
    ((formatNumeric config value).masked.filter isDigit).length ≤
      max value.length (config.decimals + 1) := by
  have fewer : (value.filter isDigit).length ≤ value.length := List.length_filter_le _ _
  have kept := keptDigits_of_admits (admitted.mono fewer)
  by_cases none_kept : value.filter isDigit = []
  · rw [formatNumeric_of_not_kept (kept.trans none_kept)]
    exact Nat.zero_le _
  · rw [filter_masked_formatNumeric plain (kept.trans_ne none_kept), kept]
    have bound := length_digits_ofNat_le config.decimals (isNumeral_filter value) none_kept
    omega

end Append

section Typing

variable {config : NumericConfig} {limit : Nat}

/-- Where the limit leaves room for the decimals, a zero before them and one digit more, a
character typed behind the shown text is as good as one behind the value. -/
theorem formatNumeric_masked_append_char (plain : config.NoDigits)
    (asked : config.maxLength = some limit) (positive : 0 < limit)
    (room : config.decimals = 0 ∨ limit = 1 ∨ config.decimals + 2 ≤ limit)
    {value : List Char} (fits : value.length < limit) (c : Char) :
    formatNumeric config ((formatNumeric config value).masked ++ [c]) =
      formatNumeric config (value ++ [c]) := by
  -- neither the shown text nor the value may have more digits than the limit with one behind it
  have one : ([c].filter isDigit).length ≤ 1 := List.length_filter_le _ _
  have fewer : (value.filter isDigit).length ≤ value.length := List.length_filter_le _ _
  refine formatNumeric_masked_append plain ?_ ?_ <;>
    rw [NumericConfig.admits_iff asked positive, List.filter_append, List.length_append]
  · by_cases blank : value = []
    · rw [blank, formatNumeric_nil]
      exact le_trans (by simpa [Output.empty] using one) positive
    · have shown := length_filter_masked_le plain
        ((NumericConfig.admits_iff asked positive).mpr (Nat.le_of_lt fits))
      have some_char : 0 < value.length := List.length_pos_of_ne_nil blank
      omega
  · omega

/-- A field that shows a masked value takes up typed characters as if they had been in the
value. -/
theorem after_append_chars (plain : config.NoDigits)
    (asked : config.maxLength = some limit) (positive : 0 < limit)
    (room : config.decimals = 0 ∨ limit = 1 ∨ config.decimals + 2 ≤ limit)
    (value typed : List Char) (fits : value.length + typed.length ≤ limit) :
    Field.after ⟨.numeric config, (formatNumeric config value).masked⟩
        (typed.map fun c => .append [c]) =
      ⟨.numeric config, (formatNumeric config (value ++ typed)).masked⟩ := by
  -- after each character the field shows a masked value again, so the value takes it in
  induction typed generalizing value with
  | nil => simp [Field.after]
  | cons c typed ih =>
    rw [List.length_cons] at fits
    have first := formatNumeric_masked_append_char plain asked positive room
      (show value.length < limit by omega) c
    have rest := ih (value ++ [c]) (by rw [List.length_append, List.length_singleton]; omega)
    rw [List.map_cons, List.append_cons, ← rest, ← first]
    rfl

/-- Without that room, the zeros shown after one digit leave none for the second. -/
theorem room_of_typing_ones (plain : config.NoDigits)
    (asked : config.maxLength = some limit) (positive : 0 < limit)
    (same : formatNumeric config ((formatNumeric config ['1']).masked ++ ['1']) =
      formatNumeric config ['1', '1']) :
    config.decimals = 0 ∨ limit = 1 ∨ config.decimals + 2 ≤ limit := by
  by_contra narrow
  push Not at narrow
  obtain ⟨some_asked, not_one, short⟩ := narrow
  have kept (value : List Char) := keptDigits_eq_take asked positive value
  have one : keptDigits config ['1'] = ['1'] := by
    rw [kept]
    exact List.take_of_length_le positive
  have two : keptDigits config ['1', '1'] = ['1', '1'] := by
    rw [kept]
    exact List.take_of_length_le (show 2 ≤ limit by omega)
  have long := lt_length_digits_ofNat config.decimals 1
  have shown : keptDigits config ((formatNumeric config ['1']).masked ++ ['1']) =
      (Amount.ofNat config.decimals 1).digits.take limit := by
    have unit : numberOf ['1'] = 1 := by decide
    rw [kept, List.filter_append, filter_masked_formatNumeric plain (by simp [one]), one, unit]
    exact List.take_append_of_le_length (show limit ≤ _ by omega)
  have some_shown : (Amount.ofNat config.decimals 1).digits.take limit ≠ [] := by
    refine List.ne_nil_of_length_pos ?_
    rw [List.length_take]
    omega
  have most := numberOf_take_le limit (Amount.ofNat config.decimals 1).digits
  rw [numberOf_digits_ofNat] at most
  have number := (formatNumeric_eq_iff (by rwa [shown]) (by simp [two])).mp same
  rw [shown, two] at number
  have eleven : numberOf ['1', '1'] = 11 := by decide
  omega

end Typing

/-- If the texts around the digits hold none, then without a limit text behind the shown text is
as good as text behind the value. With a limit, typing digit by digit ends where pasting all of
them ends, for every numeral within the limit, if and only if there are no decimals, or the limit
is one digit, or it leaves room for the decimals and two digits more. -/
theorem numeric_typing_eq_pasting (config : NumericConfig) (plain : config.NoDigits) :
    ((config.maxLength = none ∨ config.maxLength = some 0) → ∀ value added,
      formatNumeric config ((formatNumeric config value).masked ++ added) =
        formatNumeric config (value ++ added)) ∧
    ∀ limit, config.maxLength = some limit → 0 < limit →
      ((∀ front last, IsNumeral (front ++ [last]) → (front ++ [last]).length ≤ limit →
          (front ++ [last]).head? ≠ some '0' →
          (((Field.blank (.numeric config)).after (front.map fun c => .append [c])).edit
              (.append [last])).1 =
            formatNumeric config (front ++ [last])) ↔
        config.decimals = 0 ∨ limit = 1 ∨ config.decimals + 2 ≤ limit) := by
  refine ⟨fun unlimited value added => ?_, fun limit asked positive => ⟨fun agree => ?_, ?_⟩⟩
  · have admitted := NumericConfig.admits_of_unlimited unlimited
    exact formatNumeric_masked_append plain (admitted _) (admitted _)
  · by_cases one : limit = 1
    · exact Or.inr (Or.inl one)
    · refine room_of_typing_ones plain asked positive ?_
      exact agree ['1'] '1' (by decide) (show 2 ≤ limit by omega) (by decide)
  · intro room front last _ fits _
    rw [List.length_append, List.length_singleton] at fits
    have blank : Field.blank (.numeric config) =
        ⟨.numeric config, (formatNumeric config []).masked⟩ := by
      rw [formatNumeric_nil]
      rfl
    have typed := after_append_chars plain asked positive room [] front
      (by rw [List.length_nil]; omega)
    rw [blank, typed, List.nil_append]
    exact formatNumeric_masked_append_char plain asked positive room (by omega) last

/-- Two decimals fit a limit of four digits, and typing `1234` ends in `R$ 12,34`. They do not
fit a limit of three, where some digits typed one by one end elsewhere. -/
theorem numeric_typing_two_decimals :
    (formatNumeric { before := "R$ ".toList, decimals := 2 }
        ((formatNumeric { before := "R$ ".toList, decimals := 2 } "1x2".toList).masked ++
          "34".toList) =
      ⟨"R$ 12,34".toList, "12.34".toList⟩) ∧
    (((Field.blank (.numeric { before := "R$ ".toList, decimals := 2, maxLength := some 4 })).after
        (['1', '2', '3'].map fun c => .append [c])).edit (.append ['4'])).1 =
      ⟨"R$ 12,34".toList, "12.34".toList⟩ ∧
    ¬ ∀ front last, IsNumeral (front ++ [last]) → (front ++ [last]).length ≤ 3 →
      (front ++ [last]).head? ≠ some '0' →
      (((Field.blank (.numeric { decimals := 2, maxLength := some 3 })).after
          (front.map fun c => .append [c])).edit (.append [last])).1 =
        formatNumeric { decimals := 2, maxLength := some 3 } (front ++ [last]) := by
  refine ⟨?_, ?_, ?_⟩
  · have pasted := (numeric_typing_eq_pasting { before := "R$ ".toList, decimals := 2 }
      (by decide)).1 (Or.inl rfl) "1x2".toList "34".toList
    rw [pasted]
    decide
  · have pasted := ((numeric_typing_eq_pasting
      { before := "R$ ".toList, decimals := 2, maxLength := some 4 } (by decide)).2 4 rfl
      (by decide)).mpr (by decide) ['1', '2', '3'] '4' (by decide) (by decide) (by decide)
    rw [pasted]
    decide
  · exact ((numeric_typing_eq_pasting { decimals := 2, maxLength := some 3 } (by decide)).2 3 rfl
      (by decide)).not.mpr (by decide)

end InputMask
