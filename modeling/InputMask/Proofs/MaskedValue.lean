import InputMask.Proofs.Capacity
import InputMask.Proofs.Noise
import InputMask.Proofs.NumericReformat
import InputMask.Proofs.Ranking

/-!
# The value in a masked text

A form keeps the masked text and nothing else, so the unmasked text has to be found in it again.
It is what cleaning leaves, if no template has a literal that cleaning keeps; and under a numeric
mask the digits of both texts are the same, if there are none in the texts around them. Then
values that are shown alike have one unmasked text.

## Main definitions

* `Spec.templates`: the templates among which a specification chooses

## Main results

* `template_select_eq_nil_or_mem`: no other template is chosen, unless it is the empty one
* `filter_masked_eq_filter_unmasked`: the digits of both texts of a numeric mask
* `formatNumeric_eq_of_filter_unmasked`: these digits determine the output
* `masked_determines_unmasked`
-/

namespace InputMask

/-- The templates among which a specification chooses. -/
def Spec.templates : Spec → List (List Char)
  | single alternative => [alternative.template]
  | numeric _ => []
  | alternatives list => list.map Alternative.template

section Patterns

variable {spec : Spec}

/-- The chosen template is one of the specification, or empty for want of one. -/
theorem template_select_eq_nil_or_mem (spec : Spec) (raw : List Char) :
    (spec.select raw).template = [] ∨ (spec.select raw).template ∈ spec.templates := by
  cases spec with
  | single alternative => exact Or.inr (List.mem_singleton.mpr rfl)
  | numeric config => exact Or.inl rfl
  | alternatives list =>
    have ranked := ranked_select list raw
    generalize (Spec.alternatives list).select raw = choice at ranked ⊢
    have listed : ∀ candidate ∈ candidates list,
        candidate.template ∈ (Spec.alternatives list).templates := by
      intro candidate among
      obtain ⟨template, member, rfl⟩ := mem_candidates_iff.mp among
      exact List.mem_map_of_mem member
    cases ranked with
    | byPattern split found first =>
      have member := split ▸ List.mem_append_right _ List.mem_cons_self
      exact Or.inr (List.mem_map.mpr ⟨_, member, rfl⟩)
    | byLength unmatched shortest =>
      exact Or.inr (listed _ (List.mem_filter.mp (List.argmin_mem shortest)).1)
    | overflow unmatched short longest =>
      exact Or.inr (listed _ (List.mem_reverse.mp (List.argmax_mem longest)))
    | nothing unmatched none_left => exact Or.inl rfl

/-- The chosen template has literals that are noise, if all have. -/
theorem literalsAreNoise_select
    (noise : ∀ text ∈ spec.templates, LiteralsAreNoise (Template.ofText text).tokens)
    (raw : List Char) :
    LiteralsAreNoise (Template.ofText (spec.select raw).template).tokens := by
  rcases template_select_eq_nil_or_mem spec raw with none_chosen | chosen
  · rw [none_chosen, Template.ofText, Template.tokens_empty]
    decide
  · exact noise _ chosen

/-- Cleaning the masked text of a value gives its unmasked text. -/
theorem clean_masked_mask (pattern : spec.isNumeric = false)
    (noise : ∀ text ∈ spec.templates, LiteralsAreNoise (Template.ofText text).tokens)
    (value : List Char) : clean (spec.mask value).masked = (spec.mask value).unmasked := by
  rw [mask_of_isNumeric_eq_false pattern value]
  exact clean_masked_applyTokens (literalsAreNoise_select noise (clean value))

end Patterns

section Numbers

variable {config : NumericConfig} {value other : List Char}

/-- Both texts of a numeric mask have the same digits. -/
theorem filter_masked_eq_filter_unmasked (plain : config.NoDigits) (value : List Char) :
    (formatNumeric config value).masked.filter isDigit =
      (formatNumeric config value).unmasked.filter isDigit := by
  by_cases kept : keptDigits config value = []
  · rw [formatNumeric_of_not_kept kept]
    rfl
  · rw [filter_masked_formatNumeric plain kept, filter_unmasked_formatNumeric kept]

/-- The unmasked text has a digit if and only if one is kept. -/
theorem filter_unmasked_eq_nil_iff :
    (formatNumeric config value).unmasked.filter isDigit = [] ↔ keptDigits config value = [] := by
  constructor
  · intro none_shown
    by_contra kept
    have some_digit := lt_length_digits_ofNat config.decimals (numberOf (keptDigits config value))
    rw [← filter_unmasked_formatNumeric kept, none_shown, List.length_nil] at some_digit
    exact Nat.not_lt_zero _ some_digit
  · intro none_kept
    rw [formatNumeric_of_not_kept none_kept]
    rfl

/-- The digits of the unmasked text determine the output. -/
theorem formatNumeric_eq_of_filter_unmasked
    (same : (formatNumeric config value).unmasked.filter isDigit =
      (formatNumeric config other).unmasked.filter isDigit) :
    formatNumeric config value = formatNumeric config other := by
  by_cases kept : keptDigits config value = []
  · have kept' : keptDigits config other = [] :=
      filter_unmasked_eq_nil_iff.mp (same ▸ filter_unmasked_eq_nil_iff.mpr kept)
    rw [formatNumeric_of_not_kept kept, formatNumeric_of_not_kept kept']
  · have kept' : keptDigits config other ≠ [] := by
      rwa [Ne, ← filter_unmasked_eq_nil_iff, ← same, filter_unmasked_eq_nil_iff]
    have number := congrArg numberOf same
    rw [numberOf_unmasked_formatNumeric kept, numberOf_unmasked_formatNumeric kept'] at number
    exact (formatNumeric_eq_iff kept kept').mpr number

end Numbers

/-- Where no literal of a template is an ASCII letter or digit, cleaning the masked text gives the
unmasked text. Where the texts of a numeric mask hold no ASCII digit, both texts have the same
digits, and values with the same masked text have the same unmasked text. -/
theorem masked_determines_unmasked :
    (∀ (spec : Spec) (value : List Char), spec.isNumeric = false →
      (∀ text ∈ spec.templates, LiteralsAreNoise (Template.ofText text).tokens) →
      clean (spec.mask value).masked = (spec.mask value).unmasked) ∧
    ∀ (config : NumericConfig) (value : List Char), config.NoDigits →
      ((Spec.numeric config).mask value).masked.filter isDigit =
        ((Spec.numeric config).mask value).unmasked.filter isDigit ∧
      ∀ other, ((Spec.numeric config).mask value).masked =
          ((Spec.numeric config).mask other).masked →
        ((Spec.numeric config).mask value).unmasked =
          ((Spec.numeric config).mask other).unmasked := by
  refine ⟨fun spec value pattern noise => clean_masked_mask pattern noise value,
    fun config value plain => ⟨filter_masked_eq_filter_unmasked plain value, ?_⟩⟩
  intro other shown
  have digits := congrArg (List.filter isDigit) shown
  rw [Spec.mask, Spec.mask, filter_masked_eq_filter_unmasked plain,
    filter_masked_eq_filter_unmasked plain] at digits
  exact congrArg Output.unmasked (formatNumeric_eq_of_filter_unmasked digits)

/-- From a telephone number, in which the group of its template was left out, and from an amount,
what was typed is found again. -/
theorem masked_determines_unmasked_two_texts :
    let phone : Spec := .alternatives
      [.literal "(99) [9 ]9999".toList, .guarded "A-99".toList ⟨['a'], (·.contains 'a')⟩]
    let config : NumericConfig := { before := "R$ ".toList, decimals := 2 }
    (∀ text ∈ phone.templates, LiteralsAreNoise (Template.ofText text).tokens) ∧
      config.NoDigits ∧
      (phone.mask "12x3456".toList).masked = "(12) 3456".toList ∧
      clean (phone.mask "12x3456".toList).masked = "123456".toList ∧
      ((Spec.numeric config).mask "123450".toList).masked = "R$ 1.234,50".toList ∧
      ((Spec.numeric config).mask "123450".toList).masked.filter isDigit = "123450".toList := by
  intro phone config
  have noise : ∀ text ∈ phone.templates, LiteralsAreNoise (Template.ofText text).tokens := by
    decide +kernel
  have plain : config.NoDigits := by
    decide
  have shown : phone.mask "12x3456".toList = ⟨"(12) 3456".toList, "123456".toList⟩ := by
    decide +kernel
  have amount : (Spec.numeric config).mask "123450".toList =
      ⟨"R$ 1.234,50".toList, "1234.50".toList⟩ := by
    decide +kernel
  obtain ⟨patterns, numbers⟩ := masked_determines_unmasked
  have cleaned := patterns phone "12x3456".toList rfl noise
  have digits := (numbers config "123450".toList plain).1
  rw [shown] at cleaned ⊢
  rw [amount] at digits ⊢
  exact ⟨noise, plain, rfl, cleaned, rfl, digits⟩

end InputMask
