import InputMask.Proofs.Noise
import InputMask.Proofs.Rerun
import InputMask.Proofs.Starvation

/-!
# Masking a masked text

Masking is stable: the shown text is masked to itself. Cleaning it gives back the characters
taken, and on these the template makes the same steps, provided its literals are noise, it ends
in a mandatory placeholder and refuses no character of the value. In a list of alternatives
without groups the characters taken are all of the value, or as many as the longest template
holds; either way the same template is chosen again, if no two hold the same length.

Each of the conditions is needed. A letter among the literals comes back as input, a literal at
the end is shown only while a spare character is left, and characters that are refused count for
a group the first time only.

## Main definitions

* `Good`: literals are noise, and the last token is a mandatory placeholder

## Main results

* `template_select_take`: the choice stays when the text is cut to what the chosen template holds
* `mask_masked`: masking what is shown changes nothing
-/

namespace InputMask

/-- A template whose literals are noise and whose last token is a mandatory placeholder. -/
structure Good (tokens : List Token) : Prop where
  noise : LiteralsAreNoise tokens
  ends : EndsInPlaceholder tokens

instance (tokens : List Token) : Decidable (Good tokens) :=
  decidable_of_iff (LiteralsAreNoise tokens ∧ EndsInPlaceholder tokens)
    ⟨fun ⟨noise, ends⟩ => ⟨noise, ends⟩, fun good => ⟨good.noise, good.ends⟩⟩

section Ungrouped

variable {tokens : List Token} (flat : ∀ token ∈ tokens, token.isGroup = false)

include flat

theorem groupsAreSingle_of_flat : GroupsAreSingle tokens := by
  intro token member
  cases token with
  | group items => cases flat _ member
  | _ => exact Nat.zero_le _

/-- Without groups a template has as many placeholders as it counts. -/
theorem length_placeholders_of_flat : (placeholders tokens).length = capacity tokens := by
  induction tokens with
  | nil => rfl
  | cons token tokens ih =>
    have behind := ih fun t member => flat t (List.mem_cons_of_mem _ member)
    rw [capacity_cons, ← behind]
    cases token with
    | literal c => simp [Token.maxWidth]
    | placeholder k => simp [Token.maxWidth, Nat.add_comm]
    | group items => cases flat _ List.mem_cons_self

end Ungrouped

section Choice

theorem select_nil (raw : List Char) : (Spec.alternatives []).select raw = .only [] :=
  Ranked.select_eq (.nothing (by simp [Unmatched]) rfl)

/-- Among templates without patterns, one that holds the text is chosen, or the one that holds most
if none does. -/
theorem select_map_literal_cases (texts : List (List Char)) (raw : List Char) :
    (∃ text ∈ texts, raw.length ≤ (Template.ofText text).maxLength ∧
      (Spec.alternatives (texts.map .literal)).select raw = .byLength (.ofTemplate text)) ∨
    (∃ text ∈ texts, (Template.ofText text).maxLength < raw.length ∧
      (∀ other ∈ texts, (Template.ofText other).maxLength ≤ (Template.ofText text).maxLength) ∧
      (Spec.alternatives (texts.map .literal)).select raw = .overflow (.ofTemplate text)) ∨
    texts = [] := by
  have listed : candidates (texts.map .literal) = texts.map Candidate.ofTemplate :=
    candidates_map_literal
  have ranked := ranked_select (texts.map .literal) raw
  generalize (Spec.alternatives (texts.map .literal)).select raw = choice at ranked ⊢
  cases ranked with
  | byPattern split found first =>
    have unfound := unmatched_map_literal texts raw _ _
      (split ▸ List.mem_append_right _ List.mem_cons_self)
    rw [unfound] at found
    cases found
  | byLength unmatched shortest =>
    obtain ⟨member, counted⟩ := List.mem_filter.mp (List.argmin_mem shortest)
    rw [listed] at member
    obtain ⟨text, among, rfl⟩ := List.mem_map.mp member
    exact .inl ⟨text, among, of_decide_eq_true counted, rfl⟩
  | overflow unmatched short longest =>
    have member := List.mem_reverse.mp (List.argmax_mem longest)
    have less := short _ member
    rw [listed] at member longest
    obtain ⟨text, among, rfl⟩ := List.mem_map.mp member
    refine .inr (.inl ⟨text, among, less, fun other among' => ?_, rfl⟩)
    have present : Candidate.ofTemplate other ∈ (texts.map Candidate.ofTemplate).reverse :=
      List.mem_reverse.mpr (List.mem_map_of_mem among')
    have most : (Candidate.ofTemplate other).maxLength ≤ (Candidate.ofTemplate text).maxLength :=
      List.le_of_mem_argmax present longest
    exact most
  | nothing unmatched none_left =>
    exact .inr (.inr (List.map_eq_nil_iff.mp (listed ▸ none_left)))

/-- A template is chosen from the list, unless this is empty. -/
theorem template_select_mem {texts : List (List Char)} (some_text : texts ≠ []) (raw : List Char) :
    ((Spec.alternatives (texts.map .literal)).select raw).template ∈ texts := by
  obtain ⟨text, among, -, chosen⟩ | ⟨text, among, -, -, chosen⟩ | none_left :=
    select_map_literal_cases texts raw
  · exact chosen ▸ among
  · exact chosen ▸ among
  · contradiction

/-- Among templates that hold different lengths, the choice stays when the text is cut to what
the chosen one holds. -/
theorem template_select_take {texts : List (List Char)}
    (distinct : (texts.map fun text => (Template.ofText text).maxLength).Nodup) (raw : List Char) :
    ((Spec.alternatives (texts.map .literal)).select (raw.take (Template.ofText
        ((Spec.alternatives (texts.map .literal)).select raw).template).maxLength)).template =
      ((Spec.alternatives (texts.map .literal)).select raw).template := by
  obtain ⟨text, -, counted, chosen⟩ | ⟨text, among, short, most, chosen⟩ | rfl :=
    select_map_literal_cases texts raw
  · have template : ((Spec.alternatives (texts.map .literal)).select raw).template = text :=
      congrArg Selection.template chosen
    rw [template, List.take_of_length_le counted, template]
  · -- the cut text is as long as the longest template holds, which no other one holds
    have template : ((Spec.alternatives (texts.map .literal)).select raw).template = text :=
      congrArg Selection.template chosen
    have cut : (raw.take (Template.ofText text).maxLength).length =
        (Template.ofText text).maxLength := List.length_take_of_le (Nat.le_of_lt short)
    rw [template]
    obtain ⟨other, among', counted, chosen'⟩ | ⟨other, -, short', most', -⟩ | rfl :=
      select_map_literal_cases texts (raw.take (Template.ofText text).maxLength)
    · have length := Nat.le_antisymm (most other among') (cut ▸ counted)
      rw [chosen']
      exact List.inj_on_of_nodup_map distinct among' among length
    · have held := most' text among
      omega
    · cases among
  · rw [List.map_nil, select_nil, select_nil]

end Choice

section Stable

variable (spec : Spec) {value : List Char} {tokens : List Token}

/-- Masking a masked text changes nothing if the same template is chosen for what was taken. -/
theorem mask_masked_of_select (pattern : spec.isNumeric = false)
    (chosen : (Template.ofText (spec.select (clean value)).template).tokens = tokens)
    (good : Good tokens) (accepting : Position.Accepting ⟨tokens, clean value⟩)
    (same : (spec.select (takenBy (align tokens (clean value)))).template =
      (spec.select (clean value)).template) :
    spec.mask (spec.mask value).masked = spec.mask value ∧
      (spec.select (clean (spec.mask value).masked)).template =
        (spec.select (clean value)).template := by
  have cleaned : clean (spec.mask value).masked = takenBy (align tokens (clean value)) := by
    rw [mask_of_isNumeric_eq_false pattern, Template.apply, chosen,
      clean_masked_applyTokens good.noise, unmasked_applyTokens]
  refine ⟨?_, cleaned ▸ same⟩
  rw [mask_of_isNumeric_eq_false pattern (spec.mask value).masked, cleaned, same,
    mask_of_isNumeric_eq_false pattern value, Template.apply, Template.apply, chosen, applyTokens,
    applyTokens, align_takenBy accepting good.ends]

end Stable

/-- Under a single good template, masking what is shown changes nothing for a value of which no
placeholder refuses a letter or digit. The same holds for a list of good templates without
groups that hold different lengths, and there the same template is chosen again. -/
theorem mask_masked :
    (∀ (alternative : Alternative) (value : List Char),
      Good (Template.ofText alternative.template).tokens →
      Position.Accepting ⟨(Template.ofText alternative.template).tokens, clean value⟩ →
      (Spec.single alternative).mask ((Spec.single alternative).mask value).masked =
        (Spec.single alternative).mask value) ∧
    ∀ (texts : List (List Char)) (value : List Char),
      (∀ text ∈ texts, Good (Template.ofText text).tokens) →
      (∀ text ∈ texts, ∀ token ∈ (Template.ofText text).tokens, token.isGroup = false) →
      (texts.map fun text => (Template.ofText text).maxLength).Nodup →
      (∀ text ∈ texts, Position.Accepting ⟨(Template.ofText text).tokens, clean value⟩) →
      (Spec.alternatives (texts.map .literal)).mask
          ((Spec.alternatives (texts.map .literal)).mask value).masked =
        (Spec.alternatives (texts.map .literal)).mask value ∧
      ((Spec.alternatives (texts.map .literal)).select
          (clean ((Spec.alternatives (texts.map .literal)).mask value).masked)).template =
        ((Spec.alternatives (texts.map .literal)).select (clean value)).template := by
  refine ⟨fun alternative value good accepting => ?_,
    fun texts value good flat distinct accepting => ?_⟩
  · exact (mask_masked_of_select (.single alternative) rfl rfl good accepting rfl).1
  · obtain rfl | some_text := eq_or_ne texts []
    · have chosen : (Template.ofText ((Spec.alternatives ([].map .literal)).select
          (clean value)).template).tokens = [] := by
        rw [List.map_nil, select_nil, Selection.template, Template.ofText, Template.tokens_empty]
      refine mask_masked_of_select _ rfl chosen (by decide) (by simp [Position.Accepting]) ?_
      rw [List.map_nil, select_nil, select_nil]
    · have member := template_select_mem some_text (clean value)
      refine mask_masked_of_select _ rfl rfl (good _ member) (accepting _ member) ?_
      rw [takenBy_align_eq_take (accepting _ member) (good _ member).ends
        (groupsAreSingle_of_flat (flat _ member)), length_placeholders_of_flat (flat _ member),
        ← maxLength_ofText]
      exact template_select_take distinct (clean value)

/-- Spare digits are dropped, and what is shown is masked to itself: `[+9 ]9-9` writes its group
again, and of two templates the longer one is chosen again. -/
theorem mask_masked_spare_digits :
    (Spec.single (.literal "[+9 ]9-9".toList)).mask
        ((Spec.single (.literal "[+9 ]9-9".toList)).mask "12345".toList).masked =
      ⟨"+1 2-3".toList, "123".toList⟩ ∧
    (Spec.alternatives (["99-99".toList, "9-9".toList].map .literal)).mask
        ((Spec.alternatives (["99-99".toList, "9-9".toList].map .literal)).mask
          "123456".toList).masked =
      (Spec.alternatives (["99-99".toList, "9-9".toList].map .literal)).mask "123456".toList ∧
    ((Spec.alternatives (["99-99".toList, "9-9".toList].map .literal)).select
        (clean ((Spec.alternatives (["99-99".toList, "9-9".toList].map .literal)).mask
          "123456".toList).masked)).template =
      ((Spec.alternatives (["99-99".toList, "9-9".toList].map .literal)).select
        (clean "123456".toList)).template := by
  have again := mask_masked.1 (.literal "[+9 ]9-9".toList) "12345".toList (by decide +kernel)
    (by decide +kernel)
  refine ⟨?_, ?_⟩
  · rw [again]
    decide +kernel
  · exact mask_masked.2 ["99-99".toList, "9-9".toList] "123456".toList (by decide +kernel)
      (by decide +kernel) (by decide +kernel) (by decide +kernel)

end InputMask
