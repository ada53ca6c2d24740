import InputMask.Field
import InputMask.Proofs.FixedGroups
import InputMask.Proofs.Noise

/-!
# Typing equals pasting

A field is masked again from what it shows each time text is appended. Under a single template
whose literals are noise and whose groups hold no placeholder this comes to the same as masking
all the text at once: what was dropped earlier would have been dropped again, and literals at
the end that were not shown yet appear as soon as more text follows.

## Main definitions

* `Field.after`: a field after some edits

## Main results

* `mask_masked_append`: appending to the shown text and appending to the value agree
* `typing_eq_pasting`: any run of appended texts ends where masking all of it ends
-/

namespace InputMask

open Output

/-- The field after some edits. -/
def Field.after (field : Field) (edits : List Edit) : Field :=
  edits.foldl (fun field e => (field.edit e).2) field

/-- A single template masks a cleaned value, whatever its pattern. -/
theorem mask_single (alternative : Alternative) (value : List Char) :
    (Spec.single alternative).mask value =
      (applyTokens (Template.ofText alternative.template).tokens (clean value)).truncateUnmasked
        (Template.ofText alternative.template).maxLength := rfl

section Typing

variable {alternative : Alternative}
  (noise : LiteralsAreNoise (Template.ofText alternative.template).tokens)
  (fixed : GroupsAreFixed (Template.ofText alternative.template).tokens)

include noise fixed

/-- What is left of a value in the shown text are the characters that were taken. -/
theorem clean_masked_append (value added : List Char) :
    clean (((Spec.single alternative).mask value).masked ++ added) =
      greedy (classes (Template.ofText alternative.template).tokens) (clean value) ++
        clean added := by
  rw [mask_single, masked_truncateUnmasked, clean_append, clean_masked_applyTokens noise,
    unmasked_applyTokens_eq_greedy fixed]

/-- Appending to the shown text and appending to the value take the same characters. -/
theorem unmasked_mask_masked_append (value added : List Char) :
    ((Spec.single alternative).mask
        (((Spec.single alternative).mask value).masked ++ added)).unmasked =
      ((Spec.single alternative).mask (value ++ added)).unmasked := by
  -- both are the greedy choice, from what the first one kept and from the whole text
  rw [mask_single _ (_ ++ added), mask_single _ (value ++ added), clean_masked_append noise fixed,
    unmasked_truncateUnmasked, unmasked_truncateUnmasked, unmasked_applyTokens_eq_greedy fixed,
    unmasked_applyTokens_eq_greedy fixed, greedy_append_greedy, clean_append]

/-- Once something is appended that cleaning keeps, both texts agree. -/
theorem mask_masked_append (value : List Char) {added : List Char} (more : clean added ≠ []) :
    (Spec.single alternative).mask (((Spec.single alternative).mask value).masked ++ added) =
      (Spec.single alternative).mask (value ++ added) := by
  rw [mask_single _ (_ ++ added), mask_single _ (value ++ added), clean_masked_append noise fixed,
    clean_append, applyTokens, applyTokens, align_greedy_append fixed _ more]

/-- A field that shows a masked value goes on as if all the text had been in the value. -/
theorem after_append (value : List Char) {texts : List (List Char)}
    (more : ∀ text ∈ texts, clean text ≠ []) :
    Field.after ⟨.single alternative, ((Spec.single alternative).mask value).masked⟩
        (texts.map .append) =
      ⟨.single alternative, ((Spec.single alternative).mask (value ++ texts.flatten)).masked⟩ := by
  induction texts generalizing value with
  | nil => simp [Field.after]
  | cons text texts ih =>
    have first := mask_masked_append noise fixed value (more text (by simp))
    have rest := ih (value ++ text) fun t member => more t (by simp [member])
    rw [List.map_cons, List.flatten_cons, ← List.append_assoc, ← rest, ← first]
    rfl

end Typing

theorem clean_ne_nil {text : List Char} (more : ∃ c ∈ text, isAlphanumeric c = true) :
    clean text ≠ [] := by
  obtain ⟨c, member, plain⟩ := more
  exact List.ne_nil_of_mem (mem_clean.mpr ⟨member, plain⟩)

/-- Under a single template whose literals are noise and whose groups hold no placeholder,
appending to the shown text gives the unmasked text of the whole, and its masked text too if
an ASCII letter or digit is appended. Hence typing ends where pasting ends. -/
theorem typing_eq_pasting (alternative : Alternative)
    (noise : LiteralsAreNoise (Template.ofText alternative.template).tokens)
    (fixed : GroupsAreFixed (Template.ofText alternative.template).tokens) :
    (∀ value added,
      ((Spec.single alternative).mask
          (((Spec.single alternative).mask value).masked ++ added)).unmasked =
        ((Spec.single alternative).mask (value ++ added)).unmasked ∧
      ((∃ c ∈ added, isAlphanumeric c = true) →
        ((Spec.single alternative).mask
            (((Spec.single alternative).mask value).masked ++ added)).masked =
          ((Spec.single alternative).mask (value ++ added)).masked)) ∧
    ∀ texts last, (∀ text ∈ texts ++ [last], ∃ c ∈ text, isAlphanumeric c = true) →
      (((Field.blank (.single alternative)).after (texts.map .append)).edit (.append last)).1 =
        (Spec.single alternative).mask (texts.flatten ++ last) := by
  refine ⟨fun value added => ⟨unmasked_mask_masked_append noise fixed value added, ?_⟩, ?_⟩
  · intro more
    rw [mask_masked_append noise fixed value (clean_ne_nil more)]
  · intro texts last more
    have typed := after_append noise fixed [] fun text member =>
      clean_ne_nil (more text (List.mem_append_left _ member))
    have blank : Field.blank (.single alternative) =
        ⟨.single alternative, ((Spec.single alternative).mask []).masked⟩ := by
      rw [mask_single, masked_truncateUnmasked, clean, List.filter_nil, applyTokens_nil_right]
      rfl
    rw [blank, typed, List.nil_append]
    exact mask_masked_append noise fixed _ (clean_ne_nil (more last (by simp)))

/-- Noise typed before a digit is gone from the shown text, and the digit still goes where it
would have gone. -/
theorem typing_two_digits :
    LiteralsAreNoise (Template.ofText "(9) [-]9".toList).tokens ∧
      GroupsAreFixed (Template.ofText "(9) [-]9".toList).tokens ∧
      (Spec.single (.literal "(9) [-]9".toList)).mask "1xy".toList =
        ⟨"(1) -".toList, "1".toList⟩ ∧
      (((Field.blank (.single (.literal "(9) [-]9".toList))).after [.append "1xy".toList]).edit
          (.append "z2".toList)).1 =
        (Spec.single (.literal "(9) [-]9".toList)).mask "1xyz2".toList := by
  have noise : LiteralsAreNoise (Template.ofText "(9) [-]9".toList).tokens := by decide +kernel
  have fixed : GroupsAreFixed (Template.ofText "(9) [-]9".toList).tokens := by decide +kernel
  have digits : ∀ text ∈ ["1xy".toList] ++ ["z2".toList], ∃ c ∈ text, isAlphanumeric c = true := by
    intro text member
    obtain rfl | rfl : text = "1xy".toList ∨ text = "z2".toList := by simpa using member
    · exact ⟨'1', by decide, by decide⟩
    · exact ⟨'2', by decide, by decide⟩
  refine ⟨noise, fixed, by decide +kernel, ?_⟩
  exact (typing_eq_pasting (.literal "(9) [-]9".toList) noise fixed).2 ["1xy".toList] "z2".toList
    digits

end InputMask
