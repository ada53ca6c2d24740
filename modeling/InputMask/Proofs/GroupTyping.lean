import InputMask.Proofs.Remasking
import InputMask.Proofs.Typing

/-!
# Typing with optional groups

With each character typed there is more to spare, so a group may appear that was refused before,
and all characters behind it move on. Typing still ends where pasting ends if no group has more
than one placeholder: then as many characters are taken from the front as there are placeholders,
whatever was written before. Two placeholders in a group are too many, as a group that waits for
its second character lets go of a spare one.

## Main results

* `group_typing_eq_pasting`: appending to the shown text and appending to the value agree
-/

namespace InputMask

open Output

section Prefix

variable {tokens : List Token} {raw other : List Char}

/-- Texts that agree as far as there are placeholders are written alike. -/
theorem align_eq_of_take (ends : EndsInPlaceholder tokens) (single : GroupsAreSingle tokens)
    (accepting : Position.Accepting ⟨tokens, raw⟩) (accepting' : Position.Accepting ⟨tokens, other⟩)
    (same : raw.take (placeholders tokens).length = other.take (placeholders tokens).length) :
    align tokens raw = align tokens other := by
  rw [← align_takenBy accepting ends, takenBy_align_eq_take accepting ends single, same,
    ← takenBy_align_eq_take accepting' ends single, align_takenBy accepting' ends]

/-- What is cut off does not matter to as many characters of a longer text. -/
theorem take_take_append (count : Nat) (raw other : List Char) :
    (raw.take count ++ other).take count = (raw ++ other).take count := by
  rw [List.take_append, List.take_append, List.take_take, Nat.min_self, List.length_take]
  congr 2
  omega

theorem Position.Accepting.take (accepting : Position.Accepting ⟨tokens, raw⟩) (count : Nat) :
    Position.Accepting ⟨tokens, raw.take count⟩ :=
  fun k member c among => accepting k member c (List.mem_of_mem_take among)

theorem Position.Accepting.append (accepting : Position.Accepting ⟨tokens, raw⟩)
    (accepting' : Position.Accepting ⟨tokens, other⟩) :
    Position.Accepting ⟨tokens, raw ++ other⟩ := by
  intro k member c among
  obtain among | among := List.mem_append.mp among
  · exact accepting k member c among
  · exact accepting' k member c among

end Prefix

/-- Under a single good template whose groups have at most one placeholder each, appending to the
shown text comes to the same as appending to the value, for texts of which no placeholder refuses
a letter or digit. -/
theorem group_typing_eq_pasting (alternative : Alternative)
    (good : Good (Template.ofText alternative.template).tokens)
    (single : GroupsAreSingle (Template.ofText alternative.template).tokens)
    (value added : List Char)
    (accepting : Position.Accepting ⟨(Template.ofText alternative.template).tokens, clean value⟩)
    (accepting' :
      Position.Accepting ⟨(Template.ofText alternative.template).tokens, clean added⟩) :
    (Spec.single alternative).mask (((Spec.single alternative).mask value).masked ++ added) =
      (Spec.single alternative).mask (value ++ added) := by
  have shown : clean (((Spec.single alternative).mask value).masked ++ added) =
      (clean value).take (placeholders (Template.ofText alternative.template).tokens).length ++
        clean added := by
    rw [mask_single, masked_truncateUnmasked, clean_append, clean_masked_applyTokens good.noise,
      unmasked_applyTokens, takenBy_align_eq_take accepting good.ends single]
  have same := align_eq_of_take good.ends single ((accepting.take _).append accepting')
    (accepting.append accepting') (take_take_append _ _ _)
  rw [mask_single _ (_ ++ added), mask_single _ (value ++ added), shown, clean_append, applyTokens,
    applyTokens, same]

/-- `12` shows as `1-2` under `[9-]9-[9]9`, and with `34` behind it all groups are written, as they
are on `1234`. -/
theorem group_typing_four_digits :
    (Spec.single (.literal "[9-]9-[9]9".toList)).mask "12".toList =
      ⟨"1-2".toList, "12".toList⟩ ∧
    (Spec.single (.literal "[9-]9-[9]9".toList)).mask
        (((Spec.single (.literal "[9-]9-[9]9".toList)).mask "12".toList).masked ++ "34".toList) =
      ⟨"1-2-34".toList, "1234".toList⟩ := by
  have typed := group_typing_eq_pasting (.literal "[9-]9-[9]9".toList) (by decide +kernel)
    (by decide +kernel) "12".toList "34".toList (by decide +kernel) (by decide +kernel)
  refine ⟨by decide +kernel, ?_⟩
  rw [typed]
  decide +kernel

/-- A group of two drops the spare digit of `12`, so `34` typed behind it makes `134`. -/
example :
    (Spec.single (.literal "[99]9".toList)).mask
        (((Spec.single (.literal "[99]9".toList)).mask "12".toList).masked ++ "34".toList) ≠
      (Spec.single (.literal "[99]9".toList)).mask "1234".toList := by
  decide +kernel

end InputMask
