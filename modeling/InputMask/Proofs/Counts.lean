import InputMask.Proofs.Capacity
import InputMask.Proofs.Checked.Reading

/-!
# The counts of a template

Three things are counted for a template, each on its own: its least and its greatest length while
the text is read, and afterwards, in a pass from the end, the mandatory placeholders behind each
token. Masking relies on their agreement. A group is admitted by the count of its token, while the
greatest length decides between alternatives and where the unmasked text is cut. All three are
counts of the same tokens, so wherever these are split, the placeholders in front and those behind
make up the least length.

## Main results

* `length_mandatoryAfter`, `getElem?_mandatoryAfter`: each token has a count, that of the mandatory
  placeholders behind it
* `counts_agree_with_tokens`: the lengths and the counts are those of the tokens
-/

namespace InputMask

open Template (mandatory ofText)

section Counts

variable {template : Template} {front behind : List Token} {token : Token}

/-- Every token has a count. -/
theorem length_mandatoryAfter (template : Template) :
    template.mandatoryAfter.length = template.tokens.length := by
  rw [Checked.mandatoryAfter_eq, Checked.length_countsBehind]

/-- The count of a token is the number of mandatory placeholders behind it. -/
theorem getElem?_mandatoryAfter_of_split (split : template.tokens = front ++ token :: behind) :
    template.mandatoryAfter[front.length]? = some (mandatory behind) := by
  rw [Checked.mandatoryAfter_eq, split, Checked.getElem?_countsBehind_append]

theorem getElem?_mandatoryAfter {i : Nat} (inside : i < template.tokens.length) :
    template.mandatoryAfter[i]? = some (mandatory (template.tokens.drop (i + 1))) := by
  have split : template.tokens =
      template.tokens.take i ++ template.tokens[i] :: template.tokens.drop (i + 1) := by
    rw [← List.drop_eq_getElem_cons inside, List.take_append_drop]
  have counted := getElem?_mandatoryAfter_of_split split
  rwa [List.length_take_of_le (Nat.le_of_lt inside)] at counted

end Counts

/-- The least length of a template is the number of its placeholder tokens, and the greatest has
the items of its groups on top. Each token has one count, which is the number of placeholder tokens
behind it. So wherever the tokens are split, the placeholders in front and those behind add up to
the least length, and those behind are the count of the last token in front. -/
theorem counts_agree_with_tokens (text : List Char) :
    let template := ofText text
    template.minLength = mandatory template.tokens ∧
    template.maxLength = mandatory template.tokens + groupItems template.tokens ∧
    template.mandatoryAfter.length = template.tokens.length ∧
    (∀ i < template.tokens.length,
      template.mandatoryAfter[i]? = some (mandatory (template.tokens.drop (i + 1)))) ∧
    ∀ front behind, template.tokens = front ++ behind →
      mandatory front + mandatory behind = template.minLength ∧
      ∀ i, front.length = i + 1 → template.mandatoryAfter[i]? = some (mandatory behind) := by
  intro template
  have least : template.minLength = mandatory template.tokens := minLength_ofText text
  have counted : ∀ i < template.tokens.length,
      template.mandatoryAfter[i]? = some (mandatory (template.tokens.drop (i + 1))) :=
    fun _ inside => getElem?_mandatoryAfter inside
  refine ⟨least, maxLength_ofText text, length_mandatoryAfter template, counted,
    fun front behind split => ⟨?_, fun i size => ?_⟩⟩
  · rw [least, split, mandatory_append]
  · have inside : i < template.tokens.length := by
      rw [split, List.length_append]
      omega
    rw [counted i inside, split, ← size, List.drop_left]

/-- An escape, a group with a literal item and a bracket that is not closed, split behind the first
mandatory placeholder. -/
theorem counts_agree_with_five_tokens :
    let template := ofText "\\9[9-]9[A".toList
    let front := [.literal '9', .group [.placeholder .digit, .literal '-'], .placeholder .digit]
    let behind := [.group [], .placeholder .letter]
    template.tokens = front ++ behind ∧ template.minLength = 2 ∧ template.maxLength = 4 ∧
      mandatory front + mandatory behind = template.minLength ∧
      1 < template.tokens.length ∧ template.mandatoryAfter[1]? = some 2 ∧
      front.length = 2 + 1 ∧ template.mandatoryAfter[2]? = some (mandatory behind) := by
  intro template front behind
  have split : template.tokens = front ++ behind := by decide +kernel
  have inside : 1 < template.tokens.length := by decide +kernel
  obtain ⟨least, greatest, -, counted, splits⟩ := counts_agree_with_tokens "\\9[9-]9[A".toList
  obtain ⟨together, ahead⟩ := splits front behind split
  refine ⟨split, ?_, ?_, together, inside, ?_, rfl, ahead 2 rfl⟩
  · exact least.trans (split ▸ rfl)
  · exact greatest.trans (split ▸ rfl)
  · exact (counted 1 inside).trans (split ▸ rfl)

end InputMask
