import InputMask.Masking
import InputMask.Proofs.Checked.Amounts
import InputMask.Proofs.Checked.Application

/-!
# Masking stops at no access

A value is masked with every access checked: templates are read to rank them and to apply them, the
unmasked text is shortened at the byte offset of a character, and numbers are split at byte offsets.
For any specification and any value the output is that of masking, so no access was out of range.

## Main definitions

* `Checked.truncateUnmasked`, `Checked.select`, `Checked.mask`

## Main results

* `Checked.mask_eq_ok`: masking never stops
-/

namespace InputMask.Checked

open Json (byteLength)

/-! ### Shortening -/

/-- The byte offsets at which the characters of a text start, the text itself standing at an
offset. -/
def charOffsets (offset : Nat) : List Char → List Nat
  | [] => []
  | c :: text => offset :: charOffsets (offset + c.utf8Size) text

/-- Keeps at most the given number of characters of the unmasked text. -/
def truncateUnmasked (out : Output) (limit : Nat) : Except Violation Output :=
  match (charOffsets 0 out.unmasked)[limit]? with
  | some offset => do
    let unmasked ← truncate out.unmasked offset
    return { out with unmasked }
  | none => .ok out

/-- A character starts behind the bytes of those in front of it. -/
theorem getElem?_charOffsets (text : List Char) (offset index : Nat) :
    (charOffsets offset text)[index]? =
      if index < text.length then some (offset + byteLength (text.take index)) else none := by
  induction text generalizing offset index with
  | nil => simp [charOffsets]
  | cons c text ih =>
    cases index with
    | zero => simp [charOffsets]
    | succ index => simp [charOffsets, ih, Nat.add_assoc]

/-- The unmasked text is cut in front of a character. -/
theorem truncateUnmasked_eq_ok (out : Output) (limit : Nat) :
    truncateUnmasked out limit = .ok (out.truncateUnmasked limit) := by
  have cut := truncate_append (out.unmasked.take limit) (out.unmasked.drop limit)
  rw [List.take_append_drop] at cut
  rw [truncateUnmasked, getElem?_charOffsets, Nat.zero_add, Output.truncateUnmasked]
  by_cases long : limit < out.unmasked.length
  · rw [if_pos long]
    dsimp only
    rw [cut]
    rfl
  · rw [if_neg long, List.take_of_length_le (Nat.not_lt.mp long)]

/-! ### Selection -/

/-- The candidate that a template is, which is read for the length that it holds. -/
def candidate (text : List Char) : Except Violation Candidate := do
  let template ← tokenize text
  return ⟨text, template.maxLength⟩

/-- The candidates of a list of alternatives, shortest first. -/
def rank (alternatives : List Alternative) : Except Violation (List Candidate) := do
  let candidates ← (alternatives.filterMap Alternative.literal?).mapM candidate
  return candidates.mergeSort (·.maxLength ≤ ·.maxLength)

/-- The choice that a specification makes for a raw text. -/
def select (spec : Spec) (raw : List Char) : Except Violation Selection :=
  match spec with
  | .single alternative => .ok (.only alternative.template)
  | .numeric _ => .ok (.only [])
  | .alternatives list =>
    match list.find? (·.isFoundIn raw) with
    | some alternative => .ok (.byPattern alternative.template)
    | none => do
      let ranked ← rank list
      return selectByLength ranked raw.length

theorem rank_eq_ok (alternatives : List Alternative) :
    rank alternatives = .ok (InputMask.rank alternatives) := by
  have read : candidate = fun text => .ok (Candidate.ofTemplate text) := by
    funext text
    rw [candidate, tokenize_eq_ok]
    rfl
  have each (texts : List (List Char)) :
      texts.mapM candidate = .ok (texts.map Candidate.ofTemplate) := by
    rw [read]
    exact List.mapM_pure
  rw [rank, each]
  rfl

theorem select_eq_ok (spec : Spec) (raw : List Char) : select spec raw = .ok (spec.select raw) := by
  cases spec with
  | single alternative => rfl
  | numeric config => rfl
  | alternatives list =>
    rw [select, Spec.select, selectAmong]
    cases list.find? (·.isFoundIn raw) with
    | some alternative => rfl
    | none =>
      rw [rank_eq_ok]
      rfl

/-! ### Masking -/

/-- The output of a specification that is not numeric for a raw text. -/
def maskRaw (spec : Spec) (raw : List Char) : Except Violation Output := do
  let selection ← select spec raw
  let template ← tokenize selection.template
  let out ← applyTokens template raw
  truncateUnmasked out template.maxLength

/-- The output of a specification for a value. -/
def mask (spec : Spec) (value : List Char) : Except Violation Output :=
  match spec with
  | .numeric config => formatNumeric config value
  | spec => maskRaw spec (clean value)

theorem maskRaw_eq_ok (spec : Spec) (raw : List Char) :
    maskRaw spec raw =
      .ok (((Template.ofText (spec.select raw).template).apply raw).truncateUnmasked
        (Template.ofText (spec.select raw).template).maxLength) := by
  rw [maskRaw, select_eq_ok, Json.ok_bind, tokenize_eq_ok, Json.ok_bind, applyTokens_eq_ok,
    Json.ok_bind, truncateUnmasked_eq_ok]

/-- Masking any value by any specification stops at no access, and gives the same output as without
the checks. -/
theorem mask_eq_ok (spec : Spec) (value : List Char) : mask spec value = .ok (spec.mask value) := by
  cases spec with
  | numeric config => exact formatNumeric_eq_ok config value
  | single alternative => exact maskRaw_eq_ok (.single alternative) (clean value)
  | alternatives list => exact maskRaw_eq_ok (.alternatives list) (clean value)

end InputMask.Checked
