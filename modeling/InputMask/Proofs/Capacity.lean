import InputMask.Proofs.FixedGroups
import InputMask.Proofs.Noise

/-!
# The length a template is counted to hold

A template is counted to hold one character for each mandatory placeholder and one for each
item of a group. Items that are literals count and take nothing, so the count is a bound on the
unmasked text and no more than that: cutting the unmasked text to it removes nothing. The masked
text has the literals outside of groups as well.

## Main definitions

* `placeholders`: the classes of all placeholders, those of groups included
* `groupItems`, `capacity`: the items of all groups, and the length counted
* `room`: the characters that can be shown

## Main results

* `maxLength_ofText`: the greatest length of a template is its capacity
* `length_takenBy_align_le`: no more characters are taken than there are placeholders
* `length_cells_align_le`: no more characters are written than there is room for
* `mask_of_isNumeric_eq_false`: masking is applying the chosen template, without a cut
* `output_within_bounds`: how long both texts can be
-/

namespace InputMask

/-- The classes of the placeholders of a token, those of a group included. -/
def Token.placeholders : Token → List CharClass
  | literal _ => []
  | placeholder k => [k]
  | group items => slotClasses items

/-- The classes of all placeholders among some tokens, in order. -/
def placeholders (tokens : List Token) : List CharClass :=
  tokens.flatMap Token.placeholders

/-- The items of all groups among some tokens. -/
def groupItems : List Token → Nat
  | [] => 0
  | .literal _ :: tokens => groupItems tokens
  | .placeholder _ :: tokens => groupItems tokens
  | .group items :: tokens => items.length + groupItems tokens

/-- The length some tokens are counted to hold. -/
def capacity (tokens : List Token) : Nat :=
  Template.mandatory tokens + groupItems tokens

/-- The characters that some tokens can show: each literal, and what they are counted to hold. -/
def room (tokens : List Token) : Nat :=
  tokens.countP Token.isLiteral + capacity tokens

section Tokens

variable (tokens : List Token)

@[simp] theorem placeholders_nil : placeholders [] = [] := rfl

@[simp] theorem placeholders_literal (c : Char) :
    placeholders (.literal c :: tokens) = placeholders tokens := rfl

@[simp] theorem placeholders_placeholder (k : CharClass) :
    placeholders (.placeholder k :: tokens) = k :: placeholders tokens := rfl

@[simp] theorem placeholders_group (items : List Slot) :
    placeholders (.group items :: tokens) = slotClasses items ++ placeholders tokens := rfl

theorem placeholders_cons (token : Token) :
    placeholders (token :: tokens) = token.placeholders ++ placeholders tokens :=
  List.flatMap_cons

@[simp] theorem groupItems_nil : groupItems [] = 0 := rfl

@[simp] theorem groupItems_literal (c : Char) :
    groupItems (.literal c :: tokens) = groupItems tokens := rfl

@[simp] theorem groupItems_placeholder (k : CharClass) :
    groupItems (.placeholder k :: tokens) = groupItems tokens := rfl

@[simp] theorem groupItems_group (items : List Slot) :
    groupItems (.group items :: tokens) = items.length + groupItems tokens := rfl

@[simp] theorem capacity_nil : capacity [] = 0 := rfl

theorem capacity_cons (token : Token) :
    capacity (token :: tokens) = token.maxWidth + capacity tokens := by
  rw [capacity, capacity]
  cases token <;> simp [Token.maxWidth] <;> omega

theorem capacity_append (others : List Token) :
    capacity (tokens ++ others) = capacity tokens + capacity others := by
  induction tokens with
  | nil => simp
  | cons token tokens ih =>
    rw [List.cons_append, capacity_cons, capacity_cons, ih, Nat.add_assoc]

/-- The greatest length of a template that was read is its capacity. -/
theorem maxLength_ofText (text : List Char) :
    (Template.ofText text).maxLength = capacity (Template.ofText text).tokens := by
  fun_induction Template.ofText text <;> simp_all [capacity_cons, Template.empty]

theorem length_slotClasses_le (items : List Slot) : (slotClasses items).length ≤ items.length :=
  List.length_filterMap_le _ items

theorem mandatory_le_length_placeholders :
    Template.mandatory tokens ≤ (placeholders tokens).length := by
  induction tokens with
  | nil => simp
  | cons token tokens ih => cases token <;> simp <;> omega

/-- Every placeholder is counted. -/
theorem length_placeholders_le : (placeholders tokens).length ≤ capacity tokens := by
  induction tokens with
  | nil => simp
  | cons token tokens ih =>
    rw [capacity_cons]
    cases token with
    | literal c => simpa [Token.maxWidth] using ih
    | placeholder k =>
      rw [placeholders_placeholder, List.length_cons, Token.maxWidth]
      omega
    | group items =>
      have taken := length_slotClasses_le items
      rw [placeholders_group, List.length_append, Token.maxWidth]
      omega

@[simp] theorem room_literal (c : Char) : room (.literal c :: tokens) = room tokens + 1 := by
  rw [room, room, capacity_cons, List.countP_cons_of_pos rfl, Token.maxWidth]
  omega

@[simp] theorem room_placeholder (k : CharClass) :
    room (.placeholder k :: tokens) = room tokens + 1 := by
  rw [room, room, capacity_cons, List.countP_cons_of_neg Bool.false_ne_true, Token.maxWidth]
  omega

@[simp] theorem room_group (items : List Slot) :
    room (.group items :: tokens) = room tokens + items.length := by
  rw [room, room, capacity_cons, List.countP_cons_of_neg Bool.false_ne_true, Token.maxWidth]
  omega

end Tokens

section Bound

variable {p q : Position} {steps : List Step} {tokens : List Token} {raw : List Char}

@[simp] theorem takenBy_nil : takenBy [] = [] := rfl

@[simp] theorem takenBy_literal (c : Char) : takenBy [.literal c] = [] := rfl

@[simp] theorem takenBy_taken (c : Char) : takenBy [.taken c] = [c] := rfl

@[simp] theorem takenBy_group (cells : List Cell) :
    takenBy [.group cells] = cells.filterMap Cell.taken? := by
  simp [takenBy, Step.cells]

/-- If no move costs more than the tokens that it passes are worth, then no walk does. -/
theorem Walk.cost_le {cost : List Step → Nat} {worth : List Token → Nat} (nothing : cost [] = 0)
    (append : ∀ steps later, cost (steps ++ later) = cost steps + cost later)
    (charge : ∀ {p steps q}, Move p steps q → cost steps + worth q.tokens ≤ worth p.tokens)
    (walk : Walk p steps q) : cost steps + worth q.tokens ≤ worth p.tokens := by
  induction walk with
  | refl => simp [nothing]
  | head move _ ih =>
    have first := charge move
    rw [append]
    omega

/-- If no move costs more than the tokens that it passes are worth, then what is written costs no
more than all the tokens are worth. -/
theorem cost_align_le (cost : List Step → Nat) (worth : List Token → Nat) (nothing : cost [] = 0)
    (append : ∀ steps later, cost (steps ++ later) = cost steps + cost later)
    (charge : ∀ {p steps q}, Move p steps q → cost steps + worth q.tokens ≤ worth p.tokens)
    (tokens : List Token) (raw : List Char) : cost (align tokens raw) ≤ worth tokens := by
  obtain ⟨q, -, walk⟩ := exists_walk_to_end ⟨tokens, raw⟩
  have bound := walk.cost_le nothing append charge
  exact Nat.le_of_add_right_le bound

/-- A move takes at most one character for each placeholder that it passes. -/
theorem Move.length_takenBy_le (move : Move p steps q) :
    (takenBy steps).length + (placeholders q.tokens).length ≤ (placeholders p.tokens).length := by
  cases move with
  | commit filled =>
    obtain ⟨picked, -, rfl, suits, -, -⟩ := fill?_eq_some_iff.mp filled
    have taken := filterMap_taken?_cellsOf suits.length_eq
    simp [taken, suits.length_eq]
  | _ => simp [Nat.add_comm]

/-- No more characters are taken than there are placeholders. -/
theorem length_takenBy_align_le (tokens : List Token) (raw : List Char) :
    (takenBy (align tokens raw)).length ≤ (placeholders tokens).length := by
  refine cost_align_le (fun steps => (takenBy steps).length)
    (fun tokens => (placeholders tokens).length) rfl (fun steps later => ?_)
    Move.length_takenBy_le tokens raw
  rw [takenBy_append, List.length_append]

/-- A move writes at most one character for each literal, placeholder and item that it passes. -/
theorem Move.length_cells_le (move : Move p steps q) :
    (steps.flatMap Step.cells).length + room q.tokens ≤ room p.tokens := by
  cases move with
  | commit filled =>
    obtain ⟨picked, -, rfl, suits, -, -⟩ := fill?_eq_some_iff.mp filled
    have written := length_cellsOf suits.length_eq
    simp [Step.cells, written, Nat.add_comm]
  | _ => simp [Step.cells, Nat.add_comm]

/-- No more characters are written than there is room for. -/
theorem length_cells_align_le (tokens : List Token) (raw : List Char) :
    ((align tokens raw).flatMap Step.cells).length ≤ room tokens := by
  refine cost_align_le (fun steps => (steps.flatMap Step.cells).length) room rfl
    (fun steps later => ?_) Move.length_cells_le tokens raw
  rw [List.flatMap_append, List.length_append]

theorem length_masked_applyTokens_le (tokens : List Token) (raw : List Char) :
    (applyTokens tokens raw).masked.length ≤ room tokens := by
  have written := length_cells_align_le tokens raw
  have not_more := (isPrefix_cells_shown tokens (align tokens raw)).length_le
  rw [applyTokens, Output.ofSteps, List.length_map]
  exact Nat.le_trans not_more written

theorem length_unmasked_apply_le (template : Template) (raw : List Char) :
    (template.apply raw).unmasked.length ≤ (placeholders template.tokens).length := by
  rw [Template.apply, unmasked_applyTokens]
  exact length_takenBy_align_le template.tokens raw

theorem length_placeholders_ofText_le (text : List Char) :
    (placeholders (Template.ofText text).tokens).length ≤ (Template.ofText text).maxLength := by
  rw [maxLength_ofText]
  exact length_placeholders_le (Template.ofText text).tokens

/-- Cutting the unmasked text of a template to its greatest length removes nothing. -/
theorem truncateUnmasked_apply (text raw : List Char) :
    ((Template.ofText text).apply raw).truncateUnmasked (Template.ofText text).maxLength =
      (Template.ofText text).apply raw := by
  have short := Nat.le_trans (length_unmasked_apply_le (Template.ofText text) raw)
    (length_placeholders_ofText_le text)
  rw [Output.truncateUnmasked, List.take_of_length_le short]

/-- Masking, other than of numbers, applies the chosen template to the cleaned value. -/
theorem mask_of_isNumeric_eq_false {spec : Spec} (pattern : spec.isNumeric = false)
    (value : List Char) : spec.mask value =
      (Template.ofText (spec.select (clean value)).template).apply (clean value) := by
  cases spec with
  | numeric config => cases pattern
  | single alternative => exact truncateUnmasked_apply _ _
  | alternatives list => exact truncateUnmasked_apply _ _

end Bound

/-- The unmasked text of a template has at most one character for each placeholder, which its
greatest length counts, and the masked text at most one for each literal, placeholder and item of a
group. So masking, other than of numbers, is applying the chosen template to the cleaned value:
what is cut off at the greatest length is nothing. -/
theorem output_within_bounds :
    (∀ text raw : List Char,
      let template := Template.ofText text
      (template.apply raw).unmasked.length ≤ (placeholders template.tokens).length ∧
      (placeholders template.tokens).length ≤ template.maxLength ∧
      (template.apply raw).masked.length ≤ template.tokens.countP Token.isLiteral +
        template.tokens.countP Token.isPlaceholder + groupItems template.tokens) ∧
    ∀ (spec : Spec) (value : List Char), spec.isNumeric = false →
      let template := Template.ofText (spec.select (clean value)).template
      let out := template.apply (clean value)
      out.truncateUnmasked template.maxLength = out ∧ spec.mask value = out := by
  refine ⟨fun text raw => ⟨length_unmasked_apply_le _ raw, length_placeholders_ofText_le text, ?_⟩,
    fun spec value pattern => ⟨truncateUnmasked_apply _ _,
      mask_of_isNumeric_eq_false pattern value⟩⟩
  have shown := length_masked_applyTokens_le (Template.ofText text).tokens raw
  rwa [room, capacity, ← Nat.add_assoc] at shown

/-- A literal, a group of three items and a placeholder are given three characters. They take two
of them, and the greatest length is four, so nothing is cut off. -/
theorem output_within_bounds_literal_items :
    let spec := Spec.single (.literal "+[-9.]A".toList)
    let template := Template.ofText "+[-9.]A".toList
    spec.isNumeric = false ∧ template.maxLength = 4 ∧
      template.apply "7ab".toList = ⟨"+-7.a".toList, "7a".toList⟩ ∧
      (template.apply "7ab".toList).truncateUnmasked 4 = template.apply "7ab".toList ∧
      spec.mask "7ab".toList = template.apply "7ab".toList := by
  intro spec template
  have pattern : spec.isNumeric = false := rfl
  have counted : template.maxLength = 4 := by decide +kernel
  have cleaned : clean "7ab".toList = "7ab".toList := by decide
  have bounds := output_within_bounds.2 spec "7ab".toList pattern
  rw [cleaned] at bounds
  obtain ⟨uncut, masked⟩ := bounds
  exact ⟨pattern, counted, by decide +kernel, counted ▸ uncut, masked⟩

end InputMask
