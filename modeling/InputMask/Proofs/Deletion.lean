import InputMask.Proofs.Capacity
import InputMask.Proofs.Noise
import Mathlib.Data.List.DropRight

/-!
# Deleting from the end of what is shown

A user deletes characters at the end of a masked text, and what is left of it is masked again.
Cleaning leaves the characters that were taken, as far as they are still there. On these the
template makes the same steps again up to the one that took the last of them, since nothing was
dropped that a group of literals or a placeholder would ask for. There the raw text ends, so
literals at the end of what was left are gone.

## Main definitions

* `EndsInTaken`: the last cell is a character taken

## Main results

* `Move.align_takenBy_append`: a move is made again on what it took
* `Walk.cells_align_of_endsInTaken`: a walk is made again up to a character that it took
* `mask_after_deletion`: what is shown after deleting at the end of a masked text
-/

namespace InputMask

/-- The last cell, if there is any, is a character taken. -/
def EndsInTaken (cells : List Cell) : Prop :=
  ∀ cell ∈ cells.getLast?, cell.taken?.isSome = true

section Cells

variable {front cells : List Cell}

theorem EndsInTaken.of_append (ends : EndsInTaken (front ++ cells)) : EndsInTaken cells := by
  intro cell last
  refine ends cell ?_
  rw [Option.mem_def] at last ⊢
  rw [List.getLast?_append, last, Option.some_or]

theorem endsInTaken_concat (front : List Cell) (x : Char) :
    EndsInTaken (front ++ [.taken x]) := by
  intro cell last
  obtain rfl : Cell.taken x = cell := by simpa using last
  rfl

/-- Cells that end in a character taken hold one, if there are any. -/
theorem EndsInTaken.filterMap_ne_nil (ends : EndsInTaken cells) (some_cell : cells ≠ []) :
    cells.filterMap Cell.taken? ≠ [] := by
  have last := ends _ (List.getLast?_eq_some_getLast some_cell)
  obtain ⟨x, taken⟩ := Option.isSome_iff_exists.mp last
  exact List.ne_nil_of_mem (List.mem_filterMap.mpr ⟨_, List.getLast_mem some_cell, taken⟩)

end Cells

section Steps

variable {p q : Position} {steps : List Step} {tokens : List Token} {front cells : List Cell}
  {raw later : List Char}

/-- A move is made again on what it took, with anything behind. -/
theorem Move.align_takenBy_append (move : Move p steps q) (fixed : GroupsAreFixed p.tokens)
    (left : takenBy steps ++ later ≠ []) :
    align p.tokens (takenBy steps ++ later) = steps ++ align q.tokens later := by
  cases move with
  | literal => exact align_literal_of_ne_nil left
  | take accepted => exact align_placeholder_of_accepts accepted
  | drop rejected => rfl
  | commit filled =>
    rw [takenBy_group, (fill?_of_fixed fixed.head filled).2, List.nil_append] at left ⊢
    rw [fill?_cons_of_fixed fixed.head] at filled
    cases filled
    exact align_group_of_fixed fixed.head left
  | skip refused =>
    rw [fill?_cons_of_fixed fixed.head] at refused
    cases refused

/-- A move that takes a character writes nothing else. -/
theorem Move.takenBy_eq_nil_or (move : Move p steps q) (fixed : GroupsAreFixed p.tokens) :
    takenBy steps = [] ∨ ∃ x, steps = [.taken x] := by
  cases move with
  | literal => exact Or.inl rfl
  | take accepted => exact Or.inr ⟨_, rfl⟩
  | drop rejected => exact Or.inl rfl
  | commit filled => exact Or.inl (by rw [takenBy_group, (fill?_of_fixed fixed.head filled).2])
  | skip refused => exact Or.inl rfl

/-- Cells that end in a character taken do not end within those of a move. -/
theorem Move.cells_prefix_of_endsInTaken (move : Move p steps q)
    (fixed : GroupsAreFixed p.tokens) (ends : EndsInTaken front) (some_cell : front ≠ [])
    (ahead : front <+: steps.flatMap Step.cells ++ cells) :
    steps.flatMap Step.cells <+: front := by
  rcases List.prefix_or_prefix_of_prefix ahead (List.prefix_append _ _) with within | whole
  · rcases move.takenBy_eq_nil_or fixed with none_taken | ⟨x, rfl⟩
    · have taken := within.filterMap Cell.taken?
      rw [← takenBy, none_taken] at taken
      exact absurd (List.prefix_nil.mp taken) (ends.filterMap_ne_nil some_cell)
    · rcases List.prefix_cons_iff.mp within with none | ⟨rest, rfl, -⟩
      · exact absurd none some_cell
      · exact List.prefix_append [_] rest
  · exact whole

/-- A walk is made again up to a character that it took. -/
theorem Walk.cells_align_of_endsInTaken (walk : Walk p steps q) (fixed : GroupsAreFixed p.tokens)
    (ahead : front <+: steps.flatMap Step.cells) (ends : EndsInTaken front) :
    (align p.tokens (front.filterMap Cell.taken?)).flatMap Step.cells = front := by
  induction walk generalizing front with
  | refl =>
    obtain rfl := List.prefix_nil.mp ahead
    simp
  | head move _ ih =>
    by_cases none : front = []
    · simp [none]
    · have left := ends.filterMap_ne_nil none
      rw [List.flatMap_append] at ahead
      obtain ⟨rest, rfl⟩ := move.cells_prefix_of_endsInTaken fixed ends none ahead
      have behind := ih (fixed.of_move move) ((List.prefix_append_right_inj _).mp ahead)
        ends.of_append
      rw [List.filterMap_append, ← takenBy] at left ⊢
      rw [move.align_takenBy_append fixed left, List.flatMap_append, behind]

/-- A literal at the head of the template is shown where a character is taken. -/
theorem shown_align_of_endsInTaken
    (ends : EndsInTaken ((align tokens raw).flatMap Step.cells)) :
    shown tokens (align tokens raw) = align tokens raw := by
  match tokens, raw with
  | [], _ => rfl
  | .placeholder _ :: _, _ => rfl
  | .group _ :: _, _ => rfl
  | .literal _ :: _, [] => rfl
  | .literal c :: tokens, x :: raw =>
    rw [align] at ends ⊢
    cases behind : align tokens (x :: raw) with
    | nil =>
      rw [behind] at ends
      cases ends _ rfl
    | cons step steps => rfl

end Steps

section Shown

variable {tokens : List Token} {raw left : List Char}

/-- Noise at the end of a text is none of its letters and digits. -/
theorem clean_rdropWhile (text : List Char) :
    clean (text.rdropWhile (!isAlphanumeric ·)) = clean text := by
  have noise : clean (text.rtakeWhile (!isAlphanumeric ·)) = [] := by
    refine List.filter_eq_nil_iff.mpr fun c among => ?_
    simpa using List.mem_rtakeWhile_imp among
  rw [← List.append_nil (clean (text.rdropWhile _)), ← noise, ← clean_append,
    List.rdropWhile_append_rtakeWhile]

/-- On the characters that are left of some cells, what was written is written again, up to the
last of these characters. -/
theorem masked_applyTokens_of_front (fixed : GroupsAreFixed tokens) {front : List Cell}
    (plain : ∀ cell ∈ front, cell.Plain)
    (ahead : front <+: (align tokens raw).flatMap Step.cells) :
    (applyTokens tokens (front.filterMap Cell.taken?)).masked =
      (front.map Cell.char).rdropWhile (!isAlphanumeric ·) := by
  -- from the end: a literal there is dropped as noise, and up to a character taken the walk is
  -- made again
  induction front using List.reverseRecOn with
  | nil =>
    rw [List.filterMap_nil, applyTokens_nil_right]
    rfl
  | append_singleton front cell ih =>
    have last := plain cell (by simp)
    rw [List.map_append, List.map_singleton]
    cases cell with
    | literal c =>
      have before := ih (fun c member => plain c (by simp [member]))
        ((List.prefix_append _ _).trans ahead)
      rw [Cell.Plain] at last
      rw [List.rdropWhile_concat_pos _ _ _ (by simp [last]), ← before]
      simp [List.filterMap_cons]
    | taken x =>
      rw [Cell.Plain] at last
      obtain ⟨q, -, walk⟩ := exists_walk_to_end ⟨tokens, raw⟩
      have ends := endsInTaken_concat front x
      have again := walk.cells_align_of_endsInTaken fixed ahead ends
      rw [List.rdropWhile_concat_neg _ _ _ (by simp [last]), applyTokens, Output.ofSteps,
        shown_align_of_endsInTaken (by rwa [again]), again, List.map_append, List.map_singleton]

/-- What is left of a masked text is shown again up to its last letter or digit. -/
theorem applyTokens_clean_of_shown (noise : LiteralsAreNoise tokens)
    (fixed : GroupsAreFixed tokens) (ahead : left <+: (applyTokens tokens raw).masked) :
    applyTokens tokens (clean left) = ⟨left.rdropWhile (!isAlphanumeric ·), clean left⟩ := by
  obtain ⟨front, within, rfl⟩ := List.prefix_map_iff.mp ahead
  have written := within.trans (isPrefix_cells_shown tokens (align tokens raw))
  have plain : ∀ cell ∈ front, cell.Plain :=
    fun cell member => plain_of_mem_cells_align noise (written.subset member)
  have masked := masked_applyTokens_of_front fixed plain written
  rw [← clean_map_char plain] at masked
  have unmasked : (applyTokens tokens (clean (front.map Cell.char))).unmasked =
      clean (front.map Cell.char) := by
    rw [← clean_masked_applyTokens noise, masked, clean_rdropWhile]
  exact congrArg₂ Output.mk masked unmasked

end Shown

/-- Under a single template whose literals are noise and whose groups hold no placeholder, what
is left of a masked text after deleting at its end is masked to its part up to the last ASCII
letter or digit. The letters and digits of this are the unmasked text, which were the first of
the unmasked text before. -/
theorem mask_after_deletion (alternative : Alternative)
    (noise : LiteralsAreNoise (Template.ofText alternative.template).tokens)
    (fixed : GroupsAreFixed (Template.ofText alternative.template).tokens)
    (value left : List Char)
    (ahead : left <+: ((Spec.single alternative).mask value).masked) :
    (Spec.single alternative).mask left = ⟨left.rdropWhile (!isAlphanumeric ·), clean left⟩ ∧
      clean left <+: ((Spec.single alternative).mask value).unmasked := by
  have applied (text : List Char) : (Spec.single alternative).mask text =
      applyTokens (Template.ofText alternative.template).tokens (clean text) :=
    mask_of_isNumeric_eq_false rfl text
  rw [applied] at ahead
  rw [applied, applied]
  refine ⟨applyTokens_clean_of_shown noise fixed ahead, ?_⟩
  rw [← clean_masked_applyTokens noise]
  exact ahead.filter isAlphanumeric

/-- Of `(1) -2y` the last two characters are deleted, and with them goes the group that stands in
front of them. -/
theorem mask_after_deletion_two_characters :
    LiteralsAreNoise (Template.ofText "(9) [-]9A".toList).tokens ∧
      GroupsAreFixed (Template.ofText "(9) [-]9A".toList).tokens ∧
      ((Spec.single (.literal "(9) [-]9A".toList)).mask "1x2y".toList).masked =
        "(1) -2y".toList ∧
      (Spec.single (.literal "(9) [-]9A".toList)).mask "(1) -".toList =
        ⟨"(1".toList, "1".toList⟩ ∧
      "1".toList <+: "12y".toList := by
  have noise : LiteralsAreNoise (Template.ofText "(9) [-]9A".toList).tokens := by decide +kernel
  have fixed : GroupsAreFixed (Template.ofText "(9) [-]9A".toList).tokens := by decide +kernel
  have before : (Spec.single (.literal "(9) [-]9A".toList)).mask "1x2y".toList =
      ⟨"(1) -2y".toList, "12y".toList⟩ := by decide +kernel
  have ahead : "(1) -".toList <+:
      ((Spec.single (.literal "(9) [-]9A".toList)).mask "1x2y".toList).masked := by
    rw [before]
    exact ⟨"2y".toList, by decide⟩
  have again := mask_after_deletion (.literal "(9) [-]9A".toList) noise fixed "1x2y".toList
    "(1) -".toList ahead
  rw [before] at again
  exact ⟨noise, fixed, congrArg Output.masked before, again⟩

end InputMask
