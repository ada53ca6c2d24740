import InputMask.Proofs.FixedGroups
import Mathlib.Data.List.TakeWhile

/-!
# The skeleton of a template

A raw text of which nothing is taken ought to show nothing, and a literal at the head of a template
is withheld for that. But only that one literal is: a second literal, or a group that needs no
character of its own, is a step of its own and is shown with whatever stands before it. The tokens
in front of the first mandatory placeholder decide it alone, as nothing is passed behind that
placeholder without being taken.

## Main definitions

* `lead`: the tokens in front of the first mandatory placeholder
* `skeleton`: the steps that are made while nothing is taken
* `SkeletonIsHidden`: what the lead of a template must be for its skeleton not to be shown

## Main results

* `align_eq_skeleton`, `align_noise`: the skeleton is what is written when nothing is taken, and
  a character that no placeholder accepts has it written
* `forall_masked_eq_nil_iff`: nothing is ever shown alone exactly if the skeleton is not
* `shows_nothing_alone_iff`
-/

namespace InputMask

/-- The tokens in front of the first mandatory placeholder, or all of them if there is none. -/
def lead (tokens : List Token) : List Token :=
  tokens.takeWhile (!·.isPlaceholder)

/-- The step that a token makes without a character of its own, if it makes one then. -/
def Token.bareStep? : Token → Option Step
  | literal c => some (.literal c)
  | placeholder _ => none
  | group items => if slotClasses items = [] then some (.group (cellsOf items [])) else none

/-- The steps that are made while nothing is taken. -/
def skeleton (tokens : List Token) : List Step :=
  (lead tokens).filterMap Token.bareStep?

/-- In front of the first mandatory placeholder no literal stands but at the head of the template,
no group consists of literals, and none is empty if a literal stands at the head. -/
structure SkeletonIsHidden (tokens : List Token) : Prop where
  literals : ∀ i c, (lead tokens)[i]? = some (.literal c) → i = 0
  groups : ∀ items, .group items ∈ lead tokens → items ≠ [] → ∃ k, .placeholder k ∈ items
  empty : ∀ c, tokens.head? = some (.literal c) → .group [] ∉ lead tokens

section Skeleton

variable {tokens : List Token} {items : List Slot} {raw : List Char} {c x : Char} {k : CharClass}

@[simp] theorem lead_nil : lead [] = [] := rfl

@[simp] theorem lead_literal : lead (.literal c :: tokens) = .literal c :: lead tokens := rfl

@[simp] theorem lead_placeholder : lead (.placeholder k :: tokens) = [] := rfl

@[simp] theorem lead_group : lead (.group items :: tokens) = .group items :: lead tokens := rfl

@[simp] theorem skeleton_nil : skeleton [] = [] := rfl

@[simp] theorem skeleton_literal :
    skeleton (.literal c :: tokens) = .literal c :: skeleton tokens := rfl

@[simp] theorem skeleton_placeholder : skeleton (.placeholder k :: tokens) = [] := rfl

theorem skeleton_group_of_fixed (fixed : slotClasses items = []) :
    skeleton (.group items :: tokens) = .group (cellsOf items []) :: skeleton tokens := by
  simp [skeleton, Token.bareStep?, fixed]

theorem skeleton_group_of_asking (asking : slotClasses items ≠ []) :
    skeleton (.group items :: tokens) = skeleton tokens := by
  simp [skeleton, Token.bareStep?, asking]

/-- Nothing stands in front of a placeholder at the head. -/
theorem skeletonIsHidden_of_lead_eq_nil (none : lead tokens = []) : SkeletonIsHidden tokens where
  literals i c here := by simp [none] at here
  groups items among := by simp [none] at among
  empty c _ := by simp [none]

/-- No mandatory placeholder stands in front of the first one. -/
theorem placeholder_not_mem_lead (tokens : List Token) : .placeholder k ∉ lead tokens := by
  intro among
  have other := List.mem_takeWhile_imp among
  cases other

/-! ### What is written when nothing is taken -/

/-- Only a group without placeholders is filled with nothing taken. -/
theorem takenBy_group_ne_nil {ahead : Nat} {cells : List Cell} {rest : List Char}
    {steps : List Step} (asking : slotClasses items ≠ [])
    (filled : fill? ahead items raw = some (cells, rest)) :
    takenBy (.group cells :: steps) ≠ [] := by
  obtain ⟨picked, -, rfl, suits, -, -⟩ := fill?_eq_some_iff.mp filled
  have some_picked : picked ≠ [] := by
    rintro rfl
    exact asking (List.forall₂_nil_right_iff.mp suits)
  rw [← List.singleton_append, takenBy_append]
  simpa [takenBy, Step.cells, filterMap_taken?_cellsOf suits.length_eq] using
    fun none => absurd none some_picked

/-- If nothing is taken of a raw text, the skeleton is written. -/
theorem align_eq_skeleton (left : raw ≠ []) (none : takenBy (align tokens raw) = []) :
    align tokens raw = skeleton tokens := by
  obtain ⟨x, raw, rfl⟩ := List.exists_cons_of_ne_nil left
  induction tokens with
  | nil => rfl
  | cons token tokens ih =>
    cases token with
    | literal c => exact congrArg _ (ih none)
    | placeholder k =>
      rw [skeleton_placeholder]
      rw [align] at none ⊢
      split
      · rfl
      next y rest dropped =>
        rw [dropped] at none
        cases none
    | group items =>
      by_cases fixed : slotClasses items = []
      · rw [align_group_of_fixed fixed left, ← List.singleton_append, takenBy_append] at none
        rw [align_group_of_fixed fixed left, skeleton_group_of_fixed fixed,
          ih (List.append_eq_nil_iff.mp none).2]
      · cases filled : fill? (Template.mandatory tokens) items (x :: raw) with
        | none =>
          rw [(Move.skip filled).align_eq] at none ⊢
          rw [List.nil_append] at none ⊢
          rw [ih none, skeleton_group_of_asking fixed]
        | some result =>
          rw [(Move.commit filled).align_eq] at none
          exact absurd none (takenBy_group_ne_nil fixed filled)

/-- Of a character that no placeholder accepts nothing is taken. -/
theorem takenBy_align_noise (noise : isAlphanumeric x = false) :
    takenBy (align tokens [x]) = [] := by
  have rejected (k : CharClass) : k.accepts x = false := by
    rw [← Bool.not_eq_true]
    intro accepted
    rw [CharClass.isAlphanumeric_of_accepts accepted] at noise
    cases noise
  induction tokens with
  | nil => rfl
  | cons token tokens ih =>
    cases token with
    | literal c => exact ih
    | placeholder k =>
      rw [align_placeholder_of_rejects (rejected k), align_nil_right]
      rfl
    | group items =>
      cases filled : fill? (Template.mandatory tokens) items [x] with
      | none =>
        rw [(Move.skip filled).align_eq]
        exact ih
      | some result =>
        obtain ⟨cells, rest⟩ := result
        obtain ⟨picked, whole, -, suits, -, -⟩ := fill?_eq_some_iff.mp filled
        -- what is taken would be accepted, and it could only be that character
        have fixed : slotClasses items = [] := by
          cases picked with
          | nil => exact List.forall₂_nil_right_iff.mp suits
          | cons y picked =>
            obtain ⟨rfl, -⟩ := List.cons_eq_cons.mp whole
            obtain ⟨k, -, accepted⟩ := exists_accepts_of_mem suits List.mem_cons_self
            rw [rejected] at accepted
            cases accepted
        obtain ⟨rfl, untaken⟩ := fill?_of_fixed fixed filled
        rw [(Move.commit filled).align_eq, takenBy_append, ih, List.append_nil]
        simpa [takenBy, Step.cells] using untaken

/-- Nothing is shown unless something is taken, exactly if the skeleton is not shown. -/
theorem forall_masked_eq_nil_iff :
    (∀ raw, (applyTokens tokens raw).unmasked = [] → (applyTokens tokens raw).masked = []) ↔
      (shown tokens (skeleton tokens)).flatMap Step.cells = [] := by
  have masked (raw : List Char) : (applyTokens tokens raw).masked = [] ↔
      (shown tokens (align tokens raw)).flatMap Step.cells = [] := List.map_eq_nil_iff
  simp only [unmasked_applyTokens, masked]
  constructor
  · intro hidden
    have none : takenBy (align tokens [' ']) = [] := takenBy_align_noise rfl
    rw [← align_eq_skeleton (List.cons_ne_nil _ _) none]
    exact hidden _ none
  · intro hidden raw none
    by_cases left : raw = []
    · rw [left, align_nil_right]
      cases tokens with
      | nil => rfl
      | cons token tokens => cases token <;> rfl
    · rw [align_eq_skeleton left none]
      exact hidden

/-! ### When the skeleton is hidden -/

theorem slotClasses_ne_nil_iff : slotClasses items ≠ [] ↔ ∃ k, .placeholder k ∈ items := by
  simp only [Ne, List.eq_nil_iff_forall_not_mem, mem_slotClasses, not_forall, not_not]

/-- A group without placeholders writes nothing only if it is empty. -/
theorem cellsOf_nil_right_eq_nil_iff (fixed : slotClasses items = []) :
    cellsOf items [] = [] ↔ items = [] := by
  cases items with
  | nil => simp
  | cons item items =>
    cases item with
    | literal c => simp
    | placeholder k => cases fixed

/-- A property of the tokens of the lead is one of its literals and of its groups. -/
theorem forall_mem_lead_iff {P : Token → Prop} :
    (∀ token ∈ lead tokens, P token) ↔
      (∀ c, .literal c ∈ lead tokens → P (.literal c)) ∧
        ∀ items, .group items ∈ lead tokens → P (.group items) := by
  constructor
  · exact fun all => ⟨fun c => all _, fun items => all _⟩
  · rintro ⟨literals, groups⟩ token among
    cases token with
    | literal c => exact literals c among
    | placeholder k => exact absurd among (placeholder_not_mem_lead tokens)
    | group items => exact groups items among

/-- The skeleton writes nothing if there are no literals in the lead but those of groups that have
placeholders too. -/
theorem flatMap_cells_skeleton_eq_nil_iff :
    (skeleton tokens).flatMap Step.cells = [] ↔
      (∀ c, .literal c ∉ lead tokens) ∧
        ∀ items, .group items ∈ lead tokens → items ≠ [] → ∃ k, .placeholder k ∈ items := by
  have cells : (skeleton tokens).flatMap Step.cells = [] ↔
      ∀ token ∈ lead tokens, ∀ step ∈ token.bareStep?, step.cells = [] := by
    simp only [skeleton, List.flatMap_eq_nil_iff, List.mem_filterMap]
    aesop
  rw [cells, forall_mem_lead_iff]
  refine and_congr (forall_congr' fun c => ?_) (forall₂_congr fun items among => ?_)
  · simp [Token.bareStep?, Step.cells]
  · rw [← slotClasses_ne_nil_iff]
    by_cases fixed : slotClasses items = []
    · simp [Token.bareStep?, Step.cells, fixed, cellsOf_nil_right_eq_nil_iff]
    · simp [Token.bareStep?, fixed]

/-- There is no skeleton if moreover no group of the lead is empty. -/
theorem skeleton_eq_nil_iff :
    skeleton tokens = [] ↔
      (∀ c, .literal c ∉ lead tokens) ∧
        (∀ items, .group items ∈ lead tokens → items ≠ [] → ∃ k, .placeholder k ∈ items) ∧
        .group [] ∉ lead tokens := by
  rw [skeleton, List.filterMap_eq_nil_iff, forall_mem_lead_iff]
  refine and_congr (forall_congr' fun c => ?_) ?_
  · simp [Token.bareStep?]
  · simp only [← slotClasses_ne_nil_iff, Token.bareStep?, ite_eq_right_iff, reduceCtorEq, imp_false]
    constructor
    · intro asking
      exact ⟨fun items among _ => asking items among, fun among => asking [] among rfl⟩
    · rintro ⟨asking, none_empty⟩ items among
      refine asking items among ?_
      rintro rfl
      exact none_empty among

/-- A literal in the lead stands at the head, or in what follows the head. -/
theorem forall_getElem?_literal_iff {token : Token} {others : List Token} :
    (∀ i c, (token :: others)[i]? = some (.literal c) → i = 0) ↔ ∀ c, .literal c ∉ others := by
  constructor
  · intro first c among
    obtain ⟨i, here⟩ := List.getElem?_of_mem among
    exact absurd (first (i + 1) c (by simpa using here)) (Nat.succ_ne_zero i)
  · intro none_behind i c here
    cases i with
    | zero => rfl
    | succ i => exact absurd (List.mem_of_getElem? (by simpa using here)) (none_behind c)

end Skeleton

/-- Masking shows nothing whenever it takes nothing, exactly if in front of the first mandatory
placeholder no literal stands but at the head of the template, no group consists of literals, and
none is empty behind a literal at the head. -/
theorem shows_nothing_alone_iff (tokens : List Token) :
    (∀ raw, (applyTokens tokens raw).unmasked = [] → (applyTokens tokens raw).masked = []) ↔
      SkeletonIsHidden tokens := by
  rw [forall_masked_eq_nil_iff]
  cases tokens with
  | nil => exact iff_of_true rfl (skeletonIsHidden_of_lead_eq_nil rfl)
  | cons token tokens =>
    cases token with
    | placeholder k => exact iff_of_true rfl (skeletonIsHidden_of_lead_eq_nil rfl)
    | literal c =>
      have alone : (shown (.literal c :: tokens) (skeleton (.literal c :: tokens))).flatMap
          Step.cells = [] ↔ skeleton tokens = [] := by
        rw [skeleton_literal]
        cases skeleton tokens <;> simp [shown, Step.cells]
      rw [alone, skeleton_eq_nil_iff]
      constructor
      · rintro ⟨no_literal, asking, no_empty⟩
        refine ⟨forall_getElem?_literal_iff.mpr no_literal, fun items among => ?_, fun _ _ => ?_⟩
        · exact asking items (List.mem_of_ne_of_mem (by simp) among)
        · simpa using no_empty
      · rintro ⟨literals, groups, empty⟩
        refine ⟨forall_getElem?_literal_iff.mp literals, fun items among => ?_, fun among => ?_⟩
        · exact groups items (List.mem_cons_of_mem _ among)
        · exact empty c rfl (List.mem_cons_of_mem _ among)
    | group items =>
      have all : shown (.group items :: tokens) (skeleton (.group items :: tokens)) =
          skeleton (.group items :: tokens) := rfl
      rw [all, flatMap_cells_skeleton_eq_nil_iff]
      constructor
      · rintro ⟨no_literal, asking⟩
        exact ⟨fun i c here => absurd (List.mem_of_getElem? here) (no_literal c), asking,
          fun c headed => by simp at headed⟩
      · rintro ⟨literals, groups, -⟩
        refine ⟨fun c among => ?_, groups⟩
        exact forall_getElem?_literal_iff.mp literals c (List.mem_of_ne_of_mem (by simp) among)

/-- A blank shows what stands in front of the placeholder in `(-9`, and nothing in `(9`. -/
example : (applyTokens (Template.ofText "(-9".toList).tokens [' ']).masked = "(-".toList ∧
    (applyTokens (Template.ofText "(9".toList).tokens [' ']).masked = [] := by
  decide +kernel

end InputMask
