import InputMask.Proofs.FixedGroups

/-!
# What more raw text brings

On a template whose groups hold no placeholder a character is taken as soon as a placeholder comes
to it that accepts it, and nothing that stands behind it is asked first. Taking characters in this
way misses nothing: no choice of characters fills more of the placeholders. Nor is anything taken
back when more raw text follows. Each move is made again, with the same step, so what was shown
stays in front of what is shown then.

Both fail for a group with a placeholder, which counts the characters that are left.

## Main results

* `isGreatest_length_unmasked`: as many placeholders are filled as any choice of characters fills
* `Move.append_raw`, `Walk.append_raw`: a walk is made again on more raw text
* `applyTokens_prefix_append`: more raw text only appends to what is shown and to what is taken
-/

namespace InputMask

variable {p q : Position} {steps others : List Step} {tokens : List Token}

/-! ### The most that can be filled -/

/-- If no group holds a placeholder, the characters taken are as many as any choice of raw
characters, in their order, fills of the first placeholders. -/
theorem isGreatest_length_unmasked (fixed : GroupsAreFixed tokens) (raw : List Char) :
    IsGreatest {count | count ≤ (classes tokens).length ∧ Embeds ((classes tokens).take count) raw}
      (applyTokens tokens raw).unmasked.length := by
  rw [unmasked_applyTokens_eq_greedy fixed]
  exact isGreatest_length_greedy (classes tokens) raw

/-- Of `1b2-2a` the template `A[-]9A9` takes `b2a`, and no choice of characters fills its fourth
placeholder as well. -/
theorem isGreatest_length_three_classes :
    GroupsAreFixed (Template.ofText "A[-]9A9".toList).tokens ∧
      (applyTokens (Template.ofText "A[-]9A9".toList).tokens "1b2-2a".toList).unmasked =
        "b2a".toList ∧
      IsGreatest {count | count ≤ (classes (Template.ofText "A[-]9A9".toList).tokens).length ∧
        Embeds ((classes (Template.ofText "A[-]9A9".toList).tokens).take count)
          "1b2-2a".toList} 3 := by
  have fixed : GroupsAreFixed (Template.ofText "A[-]9A9".toList).tokens := by decide +kernel
  have taken : (applyTokens (Template.ofText "A[-]9A9".toList).tokens "1b2-2a".toList).unmasked =
      "b2a".toList := by decide +kernel
  have most := isGreatest_length_unmasked fixed "1b2-2a".toList
  rw [taken] at most
  exact ⟨fixed, taken, most⟩

/-! ### The same walk on more raw text -/

/-- A move is made in the same way with more raw text behind. -/
theorem Move.append_raw (move : Move p steps q) (fixed : GroupsAreFixed p.tokens)
    (later : List Char) :
    Move ⟨p.tokens, p.raw ++ later⟩ steps ⟨q.tokens, q.raw ++ later⟩ := by
  cases move with
  | literal => exact .literal
  | take accepted => exact .take accepted
  | drop rejected => exact .drop rejected
  | commit filled =>
    rw [fill?_cons_of_fixed fixed.head] at filled
    cases filled
    exact .commit (fill?_cons_of_fixed fixed.head)
  | skip refused =>
    rw [fill?_cons_of_fixed fixed.head] at refused
    cases refused

theorem Walk.append_raw (walk : Walk p steps q) (fixed : GroupsAreFixed p.tokens)
    (later : List Char) :
    Walk ⟨p.tokens, p.raw ++ later⟩ steps ⟨q.tokens, q.raw ++ later⟩ := by
  induction walk with
  | refl => exact .refl _
  | head move _ ih => exact .head (move.append_raw fixed later) (ih (fixed.of_move move))

/-- With more raw text behind, the walk goes on where it ended before. -/
theorem align_prefix_append (fixed : GroupsAreFixed tokens) (raw later : List Char) :
    align tokens raw <+: align tokens (raw ++ later) := by
  obtain ⟨q, -, walk⟩ := exists_walk_to_end ⟨tokens, raw⟩
  exact ⟨_, (walk.append_raw fixed later).align_eq.symm⟩

/-! ### What is shown of more steps -/

/-- Only a literal that is alone is withheld, and it is shown once more steps follow. -/
theorem shown_mono (tokens : List Token) (ahead : steps <+: others) :
    shown tokens steps <+: shown tokens others := by
  obtain ⟨more, rfl⟩ := ahead
  unfold shown
  split
  · exact List.nil_prefix
  next alone =>
    split
    next c behind step =>
      cases steps with
      | nil => exact List.nil_prefix
      | cons first rest =>
        obtain ⟨rfl, none⟩ := List.cons_eq_cons.mp step
        obtain ⟨rfl, -⟩ := List.append_eq_nil_iff.mp none
        exact absurd rfl (alone _ _ _ rfl)
    · exact List.prefix_append _ _

theorem Output.ofSteps_mono (ahead : steps <+: others) :
    (ofSteps steps).masked <+: (ofSteps others).masked ∧
      (ofSteps steps).unmasked <+: (ofSteps others).unmasked := by
  obtain ⟨more, rfl⟩ := ahead
  simp [ofSteps]

/-- If no group holds a placeholder, more raw text only appends to the masked and to the unmasked
text. -/
theorem applyTokens_prefix_append (fixed : GroupsAreFixed tokens) (raw later : List Char) :
    (applyTokens tokens raw).masked <+: (applyTokens tokens (raw ++ later)).masked ∧
      (applyTokens tokens raw).unmasked <+: (applyTokens tokens (raw ++ later)).unmasked :=
  Output.ofSteps_mono (shown_mono tokens (align_prefix_append fixed raw later))

/-- With `x2` behind, `(9[-]9` shows `(1-2` instead of `(1`. -/
theorem applyTokens_prefix_append_two_digits :
    GroupsAreFixed (Template.ofText "(9[-]9".toList).tokens ∧
      applyTokens (Template.ofText "(9[-]9".toList).tokens "1".toList =
        ⟨"(1".toList, "1".toList⟩ ∧
      "(1".toList <+:
        (applyTokens (Template.ofText "(9[-]9".toList).tokens ("1".toList ++ "x2".toList)).masked ∧
      "1".toList <+:
        (applyTokens (Template.ofText "(9[-]9".toList).tokens
          ("1".toList ++ "x2".toList)).unmasked := by
  have fixed : GroupsAreFixed (Template.ofText "(9[-]9".toList).tokens := by decide +kernel
  have before : applyTokens (Template.ofText "(9[-]9".toList).tokens "1".toList =
      ⟨"(1".toList, "1".toList⟩ := by decide +kernel
  have appended := applyTokens_prefix_append fixed "1".toList "x2".toList
  rw [before] at appended
  exact ⟨fixed, before, appended⟩

/-- A group that has to wait for a second digit changes what was shown of the first. -/
example : (applyTokens (Template.ofText "[(9)]9".toList).tokens "1".toList).masked = "1".toList ∧
    (applyTokens (Template.ofText "[(9)]9".toList).tokens "12".toList).masked =
      "(1)2".toList := by
  decide +kernel

end InputMask
