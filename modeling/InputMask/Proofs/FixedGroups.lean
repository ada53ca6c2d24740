import InputMask.Proofs.Greedy
import InputMask.Proofs.Walk

/-!
# Templates whose groups hold no placeholder

A group of literals takes nothing and is written whenever a raw character is left. On a
template with only such groups the walk takes characters greedily, and only what it took
matters for what is written once more raw text follows.

## Main definitions

* `GroupsAreFixed`: no group holds a placeholder

## Main results

* `unmasked_applyTokens_eq_greedy`: the characters taken are the greedy choice
* `align_greedy_append`: raw text that was dropped leaves no trace once more follows
-/

namespace InputMask

/-- The classes of the placeholders in a group. -/
def Token.groupClasses : Token → List CharClass
  | literal _ => []
  | placeholder _ => []
  | group items => slotClasses items

/-- No group holds a placeholder. -/
def GroupsAreFixed (tokens : List Token) : Prop :=
  ∀ token ∈ tokens, token.groupClasses = []

instance (tokens : List Token) : Decidable (GroupsAreFixed tokens) :=
  inferInstanceAs (Decidable (∀ token ∈ tokens, token.groupClasses = []))

section Tokens

variable {tokens : List Token} {items : List Slot} {raw : List Char} {c : Char}

theorem GroupsAreFixed.head (fixed : GroupsAreFixed (.group items :: tokens)) :
    slotClasses items = [] :=
  fixed _ List.mem_cons_self

theorem align_literal_of_ne_nil (left : raw ≠ []) :
    align (.literal c :: tokens) raw = .literal c :: align tokens raw :=
  (Move.literal_of_ne_nil left).align_eq

/-- A group of literals is filled wherever a character is left. -/
theorem fill?_eq_some_of_fixed {ahead : Nat} (fixed : slotClasses items = []) (left : raw ≠ []) :
    fill? ahead items raw = some (cellsOf items [], raw) :=
  fill?_eq_some_iff.mpr ⟨[], rfl, rfl, by simp [fixed], by simp, fun _ _ => left⟩

theorem fill?_cons_of_fixed {ahead : Nat} {x : Char} (fixed : slotClasses items = []) :
    fill? ahead items (x :: raw) = some (cellsOf items [], x :: raw) :=
  fill?_eq_some_of_fixed fixed (List.cons_ne_nil x raw)

/-- A group of literals is written in full. -/
theorem align_group_of_fixed (fixed : slotClasses items = []) (left : raw ≠ []) :
    align (.group items :: tokens) raw = .group (cellsOf items []) :: align tokens raw :=
  (Move.commit_of_fill? (fill?_eq_some_of_fixed fixed left) left).align_eq

end Tokens

/-- The characters that steps have taken. -/
def takenBy (steps : List Step) : List Char :=
  (steps.flatMap Step.cells).filterMap Cell.taken?

/-- A literal that is withheld takes nothing from the unmasked text. -/
theorem unmasked_applyTokens (tokens : List Token) (raw : List Char) :
    (applyTokens tokens raw).unmasked = takenBy (align tokens raw) := by
  rw [applyTokens, Output.ofSteps, takenBy]
  match tokens, raw with
  | [], _ => rfl
  | .placeholder _ :: _, _ => rfl
  | .group _ :: _, _ => rfl
  | .literal _ :: _, [] => rfl
  | .literal c :: tokens, x :: raw =>
    rw [align]
    cases align tokens (x :: raw) <;> rfl

theorem applyTokens_nil_right (tokens : List Token) : applyTokens tokens [] = Output.empty := by
  match tokens with
  | [] => rfl
  | .literal _ :: _ => rfl
  | .placeholder _ :: _ => rfl
  | .group _ :: _ => rfl

section Greedy

variable {p q : Position} {steps : List Step} {tokens : List Token} {later : List Char}

theorem takenBy_append (steps others : List Step) :
    takenBy (steps ++ others) = takenBy steps ++ takenBy others := by
  simp [takenBy]

/-- Tokens further on have no other groups. -/
theorem GroupsAreFixed.of_move (fixed : GroupsAreFixed p.tokens) (move : Move p steps q) :
    GroupsAreFixed q.tokens :=
  fun token member => fixed token (move.tokens_suffix.subset member)

/-- A group of literals takes no character and leaves the raw text as it is. -/
theorem fill?_of_fixed {ahead : Nat} {items : List Slot} {raw rest : List Char}
    {cells : List Cell} (fixed : slotClasses items = [])
    (filled : fill? ahead items raw = some (cells, rest)) :
    raw = rest ∧ cells.filterMap Cell.taken? = [] := by
  obtain ⟨picked, rfl, rfl, suits, -, -⟩ := fill?_eq_some_iff.mp filled
  obtain rfl : picked = [] := by simpa [fixed] using suits
  exact ⟨rfl, filterMap_taken?_cellsOf (by simp [fixed])⟩

/-- Each move takes what the greedy choice takes there. -/
theorem Move.takenBy_append_greedy (move : Move p steps q) (fixed : GroupsAreFixed p.tokens) :
    takenBy steps ++ greedy (classes q.tokens) q.raw = greedy (classes p.tokens) p.raw := by
  cases move with
  | literal => rfl
  | take accepted => exact (greedy_of_accepts accepted).symm
  | drop rejected => exact (greedy_of_rejects rejected).symm
  | commit filled =>
    obtain ⟨rfl, none⟩ := fill?_of_fixed fixed.head filled
    simp [takenBy, Step.cells, none]
  | skip refused => rfl

theorem Walk.takenBy_append_greedy (walk : Walk p steps q) (fixed : GroupsAreFixed p.tokens) :
    takenBy steps ++ greedy (classes q.tokens) q.raw = greedy (classes p.tokens) p.raw := by
  induction walk with
  | refl => rfl
  | head move _ ih =>
    rw [takenBy_append, List.append_assoc, ih (fixed.of_move move),
      move.takenBy_append_greedy fixed]

theorem Position.Ended.greedy_eq_nil (ended : p.Ended) :
    greedy (classes p.tokens) p.raw = [] := by
  obtain none | none : p.tokens = [] ∨ p.raw = [] := ended
  · simp [none]
  · simp [none]

/-- On a template whose groups hold no placeholder the unmasked text is the greedy choice. -/
theorem unmasked_applyTokens_eq_greedy (fixed : GroupsAreFixed tokens) (raw : List Char) :
    (applyTokens tokens raw).unmasked = greedy (classes tokens) raw := by
  obtain ⟨q, ended, walk⟩ := exists_walk_to_end ⟨tokens, raw⟩
  have taken := walk.takenBy_append_greedy fixed
  rw [ended.greedy_eq_nil, List.append_nil] at taken
  rw [unmasked_applyTokens, taken]

/-- At the position, keeping only what is taken writes the same once more text follows. -/
def Position.Resumes (p : Position) (later : List Char) : Prop :=
  align p.tokens (greedy (classes p.tokens) p.raw ++ later) = align p.tokens (p.raw ++ later)

/-- Before a move it makes no difference whether dropped text is kept, if it makes none after
it. -/
theorem Move.resumes (move : Move p steps q) (fixed : GroupsAreFixed p.tokens)
    (more : later ≠ []) (behind : q.Resumes later) : p.Resumes later := by
  have left (text : List Char) : text ++ later ≠ [] := by simp [more]
  rw [Position.Resumes] at behind ⊢
  cases move with
  | literal =>
    rw [align_literal_of_ne_nil (left _), align_literal_of_ne_nil (left _)]
    exact congrArg _ behind
  | take accepted =>
    rw [classes_placeholder, greedy_of_accepts accepted, List.cons_append, List.cons_append,
      align_placeholder_of_accepts accepted, align_placeholder_of_accepts accepted, behind]
  | drop rejected =>
    rw [classes_placeholder, greedy_of_rejects rejected, List.cons_append,
      align_placeholder_of_rejects rejected]
    exact behind
  | commit filled =>
    obtain ⟨rfl, -⟩ := fill?_of_fixed fixed.head filled
    rw [align_group_of_fixed fixed.head (left _), align_group_of_fixed fixed.head (left _)]
    exact congrArg _ behind
  | skip refused =>
    rw [align_group_of_fixed fixed.head (left _), align_group_of_fixed fixed.head (left _)]
    exact congrArg _ behind

theorem Walk.resumes (walk : Walk p steps q) (fixed : GroupsAreFixed p.tokens)
    (more : later ≠ []) (behind : q.Resumes later) : p.Resumes later := by
  induction walk with
  | refl => exact behind
  | head move _ ih => exact move.resumes fixed more (ih (fixed.of_move move) behind)

theorem Position.Ended.resumes (ended : p.Ended) (later : List Char) : p.Resumes later := by
  rw [Position.Resumes, ended.greedy_eq_nil]
  obtain none | none : p.tokens = [] ∨ p.raw = [] := ended
  · rw [none]
    rfl
  · rw [none]

/-- Raw text that was dropped leaves no trace once more text follows. -/
theorem align_greedy_append (fixed : GroupsAreFixed tokens) (text : List Char)
    (more : later ≠ []) :
    align tokens (greedy (classes tokens) text ++ later) = align tokens (text ++ later) := by
  obtain ⟨q, ended, walk⟩ := exists_walk_to_end ⟨tokens, text⟩
  exact walk.resumes fixed more (ended.resumes later)

end Greedy

end InputMask
