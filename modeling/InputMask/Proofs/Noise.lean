import InputMask.Masking
import InputMask.Proofs.Walk

/-!
# Templates whose literals are noise

When no literal of a template is an ASCII letter or digit, cleaning the masked text gives back
the unmasked text: a field can be masked again from what it shows.

## Main definitions

* `LiteralsAreNoise`: no literal is an ASCII letter or digit

## Main results

* `clean_masked_applyTokens`: the masked text determines the unmasked text
-/

namespace InputMask

/-- The literals of a token, those of a group included. -/
def Token.literals : Token → List Char
  | literal c => [c]
  | placeholder _ => []
  | group items => items.filterMap fun
    | .literal c => some c
    | .placeholder _ => none

/-- No literal is an ASCII letter or digit. -/
def LiteralsAreNoise (tokens : List Token) : Prop :=
  ∀ c ∈ tokens.flatMap Token.literals, isAlphanumeric c = false

instance (tokens : List Token) : Decidable (LiteralsAreNoise tokens) :=
  List.decidableBAll (isAlphanumeric · = false) (tokens.flatMap Token.literals)

theorem Token.mem_literals_group {c : Char} {items : List Slot} :
    c ∈ (group items).literals ↔ .literal c ∈ items := by
  rw [literals, List.mem_filterMap]
  constructor
  · rintro ⟨item, member, literal⟩
    cases item with
    | literal d => simpa [← Option.some.inj literal] using member
    | placeholder k => cases literal
  · exact fun member => ⟨_, member, rfl⟩

/-- Whether the character of a cell is kept by cleaning says whether it was taken. -/
def Cell.Plain : Cell → Prop
  | literal c => isAlphanumeric c = false
  | taken c => isAlphanumeric c = true

/-- Where cleaning tells cells apart, it gives the characters taken. -/
theorem clean_map_char {cells : List Cell} (plain : ∀ cell ∈ cells, cell.Plain) :
    clean (cells.map Cell.char) = cells.filterMap Cell.taken? := by
  induction cells with
  | nil => rfl
  | cons cell cells ih =>
    have behind := ih fun c member => plain c (by simp [member])
    have here := plain cell (by simp)
    rw [clean] at behind ⊢
    cases cell with
    | literal c =>
      rw [Cell.Plain] at here
      simp [List.filterMap_cons, here, behind]
    | taken c =>
      rw [Cell.Plain] at here
      simp [here, behind]

/-- A cell of a group is one of its literals or a character taken. -/
theorem mem_cellsOf {cell : Cell} {items : List Slot} {chars : List Char}
    (member : cell ∈ cellsOf items chars) :
    (∃ c, cell = .literal c ∧ .literal c ∈ items) ∨ ∃ x ∈ chars, cell = .taken x := by
  induction items generalizing chars with
  | nil => simp at member
  | cons item items ih =>
    cases item with
    | literal c =>
      obtain rfl | member := List.mem_cons.mp member
      · exact Or.inl ⟨c, rfl, by simp⟩
      · obtain ⟨d, rfl, among⟩ | among := ih member
        · exact Or.inl ⟨d, rfl, by simp [among]⟩
        · exact Or.inr among
    | placeholder k =>
      cases chars with
      | nil => simp [cellsOf] at member
      | cons x chars =>
        obtain rfl | member := List.mem_cons.mp member
        · exact Or.inr ⟨x, by simp, rfl⟩
        · obtain ⟨d, rfl, among⟩ | ⟨y, among, rfl⟩ := ih member
          · exact Or.inl ⟨d, rfl, by simp [among]⟩
          · exact Or.inr ⟨y, by simp [among], rfl⟩

/-- Tokens further on have no other literals. -/
theorem LiteralsAreNoise.of_move {p q : Position} {steps : List Step}
    (noise : LiteralsAreNoise p.tokens) (move : Move p steps q) : LiteralsAreNoise q.tokens := by
  intro c among
  obtain ⟨token, ahead, among⟩ := List.mem_flatMap.mp among
  exact noise c (List.mem_flatMap.mpr ⟨token, move.tokens_suffix.subset ahead, among⟩)

section Cells

variable {p q : Position} {steps : List Step} {tokens : List Token} {raw : List Char}
  {step : Step} {cell : Cell}

/-- Literals are noise, and a placeholder accepts only what cleaning keeps. -/
theorem Move.plain (move : Move p steps q) (noise : LiteralsAreNoise p.tokens)
    (made : step ∈ steps) (member : cell ∈ step.cells) : cell.Plain := by
  cases move with
  | literal =>
    obtain rfl := List.mem_singleton.mp made
    obtain rfl := List.mem_singleton.mp member
    exact noise _ (by simp [Token.literals])
  | take accepted =>
    obtain rfl := List.mem_singleton.mp made
    obtain rfl := List.mem_singleton.mp member
    exact CharClass.isAlphanumeric_of_accepts accepted
  | commit filled =>
    obtain rfl := List.mem_singleton.mp made
    obtain ⟨picked, -, rfl, suits, -, -⟩ := fill?_eq_some_iff.mp filled
    obtain ⟨c, rfl, among⟩ | ⟨x, among, rfl⟩ := mem_cellsOf member
    · refine noise c (List.mem_flatMap.mpr ⟨_, List.mem_cons_self, ?_⟩)
      exact Token.mem_literals_group.mpr among
    · obtain ⟨k, -, accepted⟩ := exists_accepts_of_mem suits among
      exact CharClass.isAlphanumeric_of_accepts accepted
  | drop rejected => cases made
  | skip refused => cases made

theorem Walk.plain (walk : Walk p steps q) (noise : LiteralsAreNoise p.tokens)
    (made : step ∈ steps) (member : cell ∈ step.cells) : cell.Plain := by
  induction walk with
  | refl => cases made
  | head move _ ih =>
    obtain made | made := List.mem_append.mp made
    · exact move.plain noise made member
    · exact ih (noise.of_move move) made

/-- On a template whose literals are noise, cleaning tells the cells written apart. -/
theorem plain_of_mem_cells_align (noise : LiteralsAreNoise tokens)
    (written : cell ∈ (align tokens raw).flatMap Step.cells) : cell.Plain := by
  obtain ⟨q, -, walk⟩ := exists_walk_to_end ⟨tokens, raw⟩
  obtain ⟨step, made, member⟩ := List.mem_flatMap.mp written
  exact walk.plain noise made member

/-- What is shown was written first. -/
theorem isPrefix_cells_shown (tokens : List Token) (steps : List Step) :
    (shown tokens steps).flatMap Step.cells <+: steps.flatMap Step.cells := by
  unfold shown
  split
  · exact List.nil_prefix
  · exact List.prefix_refl _

/-- Cleaning the masked text gives back the unmasked text. -/
theorem clean_masked_applyTokens (noise : LiteralsAreNoise tokens) :
    clean (applyTokens tokens raw).masked = (applyTokens tokens raw).unmasked := by
  refine clean_map_char fun cell among => ?_
  exact plain_of_mem_cells_align noise ((isPrefix_cells_shown tokens _).subset among)

end Cells

end InputMask
