import InputMask.Proofs.Walk

/-!
# What a committed group leaves

A group that takes characters leaves at least as many as there are mandatory placeholders
behind it. A raw text that is no longer than the mandatory placeholders need has nothing to
spare: no group with a placeholder is ever committed on it.
-/

namespace InputMask

variable {p q : Position} {steps : List Step} {items : List Slot} {cells : List Cell}
  {tokens : List Token} {before after : List Char}

/-- The raw text cannot do more than fill the mandatory placeholders that are left. -/
def Position.Tight (p : Position) : Prop :=
  p.raw.length ≤ Template.mandatory p.tokens

/-- A mandatory placeholder is only passed together with a raw character. -/
theorem Move.tight (move : Move p steps q) (tight : p.Tight) : q.Tight := by
  -- only `take` lowers the number of mandatory placeholders, and it takes a character with it
  have shorter := move.raw_suffix.length_le
  rw [Position.Tight] at tight ⊢
  cases move with
  | take accepted => simpa using tight
  | drop rejected => exact Nat.le_trans shorter tight
  | _ => exact Nat.le_trans shorter (by simpa using tight)

/-- A walk that starts with nothing to spare never has any. -/
theorem Walk.tight (walk : Walk p steps q) (tight : p.Tight) : q.Tight := by
  induction walk with
  | refl => exact tight
  | head move _ ih => exact ih (move.tight tight)

/-- A group that takes a character leaves enough for the mandatory placeholders behind it. -/
theorem Move.mandatory_le_length
    (committed : Move ⟨.group items :: tokens, before⟩ [.group cells] ⟨tokens, after⟩)
    (consumed : after.length < before.length) : Template.mandatory tokens ≤ after.length := by
  cases committed with
  | commit filled =>
    obtain ⟨picked, taken, -, -, spared, -⟩ := fill?_eq_some_iff.mp filled
    have some_picked : picked ≠ [] := by
      intro none
      simp [taken, none] at consumed
    exact spared some_picked

/-- A group with a placeholder takes a character. -/
theorem Move.length_lt_of_placeholder {k : CharClass}
    (committed : Move ⟨.group items :: tokens, before⟩ [.group cells] ⟨tokens, after⟩)
    (asks : .placeholder k ∈ items) : after.length < before.length := by
  cases committed with
  | commit filled =>
    obtain ⟨picked, taken, -, suits, -, -⟩ := fill?_eq_some_iff.mp filled
    have some_class := List.length_pos_of_mem (mem_slotClasses.mpr asks)
    rw [suits.length_eq] at some_class
    rw [taken, List.length_append]
    omega

/-- On a tight position no group with a placeholder is committed. -/
theorem Move.not_placeholder_of_tight
    (committed : Move ⟨.group items :: tokens, before⟩ [.group cells] ⟨tokens, after⟩)
    (tight : Position.Tight ⟨.group items :: tokens, before⟩) (k : CharClass) :
    .placeholder k ∉ items := by
  intro asks
  have consumed := committed.length_lt_of_placeholder asks
  have spared := committed.mandatory_le_length consumed
  rw [Position.Tight, mandatory_group] at tight
  have short : after.length < Template.mandatory tokens := Nat.lt_of_lt_of_le consumed tight
  exact absurd short (Nat.not_lt.mpr spared)

/-- Each group step of the alignment of a template is that of a group which the walk comes to. If
the group takes a character, then what it leaves is enough for the mandatory placeholders behind
it, and on a raw text no longer than the least length of the template it has no placeholder. So it
is wherever the walk commits a group. -/
theorem committed_group_spares_mandatory (text raw : List Char) :
    (∀ front cells back,
      align (Template.ofText text).tokens raw = front ++ .group cells :: back →
        ∃ items tokens before after,
          Walk ⟨(Template.ofText text).tokens, raw⟩ front ⟨.group items :: tokens, before⟩ ∧
          fill? (Template.mandatory tokens) items before = some (cells, after) ∧
          before = cells.filterMap Cell.taken? ++ after ∧ back = align tokens after ∧
          (cells.filterMap Cell.taken? ≠ [] → Template.mandatory tokens ≤ after.length) ∧
          (raw.length ≤ (Template.ofText text).minLength → ∀ k, .placeholder k ∉ items)) ∧
    ∀ steps items tokens before cells after,
      Walk ⟨(Template.ofText text).tokens, raw⟩ steps ⟨.group items :: tokens, before⟩ →
      Move ⟨.group items :: tokens, before⟩ [.group cells] ⟨tokens, after⟩ →
        align (Template.ofText text).tokens raw = steps ++ .group cells :: align tokens after ∧
        (after.length < before.length → Template.mandatory tokens ≤ after.length) ∧
        (raw.length ≤ (Template.ofText text).minLength → ∀ k, .placeholder k ∉ items) := by
  have tight {steps items tokens before cells after}
      (reached : Walk ⟨(Template.ofText text).tokens, raw⟩ steps ⟨.group items :: tokens, before⟩)
      (committed : Move ⟨.group items :: tokens, before⟩ [.group cells] ⟨tokens, after⟩)
      (short : raw.length ≤ (Template.ofText text).minLength) (k : CharClass) :
      .placeholder k ∉ items := by
    rw [minLength_ofText] at short
    exact committed.not_placeholder_of_tight (reached.tight short) k
  constructor
  · intro front cells back written
    obtain ⟨items, tokens, before, after, reached, committed, filled, rest⟩ :=
      exists_fill?_of_align written
    have taken := eq_append_of_fill? filled
    refine ⟨items, tokens, before, after, reached, filled, taken, rest, fun some_taken => ?_,
      tight reached committed⟩
    apply committed.mandatory_le_length
    rw [taken, List.length_append]
    exact Nat.lt_add_of_pos_left (List.length_pos_of_ne_nil some_taken)
  · intro steps items tokens before cells after reached committed
    refine ⟨?_, committed.mandatory_le_length, tight reached committed⟩
    simpa using (reached.snoc committed).align_eq

/-- Of three digits the group in `[9]9-9` takes the first, and it leaves the two that the
placeholders behind it need. -/
theorem committed_group_spares_two :
    let template := Template.ofText "[9]9-9".toList
    let behind : List Token := [.placeholder .digit, .literal '-', .placeholder .digit]
    align template.tokens "123".toList =
        [] ++ .group [.taken '1'] :: [.taken '2', .literal '-', .taken '3'] ∧
      (∃ items tokens before after,
        Walk ⟨template.tokens, "123".toList⟩ [] ⟨.group items :: tokens, before⟩ ∧
        fill? (Template.mandatory tokens) items before = some ([.taken '1'], after) ∧
        before = ['1'] ++ after ∧
        [.taken '2', .literal '-', .taken '3'] = align tokens after ∧
        Template.mandatory tokens ≤ after.length) ∧
      align template.tokens "123".toList =
        [] ++ .group [.taken '1'] :: align behind "23".toList ∧
      ("23".toList.length < "123".toList.length →
        Template.mandatory behind ≤ "23".toList.length) ∧
      ("123".toList.length ≤ template.minLength →
        ∀ k, .placeholder k ∉ [Slot.placeholder .digit]) := by
  intro template behind
  have read : template.tokens = .group [.placeholder .digit] :: behind := by decide +kernel
  have written : align template.tokens "123".toList =
      [] ++ .group [.taken '1'] :: [.taken '2', .literal '-', .taken '3'] := by
    decide +kernel
  obtain ⟨ofSteps, ofMoves⟩ := committed_group_spares_mandatory "[9]9-9".toList "123".toList
  obtain ⟨items, tokens, before, after, reached, filled, taken, rest, spared, -⟩ :=
    ofSteps [] _ _ written
  refine ⟨written, ⟨items, tokens, before, after, reached, filled, taken, rest, spared nofun⟩, ?_⟩
  exact ofMoves [] [.placeholder .digit] behind _ _ _ (read ▸ .refl _) (.commit (by decide))

end InputMask
