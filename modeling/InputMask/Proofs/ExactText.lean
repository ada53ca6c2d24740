import InputMask.Proofs.Admission
import InputMask.Proofs.CountGuard

/-!
# Raw text of the exact length

A raw text that has one suitable character for each placeholder, those of groups included, is taken
whole: at each group there are enough characters for it and for all that follows, so every group is
emitted, and everything is written out up to the last placeholder. What follows is left out, as no
raw character reaches it. Only a literal behind the last placeholder inside a group is out of reach
and takes the group with it.

A raw text that has a suitable character for each mandatory placeholder and no more has nothing to
spare for a group with placeholders. Such groups are skipped as if they were not there, and what is
left of the template is the case above.

## Main definitions

* `throughLast`: the tokens up to the last one that holds a placeholder
* `withoutOptional`: the tokens without the groups that hold a placeholder
* `Output.filled`: tokens written out with given characters

## Main results

* `IsAlignment.passes_throughLast`: which tokens are passed, and that none of them is skipped
* `Walk.drop_optional`: with nothing to spare, groups with placeholders might as well not be there
* `exact_text_taken_whole`: both cases for a template
-/

namespace InputMask

open Template (mandatory)

/-- What a token asks to be written. -/
def Token.slots : Token → List Slot
  | literal c => [.literal c]
  | placeholder k => [.placeholder k]
  | group items => items

/-- The tokens up to the last one that holds a placeholder; none if there is no placeholder. -/
def throughLast : List Token → List Token
  | [] => []
  | token :: tokens =>
    if placeholders (token :: tokens) = [] then [] else token :: throughLast tokens

/-- The tokens without the groups that hold a placeholder. -/
def withoutOptional (tokens : List Token) : List Token :=
  tokens.filter (·.groupClasses.isEmpty)

/-- Tokens written out with the given characters in the place of their placeholders. -/
def Output.filled (tokens : List Token) (chars : List Char) : Output :=
  ⟨(cellsOf (tokens.flatMap Token.slots) chars).map Cell.char, chars⟩

section Tokens

variable {token : Token} {tokens : List Token} {items others : List Slot}

theorem throughLast_of_placeholders_eq_nil (none : placeholders tokens = []) :
    throughLast tokens = [] := by
  cases tokens with
  | nil => rfl
  | cons token tokens => exact if_pos none

theorem throughLast_cons (held : placeholders (token :: tokens) ≠ []) :
    throughLast (token :: tokens) = token :: throughLast tokens :=
  if_neg held

theorem slotClasses_slots (token : Token) : slotClasses token.slots = token.placeholders := by
  cases token <;> rfl

/-- What is written up to the last placeholder holds all placeholders. -/
theorem slotClasses_throughLast (tokens : List Token) :
    slotClasses ((throughLast tokens).flatMap Token.slots) = placeholders tokens := by
  induction tokens with
  | nil => rfl
  | cons token tokens ih =>
    by_cases held : placeholders (token :: tokens) = []
    · rw [throughLast_of_placeholders_eq_nil held, held]
      rfl
    · rw [throughLast_cons held, List.flatMap_cons, slotClasses_append, slotClasses_slots, ih,
        placeholders_cons]

theorem endsInLiteral_append_iff :
    EndsInLiteral (items ++ others) ↔ EndsInLiteral others ∨ others = [] ∧ EndsInLiteral items := by
  rcases List.eq_nil_or_concat others with rfl | ⟨front, last, rfl⟩
  · simp [EndsInLiteral]
  · simp [EndsInLiteral, List.getLast?_append]

end Tokens

/-! ### A character for each placeholder -/

section Whole

variable {raw : List Char} {start next : Nat} {items : List Slot} {tokens others : List Token}
  {passages : List Passage}

/-- With a suitable character for each placeholder that is left, a group fits, unless it is the last
to have one and ends in a literal. -/
theorem fits_of_suits
    (suits : List.Forall₂ (fun k x => k.accepts x = true)
      (slotClasses items ++ placeholders others) (raw.drop next))
    (bare : EndsInLiteral items → placeholders others ≠ []) :
    Fits raw (mandatory others) next items := by
  have count := suits.length_eq
  rw [List.length_append] at count
  have cut := List.take_append_drop (slotClasses items).length (raw.drop next)
  have first : ((raw.drop next).take (slotClasses items).length).length =
      (slotClasses items).length := List.length_take_of_le (by omega)
  rw [← cut] at suits
  have own := List.forall₂_take_append _ _ _ suits
  rw [first, List.take_left] at own
  have enough := mandatory_le_length_placeholders others
  have rest : ((raw.drop next).drop (slotClasses items).length).length =
      (placeholders others).length := by
    rw [List.length_drop]
    omega
  refine fits_iff_isSome_fill?_drop.mpr (Option.isSome_of_eq_some (fill?_eq_some_iff.mpr
    ⟨_, cut.symm, rfl, own, fun _ => by omega, fun c last none => ?_⟩))
  rw [none, List.length_nil] at rest
  exact bare ⟨c, last⟩ (List.length_eq_zero_iff.mp rest.symm)

/-- A group that is left is not skipped. -/
theorem Passage.Sound.isSkipped_eq_false {passage : Passage}
    (sound : passage.Sound raw (mandatory others) next)
    (suits : List.Forall₂ (fun k x => k.accepts x = true)
      (passage.token.placeholders ++ placeholders others) (raw.drop next))
    (bare : EndsInLiteral passage.token.slots → placeholders others ≠ []) :
    passage.isSkipped = false := by
  cases passage with
  | skipped items => exact absurd (fits_of_suits suits bare) sound
  | _ => rfl

/-- What is not skipped takes a character for each of its placeholders. -/
theorem Passage.Sound.length_picks_eq {passage : Passage} {ahead : Nat}
    (sound : passage.Sound raw ahead next) (made : passage.isSkipped = false) :
    passage.picks.length = passage.token.placeholders.length := by
  have size := sound.length_picks
  cases passage with
  | skipped items => cases made
  | emitted items picks =>
    simpa [Passage.token, Token.minWidth, Passage.spent, Token.placeholders] using size
  | _ => rfl

theorem Passage.slots_eq {passage : Passage} (made : passage.isSkipped = false) :
    passage.slots = passage.token.slots := by
  cases passage with
  | skipped items => cases made
  | _ => rfl

/-- With a suitable character for each placeholder, all tokens are passed up to the last one that
holds a placeholder, none of them is skipped, and all characters are taken. -/
theorem IsAlignment.passes_throughLast (aligned : IsAlignment raw start tokens passages)
    (suits : List.Forall₂ (fun k x => k.accepts x = true) (placeholders tokens) (raw.drop start))
    (bare : ¬ EndsInLiteral ((throughLast tokens).flatMap Token.slots)) :
    passages.map Passage.token = throughLast tokens ∧
      (∀ passage ∈ passages, passage.isSkipped = false) ∧
        (passages.flatMap Passage.picks).map Pick.char = raw.drop start := by
  induction aligned using IsAlignment.induction with
  | stop start tokens stuck =>
    have used : raw.drop start = [] := by
      cases tokens with
      | nil => exact List.forall₂_nil_left_iff.mp suits
      | cons token tokens =>
        rcases stuck with past | ⟨k, rfl, rejected⟩
        · exact List.drop_eq_nil_of_le past
        · obtain ⟨x, rest, accepted, -, left⟩ := List.forall₂_cons_left_iff.mp suits
          have refused := rejected start x le_rfl (getElem?_of_drop_eq_cons left).1
          rw [accepted] at refused
          cases refused
    rw [used, List.forall₂_nil_right_iff] at suits
    rw [throughLast_of_placeholders_eq_nil suits, used]
    exact ⟨rfl, by simp, rfl⟩
  | pass start passage tokens passages left sound aligned ih =>
    have held : placeholders (passage.token :: tokens) ≠ [] := by
      intro none
      rw [none, List.forall₂_nil_left_iff, List.drop_eq_nil_iff] at suits
      omega
    rw [throughLast_cons held, List.flatMap_cons, endsInLiteral_append_iff, not_or] at bare
    have gapless : Gapless raw start passage.picks := by
      apply sound.gapless
      intro k c same here
      rw [same] at suits
      obtain ⟨x, rest, accepted, -, first⟩ := List.forall₂_cons_left_iff.mp suits
      obtain rfl := Option.some.inj (here.symm.trans (getElem?_of_drop_eq_cons first).1)
      exact accepted
    rw [placeholders_cons] at suits
    have made : passage.isSkipped = false := by
      refine sound.isSkipped_eq_false suits fun ends none => bare.2 ⟨?_, ends⟩
      rw [throughLast_of_placeholders_eq_nil none, List.flatMap_nil]
    have whole := gapless.drop_eq
    rw [whole] at suits
    have behind := List.forall₂_drop_append _ _ _ suits
    rw [List.length_map, sound.length_picks_eq made, List.drop_left] at behind
    obtain ⟨tokens_eq, all_made, chars⟩ := ih behind bare.1
    rw [throughLast_cons held, whole, List.flatMap_cons, List.map_append, chars, List.map_cons,
      tokens_eq]
    exact ⟨rfl, List.forall_mem_cons.mpr ⟨made, all_made⟩, rfl⟩

/-- A raw text with a suitable character for each placeholder is taken whole, and everything is
written out up to the last placeholder. -/
theorem applyTokens_of_suits
    (suits : List.Forall₂ (fun k x => k.accepts x = true) (placeholders tokens) raw)
    (bare : ¬ EndsInLiteral ((throughLast tokens).flatMap Token.slots)) :
    applyTokens tokens raw = .filled (throughLast tokens) raw := by
  obtain ⟨passages, aligned, -⟩ := exists_isAlignment raw 0 tokens
  obtain ⟨tokens_eq, made, chars⟩ := aligned.passes_throughLast suits bare
  rw [List.drop_zero] at chars
  have slots : passages.flatMap Passage.slots = (throughLast tokens).flatMap Token.slots := by
    rw [← tokens_eq, List.flatMap_map]
    exact List.flatMap_congr fun passage member => Passage.slots_eq (made passage member)
  have shown : loneLiteral passages = false := by
    rw [← Bool.not_eq_true]
    intro alone
    rw [picks_eq_nil_of_loneLiteral alone, List.map_nil] at chars
    rw [← chars, List.forall₂_nil_right_iff] at suits
    rw [throughLast_of_placeholders_eq_nil suits, List.map_eq_nil_iff] at tokens_eq
    rw [tokens_eq] at alone
    cases alone
  rw [aligned.applyTokens_eq, written, shown, slots, chars]
  rfl

end Whole

/-! ### A character for each mandatory placeholder -/

section Mandatory

variable {p q : Position} {steps : List Step} {tokens : List Token} {raw : List Char}

theorem groupsAreFixed_withoutOptional (tokens : List Token) :
    GroupsAreFixed (withoutOptional tokens) := by
  intro token member
  simpa using (List.mem_filter.mp member).2

theorem withoutOptional_cons_of_fixed {token : Token} (fixed : token.groupClasses = []) :
    withoutOptional (token :: tokens) = token :: withoutOptional tokens :=
  List.filter_cons_of_pos (by simp [fixed])

theorem withoutOptional_group_of_asking {items : List Slot} (asking : slotClasses items ≠ []) :
    withoutOptional (.group items :: tokens) = withoutOptional tokens :=
  List.filter_cons_of_neg (by simpa [Token.groupClasses] using asking)

/-- Only mandatory placeholders are left. -/
theorem placeholders_withoutOptional (tokens : List Token) :
    placeholders (withoutOptional tokens) = classes tokens := by
  induction tokens with
  | nil => rfl
  | cons token tokens ih =>
    by_cases fixed : token.groupClasses = []
    · rw [withoutOptional_cons_of_fixed fixed, placeholders_cons, ih]
      cases token with
      | group items =>
        have none : slotClasses items = [] := fixed
        rw [Token.placeholders, none, classes_group, List.nil_append]
      | _ => rfl
    · cases token with
      | group items => rw [withoutOptional_group_of_asking fixed, ih, classes_group]
      | _ => exact absurd rfl fixed

/-- Where no group holds a placeholder, no literal stands behind the last one. -/
theorem GroupsAreFixed.not_endsInLiteral (fixed : GroupsAreFixed tokens) :
    ¬ EndsInLiteral ((throughLast tokens).flatMap Token.slots) := by
  induction tokens with
  | nil => simp [throughLast, EndsInLiteral]
  | cons token tokens ih =>
    have behind := ih fun t member => fixed t (List.mem_cons_of_mem _ member)
    by_cases held : placeholders (token :: tokens) = []
    · simp [throughLast_of_placeholders_eq_nil held, EndsInLiteral]
    · rw [throughLast_cons held, List.flatMap_cons, endsInLiteral_append_iff]
      rintro (ends | ⟨last, ends⟩)
      · exact behind ends
      · have none := slotClasses_throughLast tokens
        rw [last, slotClasses_nil] at none
        rw [placeholders_cons, ← none, List.append_nil] at held
        cases token with
        | placeholder k => simp [Token.slots, EndsInLiteral] at ends
        | literal c => exact held rfl
        | group items => exact held (fixed _ List.mem_cons_self)

/-- With nothing to spare, a move is made without the groups that hold a placeholder, or it is the
skipping of such a group and needs not be made. -/
theorem Move.drop_optional (move : Move p steps q) (tight : p.Tight) :
    Walk ⟨withoutOptional p.tokens, p.raw⟩ steps ⟨withoutOptional q.tokens, q.raw⟩ := by
  cases move with
  | literal => exact .single .literal
  | take accepted => exact .single (.take accepted)
  | drop rejected => exact .single (.drop rejected)
  | @commit items cells x tokens raw rest filled =>
    have fixed : slotClasses items = [] := by
      by_contra asking
      obtain ⟨k, among⟩ := List.exists_mem_of_ne_nil _ asking
      exact (Move.commit filled).not_placeholder_of_tight tight k (mem_slotClasses.mp among)
    rw [fill?_cons_of_fixed fixed] at filled
    cases filled
    have kept : (Token.group items).groupClasses = [] := fixed
    rw [withoutOptional_cons_of_fixed kept]
    exact .single (.commit (fill?_cons_of_fixed fixed))
  | @skip items x tokens raw refused =>
    have asking : slotClasses items ≠ [] := by
      intro fixed
      rw [fill?_cons_of_fixed fixed] at refused
      cases refused
    rw [withoutOptional_group_of_asking asking]
    exact .refl _

theorem Walk.drop_optional (walk : Walk p steps q) (tight : p.Tight) :
    Walk ⟨withoutOptional p.tokens, p.raw⟩ steps ⟨withoutOptional q.tokens, q.raw⟩ := by
  induction walk with
  | refl => exact .refl _
  | head move _ ih => exact (move.drop_optional tight).trans (ih (move.tight tight))

/-- With nothing to spare, the same steps are made without the groups that hold a placeholder. -/
theorem align_withoutOptional (tight : Position.Tight ⟨tokens, raw⟩) :
    align (withoutOptional tokens) raw = align tokens raw := by
  obtain ⟨q, ended, walk⟩ := exists_walk_to_end ⟨tokens, raw⟩
  have ended' : Position.Ended ⟨withoutOptional q.tokens, q.raw⟩ := by
    rcases ended with passed | used
    · exact Or.inl (congrArg withoutOptional passed)
    · exact Or.inr used
  have same := (walk.drop_optional tight).align_eq
  simpa [ended'.align_eq] using same

/-- Steps that take a character are all shown. -/
theorem applyTokens_of_taken (taken : takenBy (align tokens raw) ≠ []) :
    applyTokens tokens raw = .ofSteps (align tokens raw) := by
  rw [applyTokens]
  congr 1
  unfold shown
  split
  next c others step alone =>
    cases raw with
    | nil => simp at alone
    | cons x raw =>
      rw [align] at alone
      obtain ⟨rfl, none⟩ := List.cons_eq_cons.mp alone
      simp [align, none] at taken
  · rfl

/-- A raw text with a suitable character for each mandatory placeholder and no more is taken whole,
and the template is written out up to the last of them, without groups that hold a placeholder. -/
theorem applyTokens_of_suits_mandatory
    (suits : List.Forall₂ (fun k x => k.accepts x = true) (classes tokens) raw) :
    applyTokens tokens raw = .filled (throughLast (withoutOptional tokens)) raw := by
  have tight : Position.Tight ⟨tokens, raw⟩ := by
    rw [Position.Tight, ← length_classes, suits.length_eq]
  have fixed := groupsAreFixed_withoutOptional tokens
  rw [← placeholders_withoutOptional] at suits
  have without := applyTokens_of_suits suits fixed.not_endsInLiteral
  by_cases none : raw = []
  · rw [none, applyTokens_nil_right] at without ⊢
    exact without
  · have taken : takenBy (align (withoutOptional tokens) raw) = raw := by
      rw [← unmasked_applyTokens, without, Output.filled]
    rw [← without, applyTokens_of_taken, applyTokens_of_taken, align_withoutOptional tight]
    · rwa [taken]
    · rwa [← align_withoutOptional tight, taken]

end Mandatory

/-- A raw text as long as the least length of a template, each character of which suits the
mandatory placeholder in the same place, is taken whole, and the mandatory placeholders, the
literals and the groups of literals are written out up to the last mandatory placeholder. If it has
one character for each placeholder, those of groups included, and each of them suits, it is taken
whole too, unless a literal stands behind the last placeholder in its group; every group up to the
last placeholder is emitted, and everything is written out up to it. Without a placeholder nothing
is written. -/
theorem exact_text_taken_whole (text raw : List Char) :
    (raw.length = (Template.ofText text).minLength →
      (∀ pair ∈ (classes (Template.ofText text).tokens).zip raw, pair.1.accepts pair.2 = true) →
      (Template.ofText text).apply raw =
          .filled (throughLast (withoutOptional (Template.ofText text).tokens)) raw ∧
        (classes (Template.ofText text).tokens = [] →
          (Template.ofText text).apply raw = Output.empty)) ∧
    (raw.length = (placeholders (Template.ofText text).tokens).length →
      (∀ pair ∈ (placeholders (Template.ofText text).tokens).zip raw,
        pair.1.accepts pair.2 = true) →
      ¬ EndsInLiteral ((throughLast (Template.ofText text).tokens).flatMap Token.slots) →
      (Template.ofText text).apply raw = .filled (throughLast (Template.ofText text).tokens) raw ∧
        (∃ passages, IsAlignment raw 0 (Template.ofText text).tokens passages ∧
          ∀ (index : Nat) (items : List Slot),
            (throughLast (Template.ofText text).tokens)[index]? = some (.group items) →
              ∃ picks, passages[index]? = some (.emitted items picks)) ∧
        (placeholders (Template.ofText text).tokens = [] →
          (Template.ofText text).apply raw = Output.empty)) := by
  refine ⟨fun size suited => ?_, fun size suited bare => ?_⟩
  · rw [minLength_ofText, ← length_classes] at size
    have suits := List.forall₂_iff_zip.mpr ⟨size.symm, fun member => suited _ member⟩
    refine ⟨applyTokens_of_suits_mandatory suits, fun none => ?_⟩
    rw [none, List.length_nil, List.length_eq_zero_iff] at size
    rw [size]
    exact applyTokens_nil_right _
  · have suits := List.forall₂_iff_zip.mpr ⟨size.symm, fun member => suited _ member⟩
    refine ⟨applyTokens_of_suits suits bare, ?_, fun none => ?_⟩
    · obtain ⟨passages, aligned, -⟩ := exists_isAlignment raw 0 (Template.ofText text).tokens
      obtain ⟨tokens_eq, made, -⟩ := aligned.passes_throughLast suits bare
      refine ⟨passages, aligned, fun index items here => ?_⟩
      -- the passage in this place passes the group, and it does not skip it
      rw [← tokens_eq, List.getElem?_map, Option.map_eq_some_iff] at here
      obtain ⟨passage, there, group⟩ := here
      have emitted := made passage (List.mem_of_getElem? there)
      cases passage with
      | emitted others picks =>
        cases group
        exact ⟨picks, there⟩
      | skipped others => cases emitted
      | _ => cases group
    · rw [none, List.length_nil, List.length_eq_zero_iff] at size
      rw [size]
      exact applyTokens_nil_right _

/-- `(A[9-]-9[.]` needs a letter and a digit, and takes one digit more if it is there. -/
theorem exact_text_taken_whole_letter_digits :
    (Template.ofText "(A[9-]-9[.]".toList).apply "x1".toList = ⟨"(x-1".toList, "x1".toList⟩ ∧
      (Template.ofText "(A[9-]-9[.]".toList).apply "x12".toList =
        ⟨"(x1--2".toList, "x12".toList⟩ ∧
      ∃ passages,
        IsAlignment "x12".toList 0 (Template.ofText "(A[9-]-9[.]".toList).tokens passages ∧
          ∃ picks, passages[2]? = some (.emitted [.placeholder .digit, .literal '-'] picks) := by
  obtain ⟨least, -⟩ := (exact_text_taken_whole "(A[9-]-9[.]".toList "x1".toList).1
    (by decide +kernel) (by decide +kernel)
  obtain ⟨most, ⟨passages, aligned, emitted⟩, -⟩ :=
    (exact_text_taken_whole "(A[9-]-9[.]".toList "x12".toList).2
      (by decide +kernel) (by decide +kernel) (by decide +kernel)
  refine ⟨least.trans (by decide +kernel), most.trans (by decide +kernel), passages, aligned, ?_⟩
  exact emitted 2 _ (by decide +kernel)

/-- A literal behind the last placeholder keeps the group `[9-]` from being emitted. -/
example : (Template.ofText "9[9-]".toList).apply "12".toList = ⟨"1".toList, "1".toList⟩ := by
  decide +kernel

end InputMask
