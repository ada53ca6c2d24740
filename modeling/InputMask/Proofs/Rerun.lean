import InputMask.Proofs.Snug

/-!
# Running again on what was taken

A text of which a template refuses no character is taken from its front, and what stands behind
the characters taken only matters to the groups, which count what is left. A template that ends
in a mandatory placeholder makes the same steps on the characters taken alone: a group that was
written is still followed by all it needs, and one that was refused for want of characters has
not got more of them.

If in addition no group has more than one placeholder, a group is refused only where the rest
goes to mandatory placeholders anyway, so as many characters are taken as there are placeholders.

## Main definitions

* `EndsInPlaceholder`: the last token is a mandatory placeholder
* `GroupsAreSingle`: no group has more than one placeholder

## Main results

* `Move.on_prefix`: a move can be made on less text, if that is enough for the tokens behind it
* `Walk.on_taken`: a walk can be made on what it takes
* `align_takenBy`: running on what was taken makes the same steps
* `takenBy_align_eq_take`: with such groups, what is taken is cut off at the number of
  placeholders
-/

namespace InputMask

/-- The last token, if there is any, is a mandatory placeholder. -/
def EndsInPlaceholder (tokens : List Token) : Prop :=
  ∀ token ∈ tokens.getLast?, token.isPlaceholder = true

instance (tokens : List Token) : Decidable (EndsInPlaceholder tokens) :=
  inferInstanceAs (Decidable (∀ token ∈ tokens.getLast?, token.isPlaceholder = true))

/-- No group has more than one placeholder. -/
def GroupsAreSingle (tokens : List Token) : Prop :=
  ∀ token ∈ tokens, token.groupClasses.length ≤ 1

instance (tokens : List Token) : Decidable (GroupsAreSingle tokens) :=
  inferInstanceAs (Decidable (∀ token ∈ tokens, token.groupClasses.length ≤ 1))

section Tokens

variable {p q : Position} {steps : List Step} {token : Token} {tokens : List Token}

theorem EndsInPlaceholder.tail (ends : EndsInPlaceholder (token :: tokens)) :
    EndsInPlaceholder tokens := by
  cases tokens with
  | nil => nofun
  | cons next tokens => exact fun last member => ends last (by simpa using member)

/-- Behind any other token a mandatory placeholder is left. -/
theorem EndsInPlaceholder.mandatory_pos (ends : EndsInPlaceholder (token :: tokens))
    (other : token.isPlaceholder = false) : 0 < Template.mandatory tokens := by
  cases tokens with
  | nil => simp [ends token rfl] at other
  | cons next tokens =>
    refine List.countP_pos_iff.mpr ⟨(next :: tokens).getLast (by simp), List.getLast_mem _, ?_⟩
    exact ends.tail _ (List.getLast?_eq_some_getLast _)

theorem EndsInPlaceholder.of_move (ends : EndsInPlaceholder p.tokens) (move : Move p steps q) :
    EndsInPlaceholder q.tokens := by
  cases move with
  | drop rejected => exact ends
  | _ => exact ends.tail

theorem GroupsAreSingle.of_move (single : GroupsAreSingle p.tokens) (move : Move p steps q) :
    GroupsAreSingle q.tokens :=
  fun token member => single token (move.tokens_suffix.subset member)

/-- Each mandatory placeholder that is filled has taken a character. -/
theorem countP_isTaken_le_length_takenBy (steps : List Step) :
    steps.countP Step.isTaken ≤ (takenBy steps).length := by
  induction steps with
  | nil => simp
  | cons step steps ih =>
    rw [← List.singleton_append, takenBy_append, List.length_append, List.countP_append]
    refine Nat.add_le_add ?_ ih
    cases step <;> simp [Step.isTaken]

end Tokens

section Rerun

variable {p q : Position} {steps : List Step} {tokens : List Token} {items : List Slot}
  {raw text : List Char} {ahead : Nat}

/-- Where no character is refused, what is taken stands in front. -/
theorem Walk.raw_eq (walk : Walk p steps q) (accepting : p.Accepting) :
    p.raw = takenBy steps ++ q.raw := by
  induction walk with
  | refl => rfl
  | head move _ ih =>
    rw [move.raw_eq accepting, ih (accepting.of_move move), takenBy_append, List.append_assoc]

/-- A group that is refused for want of characters is refused in a shorter text too. -/
theorem fill?_eq_none_of_prefix
    (accepting : ∀ k ∈ slotClasses items, ∀ c ∈ raw, k.accepts c = true)
    (refused : fill? ahead items raw = none) (less : text <+: raw) :
    fill? ahead items text = none := by
  rw [← Option.not_isSome_iff_eq_none] at refused ⊢
  rw [fill?_isSome_iff_of_accepting accepting] at refused
  rw [fill?_isSome_iff_of_accepting fun k member c among =>
    accepting k member c (less.subset among)]
  rintro ⟨enough, ends⟩
  exact refused ⟨fun some_class => (enough some_class).trans less.length_le,
    fun c last => Nat.lt_of_lt_of_le (ends c last) less.length_le⟩

/-- A move is also made on less text, if what is left of it is enough for the mandatory
placeholders behind. -/
theorem Move.on_prefix (move : Move p steps q) (accepting : p.Accepting)
    (ends : EndsInPlaceholder p.tokens) (less : text <+: q.raw)
    (enough : Template.mandatory q.tokens ≤ text.length) :
    Move ⟨p.tokens, takenBy steps ++ text⟩ steps ⟨q.tokens, text⟩ := by
  -- literals and groups need a character to be left, which the placeholder at the end sees to
  have left (some_needed : 0 < Template.mandatory q.tokens) : text ≠ [] :=
    List.ne_nil_of_length_pos (Nat.lt_of_lt_of_le some_needed enough)
  cases move with
  | literal => exact .literal_of_ne_nil (left (ends.mandatory_pos rfl))
  | take accepted => exact .take accepted
  | drop rejected =>
    have accepted := accepting _ List.mem_cons_self _ List.mem_cons_self
    simp [rejected] at accepted
  | commit filled =>
    have some_left := left (ends.mandatory_pos rfl)
    obtain ⟨picked, -, rfl, suits, -, -⟩ := fill?_eq_some_iff.mp filled
    rw [takenBy_group, filterMap_taken?_cellsOf suits.length_eq]
    refine .commit_of_fill? (fill?_eq_some_iff.mpr ?_) (by simp [some_left])
    exact ⟨picked, rfl, rfl, suits, fun _ => enough, fun _ _ => some_left⟩
  | skip refused =>
    have refused' := fill?_eq_none_of_prefix accepting.group refused less
    obtain ⟨x, text, rfl⟩ := List.exists_cons_of_ne_nil (left (ends.mandatory_pos rfl))
    exact .skip refused'

/-- A walk that passes all tokens makes the same steps on what it takes. -/
theorem Walk.on_taken (walk : Walk p steps q) (accepting : p.Accepting)
    (ends : EndsInPlaceholder p.tokens) (passed : q.tokens = []) :
    Walk ⟨p.tokens, takenBy steps⟩ steps ⟨[], []⟩ := by
  induction walk with
  | refl p => exact passed ▸ .refl _
  | @head p m q steps behind move walk ih =>
    have needed := walk.mandatory_eq
    rw [passed, mandatory_nil, Nat.add_zero] at needed
    have enough : Template.mandatory m.tokens ≤ (takenBy behind).length :=
      needed ▸ countP_isTaken_le_length_takenBy behind
    have taken : takenBy behind <+: m.raw :=
      ⟨q.raw, (walk.raw_eq (accepting.of_move move)).symm⟩
    rw [takenBy_append]
    exact .head (move.on_prefix accepting ends taken enough)
      (ih (accepting.of_move move) (ends.of_move move) passed)

/-- Running again on the characters that were taken makes the same steps. -/
theorem align_takenBy (accepting : Position.Accepting ⟨tokens, raw⟩)
    (ends : EndsInPlaceholder tokens) :
    align tokens (takenBy (align tokens raw)) = align tokens raw := by
  obtain ⟨q, ended, walk⟩ := exists_walk_to_end ⟨tokens, raw⟩
  obtain passed | used : q.tokens = [] ∨ q.raw = [] := ended
  · simpa [align] using (walk.on_taken accepting ends passed).align_eq
  · have whole := walk.raw_eq accepting
    rw [used, List.append_nil] at whole
    rw [← whole]

/-! ### Groups with at most one placeholder -/

/-- A group with one placeholder is refused only if the mandatory placeholders behind it need all
that is left. -/
theorem length_le_of_refused (accepting : ∀ k ∈ slotClasses items, ∀ c ∈ raw, k.accepts c = true)
    (one : (slotClasses items).length = 1) (needed : 0 < ahead)
    (refused : fill? ahead items raw = none) : raw.length ≤ ahead := by
  rw [← Option.not_isSome_iff_eq_none, fill?_isSome_iff_of_accepting accepting, one] at refused
  by_contra more
  exact refused ⟨fun _ => by omega, fun _ _ => by omega⟩

/-- Each move takes as many characters as the raw text or the placeholders become fewer,
whichever are fewer. -/
theorem Move.min_length (move : Move p steps q) (accepting : p.Accepting)
    (ends : EndsInPlaceholder p.tokens) (single : GroupsAreSingle p.tokens) :
    min p.raw.length (placeholders p.tokens).length =
      (takenBy steps).length + min q.raw.length (placeholders q.tokens).length := by
  have raw := congrArg List.length (move.raw_eq accepting)
  rw [List.length_append] at raw
  rw [raw]
  cases move with
  | literal => simp
  | take accepted =>
    simp only [takenBy_taken, placeholders_placeholder, List.length_cons, List.length_nil]
    omega
  | drop rejected =>
    have accepted := accepting _ List.mem_cons_self _ List.mem_cons_self
    simp [rejected] at accepted
  | commit filled =>
    obtain ⟨picked, -, rfl, suits, -, -⟩ := fill?_eq_some_iff.mp filled
    have size := suits.length_eq
    simp only [takenBy_group, filterMap_taken?_cellsOf size, placeholders_group,
      List.length_append, size]
    omega
  | @skip items x tokens left refused =>
    have few : (slotClasses items).length ≤ 1 := single _ List.mem_cons_self
    simp only [takenBy_nil, placeholders_group, List.length_append, List.length_nil]
    by_cases one : (slotClasses items).length = 1
    · have short := length_le_of_refused accepting.group one (ends.mandatory_pos rfl) refused
      have counted := mandatory_le_length_placeholders tokens
      omega
    · omega

theorem Walk.min_length (walk : Walk p steps q) (accepting : p.Accepting)
    (ends : EndsInPlaceholder p.tokens) (single : GroupsAreSingle p.tokens) :
    min p.raw.length (placeholders p.tokens).length =
      (takenBy steps).length + min q.raw.length (placeholders q.tokens).length := by
  induction walk with
  | refl => simp
  | head move _ ih =>
    rw [move.min_length accepting ends single, takenBy_append, List.length_append, Nat.add_assoc,
      ih (accepting.of_move move) (ends.of_move move) (single.of_move move)]

/-- As many characters are taken from the front as there are placeholders. -/
theorem takenBy_align_eq_take (accepting : Position.Accepting ⟨tokens, raw⟩)
    (ends : EndsInPlaceholder tokens) (single : GroupsAreSingle tokens) :
    takenBy (align tokens raw) = raw.take (placeholders tokens).length := by
  obtain ⟨q, ended, walk⟩ := exists_walk_to_end ⟨tokens, raw⟩
  have count := walk.min_length accepting ends single
  have none_left : min q.raw.length (placeholders q.tokens).length = 0 := by
    obtain passed | used : q.tokens = [] ∨ q.raw = [] := ended
    · simp [passed]
    · simp [used]
  have front : takenBy (align tokens raw) <+: raw := ⟨q.raw, (walk.raw_eq accepting).symm⟩
  rw [none_left, Nat.add_zero] at count
  rw [List.prefix_iff_eq_take.mp front, ← count, List.take_eq_take_iff]
  simp only
  omega

end Rerun

end InputMask
