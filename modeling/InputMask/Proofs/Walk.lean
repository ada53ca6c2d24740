import InputMask.Proofs.Fill

/-!
# The walk over tokens and raw text

`align` gives the steps of a whole walk at once. Here the walk is a transition system: a
position holds what is left of the tokens and of the raw text, and a move passes a token or
drops a raw character, writing at most one step. What every move keeps holds all along a
walk, which is how the properties of runs are proved.

## Main definitions

* `Position`, `Move`, `Walk`: the transition system
* `Position.Ended`: tokens or raw text have run out
* `Fills`: the walk fills every mandatory placeholder

## Main results

* `Walk.align_eq`, `exists_walk_to_end`: walks to the end write exactly what `align` gives
* `Walk.exists_move`, `exists_fill?_of_align`: walks are cut at the steps that they write
* `fills_iff_passes_last`: every mandatory placeholder is filled exactly when the walk comes
  to a position behind the last one
-/

namespace InputMask

/-- Whether a step fills a mandatory placeholder. -/
def Step.isTaken : Step → Bool
  | taken _ => true
  | _ => false

/-- The walk fills every mandatory placeholder. -/
def Fills (tokens : List Token) (raw : List Char) : Prop :=
  (align tokens raw).countP Step.isTaken = Template.mandatory tokens

instance (tokens : List Token) (raw : List Char) : Decidable (Fills tokens raw) :=
  inferInstanceAs (Decidable (_ = _))

/-- What is left of the tokens and of the raw text. -/
structure Position where
  tokens : List Token
  raw : List Char

/-- The tokens or the raw text have run out. -/
def Position.Ended (p : Position) : Prop :=
  p.tokens = [] ∨ p.raw = []

/-- One move of the walk, with the steps that it writes. Every move needs a raw character to
be left. -/
inductive Move : Position → List Step → Position → Prop
  | literal {c x : Char} {tokens : List Token} {raw : List Char} :
      Move ⟨.literal c :: tokens, x :: raw⟩ [.literal c] ⟨tokens, x :: raw⟩
  | take {k : CharClass} {x : Char} {tokens : List Token} {raw : List Char}
      (accepted : k.accepts x = true) :
      Move ⟨.placeholder k :: tokens, x :: raw⟩ [.taken x] ⟨tokens, raw⟩
  | drop {k : CharClass} {x : Char} {tokens : List Token} {raw : List Char}
      (rejected : k.accepts x = false) :
      Move ⟨.placeholder k :: tokens, x :: raw⟩ [] ⟨.placeholder k :: tokens, raw⟩
  | commit {items : List Slot} {cells : List Cell} {x : Char} {tokens : List Token}
      {raw rest : List Char}
      (filled : fill? (Template.mandatory tokens) items (x :: raw) = some (cells, rest)) :
      Move ⟨.group items :: tokens, x :: raw⟩ [.group cells] ⟨tokens, rest⟩
  | skip {items : List Slot} {x : Char} {tokens : List Token} {raw : List Char}
      (refused : fill? (Template.mandatory tokens) items (x :: raw) = none) :
      Move ⟨.group items :: tokens, x :: raw⟩ [] ⟨tokens, x :: raw⟩

/-- Any number of moves, with all the steps that they write. -/
inductive Walk : Position → List Step → Position → Prop
  | refl (p : Position) : Walk p [] p
  | head {p q r : Position} {steps behind : List Step} :
      Move p steps q → Walk q behind r → Walk p (steps ++ behind) r

section Align

variable {k : CharClass} {x : Char} {tokens : List Token} {raw : List Char}

theorem align_placeholder_of_accepts (accepted : k.accepts x = true) :
    align (.placeholder k :: tokens) (x :: raw) = .taken x :: align tokens raw := by
  simp [align, accepted]

theorem align_placeholder_of_rejects (rejected : k.accepts x = false) :
    align (.placeholder k :: tokens) (x :: raw) = align (.placeholder k :: tokens) raw := by
  -- `align` has an equation of its own for when no raw text is left behind `x`
  cases raw with
  | nil => simp [align, rejected]
  | cons y raw => simp [align, rejected]

end Align

namespace Move

variable {p q : Position} {steps : List Step} {tokens : List Token} {raw : List Char}

theorem literal_of_ne_nil {c : Char} (left : raw ≠ []) :
    Move ⟨.literal c :: tokens, raw⟩ [.literal c] ⟨tokens, raw⟩ := by
  cases raw with
  | nil => exact absurd rfl left
  | cons x raw => exact .literal

theorem commit_of_fill? {items : List Slot} {cells : List Cell} {rest : List Char}
    (filled : fill? (Template.mandatory tokens) items raw = some (cells, rest))
    (left : raw ≠ []) : Move ⟨.group items :: tokens, raw⟩ [.group cells] ⟨tokens, rest⟩ := by
  cases raw with
  | nil => exact absurd rfl left
  | cons x raw => exact .commit filled

/-- What is written from a position on is what a move writes, and then what is written from
where it leads. -/
theorem align_eq (move : Move p steps q) :
    align p.tokens p.raw = steps ++ align q.tokens q.raw := by
  cases move with
  | literal => rfl
  | take accepted => exact align_placeholder_of_accepts accepted
  | drop rejected => exact align_placeholder_of_rejects rejected
  | commit filled => simp [align, filled]
  | skip refused => simp [align, refused]

/-- Tokens are passed in order. -/
theorem tokens_suffix (move : Move p steps q) : q.tokens <:+ p.tokens := by
  cases move with
  | drop rejected => exact List.suffix_refl _
  | _ => exact List.suffix_cons _ _

/-- Raw characters are used up in order. -/
theorem raw_suffix (move : Move p steps q) : q.raw <:+ p.raw := by
  cases move with
  | take accepted => exact List.suffix_cons _ _
  | drop rejected => exact List.suffix_cons _ _
  | commit filled => exact suffix_of_fill? filled
  | _ => exact List.suffix_refl _

/-- A move passes a token or drops a raw character. -/
theorem size_lt (move : Move p steps q) :
    q.tokens.length + q.raw.length < p.tokens.length + p.raw.length := by
  -- a committed group may take nothing, but then its token is passed
  have shorter := move.raw_suffix.length_le
  cases move <;> simp only [List.length_cons] at * <;> omega

/-- A move writes at most one step. -/
theorem steps_cases (move : Move p steps q) : steps = [] ∨ ∃ step, steps = [step] := by
  cases move with
  | drop rejected => exact .inl rfl
  | skip refused => exact .inl rfl
  | _ => exact .inr ⟨_, rfl⟩

/-- Mandatory placeholders are passed one by one, each with the step that fills it. -/
theorem mandatory_eq (move : Move p steps q) :
    Template.mandatory p.tokens = steps.countP Step.isTaken + Template.mandatory q.tokens := by
  cases move <;> simp [Step.isTaken, Nat.add_comm]

end Move

/-- From a position that is no end there is a move. -/
theorem exists_move {p : Position} (onward : ¬ p.Ended) : ∃ steps q, Move p steps q := by
  obtain ⟨tokens, raw⟩ := p
  match tokens, raw with
  | [], _ => exact absurd (Or.inl rfl) onward
  | _ :: _, [] => exact absurd (Or.inr rfl) onward
  | .literal c :: tokens, x :: raw => exact ⟨_, _, .literal⟩
  | .placeholder k :: tokens, x :: raw =>
    cases accepted : k.accepts x with
    | true => exact ⟨_, _, .take accepted⟩
    | false => exact ⟨_, _, .drop accepted⟩
  | .group items :: tokens, x :: raw =>
    cases filled : fill? (Template.mandatory tokens) items (x :: raw) with
    | some result => exact ⟨_, _, .commit filled⟩
    | none => exact ⟨_, _, .skip filled⟩

@[simp] theorem Position.Ended.align_eq {p : Position} (ended : p.Ended) :
    align p.tokens p.raw = [] := by
  obtain ⟨tokens, raw⟩ := p
  obtain rfl | rfl : tokens = [] ∨ raw = [] := ended
  · rfl
  · simp

namespace Walk

variable {p q r : Position} {steps behind : List Step}

/-- Walks are put one behind the other, and so are their steps. -/
theorem trans (walk : Walk p steps q) (onward : Walk q behind r) :
    Walk p (steps ++ behind) r := by
  induction walk with
  | refl => exact onward
  | head move _ ih =>
    rw [List.append_assoc]
    exact .head move (ih onward)

/-- One move is a walk. -/
theorem single (move : Move p steps q) : Walk p steps q := by
  simpa using Walk.head move (.refl q)

theorem snoc (walk : Walk p steps q) (move : Move q behind r) : Walk p (steps ++ behind) r :=
  walk.trans (single move)

/-- A walk is cut at each step that it writes, into the move that writes it, the walk before and
the walk behind. -/
theorem exists_move {front back : List Step} {step : Step}
    (walk : Walk p (front ++ step :: back) r) :
    ∃ q q', Walk p front q ∧ Move q [step] q' ∧ Walk q' back r := by
  generalize written : front ++ step :: back = steps at walk
  induction walk generalizing front with
  | refl => cases List.append_ne_nil_of_right_ne_nil front (List.cons_ne_nil step back) written
  | @head p between r steps behind move walk ih =>
    obtain rfl | ⟨first, rfl⟩ := move.steps_cases
    · obtain ⟨q, q', before, here, after⟩ := ih written
      exact ⟨q, q', .head move before, here, after⟩
    · cases front with
      | nil =>
        cases written
        exact ⟨p, between, .refl p, move, walk⟩
      | cons _ front =>
        obtain ⟨rfl, others⟩ := List.cons_eq_cons.mp written
        obtain ⟨q, q', before, here, after⟩ := ih others
        exact ⟨q, q', .head move before, here, after⟩

theorem align_eq (walk : Walk p steps q) :
    align p.tokens p.raw = steps ++ align q.tokens q.raw := by
  induction walk with
  | refl => rfl
  | head move _ ih => rw [move.align_eq, ih, List.append_assoc]

theorem tokens_suffix (walk : Walk p steps q) : q.tokens <:+ p.tokens := by
  induction walk with
  | refl => exact List.suffix_refl _
  | head move _ ih => exact ih.trans move.tokens_suffix

theorem raw_suffix (walk : Walk p steps q) : q.raw <:+ p.raw := by
  induction walk with
  | refl => exact List.suffix_refl _
  | head move _ ih => exact ih.trans move.raw_suffix

theorem mandatory_eq (walk : Walk p steps q) :
    Template.mandatory p.tokens = steps.countP Step.isTaken + Template.mandatory q.tokens := by
  induction walk with
  | refl => simp
  | head move _ ih => rw [move.mandatory_eq, ih, List.countP_append, Nat.add_assoc]

end Walk

/-- Every walk can be continued until it ends. -/
theorem exists_walk_to_end (p : Position) :
    ∃ q, q.Ended ∧ Walk p (align p.tokens p.raw) q := by
  by_cases ended : p.Ended
  · have stays : Walk p [] p := .refl p
    exact ⟨p, ended, ended.align_eq ▸ stays⟩
  · obtain ⟨steps, q, move⟩ := exists_move ended
    obtain ⟨r, ended', walk⟩ := exists_walk_to_end q
    exact ⟨r, ended', move.align_eq ▸ .head move walk⟩
termination_by p.tokens.length + p.raw.length
decreasing_by exact move.size_lt

/-- Each group step of `align` is written where a walk comes to a group that is filled, and the
steps behind it are those of what the group leaves. -/
theorem exists_fill?_of_align {tokens : List Token} {raw : List Char} {front back : List Step}
    {cells : List Cell} (written : align tokens raw = front ++ .group cells :: back) :
    ∃ items behind before after,
      Walk ⟨tokens, raw⟩ front ⟨.group items :: behind, before⟩ ∧
      Move ⟨.group items :: behind, before⟩ [.group cells] ⟨behind, after⟩ ∧
      fill? (Template.mandatory behind) items before = some (cells, after) ∧
      back = align behind after := by
  obtain ⟨q, -, walk⟩ := exists_walk_to_end ⟨tokens, raw⟩
  rw [written] at walk
  obtain ⟨_, _, reached, move, -⟩ := walk.exists_move
  have whole := (reached.snoc move).align_eq
  rw [written, List.append_assoc, List.append_cancel_left_eq, List.singleton_append] at whole
  cases move with
  | commit filled => exact ⟨_, _, _, _, reached, .commit filled, filled, List.cons.inj whole |>.2⟩

/-- No more mandatory placeholders are filled than there are. -/
theorem countP_isTaken_le (tokens : List Token) (raw : List Char) :
    (align tokens raw).countP Step.isTaken ≤ Template.mandatory tokens := by
  obtain ⟨q, -, walk⟩ := exists_walk_to_end ⟨tokens, raw⟩
  have passed := walk.mandatory_eq
  simp only at passed
  omega

section Fills

variable {p q : Position} {steps : List Step} {tokens : List Token} {raw : List Char}

/-- Along a walk nothing is decided about the placeholders that were passed. -/
theorem Walk.fills_iff (walk : Walk p steps q) :
    Fills p.tokens p.raw ↔ Fills q.tokens q.raw := by
  rw [Fills, Fills, walk.align_eq, walk.mandatory_eq, List.countP_append, Nat.add_left_cancel_iff]

/-- Every mandatory placeholder is filled exactly when the walk comes to a position behind
the last one. -/
theorem fills_iff_passes_last :
    Fills tokens raw ↔
      ∃ steps p, Walk ⟨tokens, raw⟩ steps p ∧ Template.mandatory p.tokens = 0 := by
  constructor
  · intro filled
    obtain ⟨q, -, walk⟩ := exists_walk_to_end ⟨tokens, raw⟩
    have passed := walk.mandatory_eq
    have none_left : Template.mandatory q.tokens = 0 := by
      simp only [Fills] at filled passed
      omega
    exact ⟨_, q, walk, none_left⟩
  · rintro ⟨steps, p, walk, none⟩
    have few := countP_isTaken_le p.tokens p.raw
    rw [none, Nat.le_zero] at few
    have filled : Fills p.tokens p.raw := few.trans none.symm
    exact walk.fills_iff.mpr filled

end Fills

end InputMask
