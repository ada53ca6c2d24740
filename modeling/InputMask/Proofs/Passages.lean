import InputMask.Proofs.Walk

/-!
# Alignments described by raw positions

What `align` computes is described here without walking: which of the first tokens are passed
and how, and at which positions of the raw text the characters stand that are taken. A token
is only reached while a raw character is left. A mandatory placeholder takes the first
character behind the last one taken that it accepts. A group is emitted exactly when it fits
right there, and its characters are consecutive. The tokens passed are as many as can be. There
is exactly one such alignment, and its steps are those of `align`.

## Main definitions

* `Pick`, `Passage`: a character taken, and how a token is passed
* `Fits`: the condition for a group to be emitted
* `IsAlignment`: the description of an alignment

## Main results

* `IsAlignment.induction`: from what holds behind a passage to what holds of it as well
* `exists_isAlignment`: there is an alignment, and it makes the steps of `align`
* `IsAlignment.unique`: there is at most one alignment
-/

namespace InputMask

/-- A raw character that is taken, with the position it stands at. -/
structure Pick where
  position : Nat
  char : Char
  deriving DecidableEq, Repr

/-- How a token is passed. -/
inductive Passage where
  | literal (c : Char)
  | placeholder (k : CharClass) (pick : Pick)
  | emitted (items : List Slot) (picks : List Pick)
  | skipped (items : List Slot)
  deriving DecidableEq, Repr

namespace Passage

/-- The token that is passed. -/
def token : Passage → Token
  | literal c => .literal c
  | placeholder k _ => .placeholder k
  | emitted items _ => .group items
  | skipped items => .group items

/-- What the token asks to be written; a skipped group asks for nothing. -/
def slots : Passage → List Slot
  | literal c => [.literal c]
  | placeholder k _ => [.placeholder k]
  | emitted items _ => items
  | skipped _ => []

/-- The characters that the token takes. -/
def picks : Passage → List Pick
  | literal _ => []
  | placeholder _ pick => [pick]
  | emitted _ picks => picks
  | skipped _ => []

end Passage

/-- The position right behind the last character taken. -/
def resume (start : Nat) (picks : List Pick) : Nat :=
  (picks.getLast?.map (·.position + 1)).getD start

/-- The condition for a group to be emitted at a position, with mandatory placeholders ahead:
at each item a raw character is left, and where the item is a placeholder, it accepts the
character and the characters left outnumber the mandatory placeholders ahead. -/
def Fits (raw : List Char) (ahead next : Nat) (items : List Slot) : Prop :=
  ∀ before item after, items = before ++ item :: after →
    next + (slotClasses before).length < raw.length ∧
      ∀ k, item = .placeholder k →
        (∃ c, raw[next + (slotClasses before).length]? = some c ∧ k.accepts c = true) ∧
          ahead < raw.length - (next + (slotClasses before).length)

/-- A token is passed in the way it has to be, from a position on and with mandatory
placeholders ahead. -/
def Passage.Sound (raw : List Char) (ahead next : Nat) : Passage → Prop
  | literal _ => True
  | placeholder k pick =>
    next ≤ pick.position ∧ raw[pick.position]? = some pick.char ∧
      k.accepts pick.char = true ∧
        ∀ i c, next ≤ i → i < pick.position → raw[i]? = some c → k.accepts c = false
  | emitted items picks =>
    Fits raw ahead next items ∧
      picks.map Pick.position = List.range' next (slotClasses items).length ∧
        ∀ pick ∈ picks, raw[pick.position]? = some pick.char
  | skipped items => ¬ Fits raw ahead next items

/-- No further token can be passed from a position: there is none, or no raw character is left,
or it is a placeholder that accepts none of those left. -/
def Stuck (raw : List Char) (next : Nat) : List Token → Prop
  | [] => True
  | token :: _ =>
    raw.length ≤ next ∨
      ∃ k, token = .placeholder k ∧ ∀ i c, next ≤ i → raw[i]? = some c → k.accepts c = false

/-- How the first of some tokens, as many as can be, are passed from a position on. -/
structure IsAlignment (raw : List Char) (start : Nat) (tokens : List Token)
    (passages : List Passage) : Prop where
  passed : passages.map Passage.token <+: tokens
  reached : ∀ before passage after, passages = before ++ passage :: after →
    resume start (before.flatMap Passage.picks) < raw.length
  sound : ∀ before passage after, passages = before ++ passage :: after →
    passage.Sound raw (Template.mandatory (tokens.drop (before.length + 1)))
      (resume start (before.flatMap Passage.picks))
  stuck : Stuck raw (resume start (passages.flatMap Passage.picks))
    (tokens.drop passages.length)

/-! ### One token at a time -/

section Resume

variable {start : Nat} {pick : Pick} {picks later : List Pick}

@[simp] theorem resume_nil : resume start [] = start := rfl

@[simp] theorem resume_cons : resume start (pick :: picks) = resume (pick.position + 1) picks := by
  rw [resume, resume, List.getLast?_cons]
  cases picks.getLast? <;> rfl

@[simp] theorem resume_append :
    resume start (picks ++ later) = resume (resume start picks) later := by
  induction picks generalizing start with
  | nil => rfl
  | cons pick picks ih => simp [ih]

end Resume

/-- What holds wherever a list is cut holds at its head and wherever its tail is cut. -/
theorem forall_cut_cons {α : Type*} {P : List α → α → List α → Prop} {x : α} {xs : List α} :
    (∀ before y after, x :: xs = before ++ y :: after → P before y after) ↔
      P [] x xs ∧ ∀ before y after, xs = before ++ y :: after → P (x :: before) y after := by
  constructor
  · intro everywhere
    exact ⟨everywhere [] x xs rfl, fun before y after cut => everywhere _ y after (by simp [cut])⟩
  · rintro ⟨head, tail⟩ before y after cut
    cases before with
    | nil =>
      obtain ⟨rfl, rfl⟩ := List.cons.inj cut
      exact head
    | cons z before =>
      obtain ⟨rfl, rest⟩ := List.cons.inj cut
      exact tail before y after rest

section Fits

variable {raw : List Char} {ahead next : Nat} {items : List Slot}

@[simp] theorem fits_nil : Fits raw ahead next [] := by
  intro before item after cut
  simp at cut

/-- A literal only asks for a raw character to be left. -/
theorem fits_literal_iff {c : Char} :
    Fits raw ahead next (.literal c :: items) ↔
      next < raw.length ∧ Fits raw ahead next items := by
  rw [Fits, forall_cut_cons]
  simp [Fits]

theorem fits_placeholder_iff {k : CharClass} :
    Fits raw ahead next (.placeholder k :: items) ↔
      (∃ c, raw[next]? = some c ∧ k.accepts c = true) ∧ ahead < raw.length - next ∧
        Fits raw ahead (next + 1) items := by
  rw [Fits, forall_cut_cons]
  simp only [slotClasses_nil, List.length_nil, Nat.add_zero, Slot.placeholder.injEq,
    forall_eq', slotClasses_placeholder, List.length_cons, Fits, Nat.add_assoc, Nat.add_comm 1]
  constructor
  · rintro ⟨⟨-, accepted, spare⟩, rest⟩
    exact ⟨accepted, spare, rest⟩
  · rintro ⟨accepted, spare, rest⟩
    exact ⟨⟨by omega, accepted, spare⟩, rest⟩

end Fits

section Alignment

variable {raw : List Char} {start : Nat} {token : Token} {tokens : List Token}
  {passage : Passage} {passages : List Passage}

theorem isAlignment_nil_iff : IsAlignment raw start tokens [] ↔ Stuck raw start tokens :=
  ⟨fun h => h.stuck, fun h => ⟨by simp, by simp, by simp, h⟩⟩

theorem not_isAlignment_nil_cons : ¬ IsAlignment raw start [] (passage :: passages) := by
  intro h
  simpa using h.passed

theorem isAlignment_cons_iff :
    IsAlignment raw start (token :: tokens) (passage :: passages) ↔
      passage.token = token ∧ start < raw.length ∧
        passage.Sound raw (Template.mandatory tokens) start ∧
          IsAlignment raw (resume start passage.picks) tokens passages := by
  constructor
  · rintro ⟨passed, reached, sound, stuck⟩
    rw [forall_cut_cons] at reached sound
    rw [List.map_cons, List.cons_prefix_cons] at passed
    exact ⟨passed.1, by simpa using reached.1, by simpa using sound.1, passed.2,
      by simpa using reached.2, by simpa using sound.2, by simpa using stuck⟩
  · rintro ⟨rfl, left, suits, passed, reached, sound, stuck⟩
    refine ⟨?_, ?_, ?_, by simpa using stuck⟩
    · simpa using passed
    · exact forall_cut_cons.mpr ⟨by simpa using left, by simpa using reached⟩
    · exact forall_cut_cons.mpr ⟨by simpa using suits, by simpa using sound⟩

/-- What holds where no further token can be passed, and of a passage and what follows it whenever
it holds of what follows, holds of every alignment. -/
@[elab_as_elim]
theorem IsAlignment.induction
    {motive : ∀ start tokens passages, IsAlignment raw start tokens passages → Prop}
    (stop : ∀ start tokens (stuck : Stuck raw start tokens),
      motive start tokens [] (isAlignment_nil_iff.mpr stuck))
    (pass : ∀ start passage tokens passages (left : start < raw.length)
      (sound : passage.Sound raw (Template.mandatory tokens) start)
      (aligned : IsAlignment raw (resume start passage.picks) tokens passages),
      motive (resume start passage.picks) tokens passages aligned →
        motive start (passage.token :: tokens) (passage :: passages)
          (isAlignment_cons_iff.mpr ⟨rfl, left, sound, aligned⟩))
    (aligned : IsAlignment raw start tokens passages) : motive start tokens passages aligned := by
  induction passages generalizing start tokens with
  | nil => exact stop _ _ (isAlignment_nil_iff.mp aligned)
  | cons passage passages ih =>
    cases tokens with
    | nil => exact absurd aligned not_isAlignment_nil_cons
    | cons token tokens =>
      obtain ⟨rfl, left, sound, behind⟩ := isAlignment_cons_iff.mp aligned
      exact pass _ _ _ _ left sound behind (ih behind)

end Alignment

/-! ### There is an alignment -/

/-- The step that is made when a token is passed; a skipped group makes none. -/
def Passage.step? : Passage → Option Step
  | literal c => some (.literal c)
  | placeholder _ pick => some (.taken pick.char)
  | emitted items picks => some (.group (cellsOf items (picks.map Pick.char)))
  | skipped _ => none

section Existence

variable {raw rest : List Char} {ahead next : Nat} {items : List Slot} {cells : List Cell}
  {x : Char}

theorem getElem?_of_drop_eq_cons (left : raw.drop next = x :: rest) :
    raw[next]? = some x ∧ raw.drop (next + 1) = rest := by
  constructor
  · simpa using congrArg List.head? left
  · rw [← List.tail_drop, left, List.tail_cons]

theorem fill?_drop_of_fits (fits : Fits raw ahead next items) :
    ∃ picks, picks.map Pick.position = List.range' next (slotClasses items).length ∧
      (∀ pick ∈ picks, raw[pick.position]? = some pick.char) ∧
        fill? ahead items (raw.drop next) =
          some (cellsOf items (picks.map Pick.char), raw.drop (resume next picks)) := by
  induction items generalizing next with
  | nil => exact ⟨[], rfl, by simp, by simp⟩
  | cons item items ih =>
    cases item with
    | literal c =>
      obtain ⟨left, fits⟩ := fits_literal_iff.mp fits
      obtain ⟨picks, positions, there, filled⟩ := ih fits
      have some_left : raw.drop next ≠ [] := by simpa using left
      exact ⟨picks, positions, there,
        fill?_literal_eq_some_iff.mpr ⟨some_left, _, filled, rfl⟩⟩
    | placeholder k =>
      obtain ⟨⟨c, here, accepted⟩, spare, fits⟩ := fits_placeholder_iff.mp fits
      obtain ⟨picks, positions, there, filled⟩ := ih fits
      obtain ⟨bound, rfl⟩ := List.getElem?_eq_some_iff.mp here
      have first : raw.drop next = raw[next] :: raw.drop (next + 1) :=
        List.drop_eq_getElem_cons bound
      have spared : ahead ≤ (raw.drop (next + 1)).length := by
        rw [List.length_drop]
        omega
      refine ⟨⟨next, raw[next]⟩ :: picks, ?_, ?_, ?_⟩
      · simp [positions, List.range'_succ]
      · simpa using there
      · rw [resume_cons]
        exact fill?_placeholder_eq_some_iff.mpr
          ⟨_, _, first, accepted, spared, _, filled, rfl⟩

theorem fits_of_fill?_drop (filled : fill? ahead items (raw.drop next) = some (cells, rest)) :
    Fits raw ahead next items := by
  induction items generalizing next cells with
  | nil => exact fits_nil
  | cons item items ih =>
    cases item with
    | literal c =>
      obtain ⟨left, behind, filled, -⟩ := fill?_literal_eq_some_iff.mp filled
      exact fits_literal_iff.mpr ⟨by simpa using left, ih filled⟩
    | placeholder k =>
      obtain ⟨x, left, eq, accepted, spare, behind, filled, -⟩ :=
        fill?_placeholder_eq_some_iff.mp filled
      obtain ⟨here, rfl⟩ := getElem?_of_drop_eq_cons eq
      obtain ⟨bound, -⟩ := List.getElem?_eq_some_iff.mp here
      have outnumber : ahead < raw.length - next := by
        rw [List.length_drop] at spare
        omega
      exact fits_placeholder_iff.mpr ⟨⟨x, here, accepted⟩, outnumber, ih filled⟩

/-- A group fits exactly where it can be filled. -/
theorem fits_iff_isSome_fill?_drop :
    Fits raw ahead next items ↔ (fill? ahead items (raw.drop next)).isSome := by
  constructor
  · intro fits
    obtain ⟨picks, -, -, filled⟩ := fill?_drop_of_fits fits
    exact Option.isSome_of_eq_some filled
  · intro written
    obtain ⟨result, filled⟩ := Option.isSome_iff_exists.mp written
    exact fits_of_fill?_drop filled

/-- From a position on, a mandatory placeholder takes the first character it accepts, or
nothing more is written. -/
theorem align_placeholder_drop (k : CharClass) (tokens : List Token) (raw : List Char)
    (next : Nat) :
    ((∀ i c, next ≤ i → raw[i]? = some c → k.accepts c = false) ∧
        align (.placeholder k :: tokens) (raw.drop next) = []) ∨
      ∃ pick, Passage.Sound raw (Template.mandatory tokens) next (.placeholder k pick) ∧
        align (.placeholder k :: tokens) (raw.drop next) =
          .taken pick.char :: align tokens (raw.drop (pick.position + 1)) := by
  -- over the characters that are left, since a rejected one moves only the position
  induction left : raw.drop next generalizing next with
  | nil =>
    refine Or.inl ⟨fun i c behind there => ?_, align_nil_right _⟩
    obtain ⟨bound, -⟩ := List.getElem?_eq_some_iff.mp there
    rw [List.drop_eq_nil_iff] at left
    omega
  | cons x rest ih =>
    obtain ⟨here, later⟩ := getElem?_of_drop_eq_cons left
    cases accepted : k.accepts x with
    | true =>
      refine Or.inr ⟨⟨next, x⟩, ⟨Nat.le_refl _, here, accepted, fun i c low high => ?_⟩, ?_⟩
      · exact absurd high (Nat.not_lt.mpr low)
      · rw [align_placeholder_of_accepts accepted, later]
    | false =>
      rw [align_placeholder_of_rejects accepted]
      have skip {i : Nat} {c : Char} (low : next ≤ i) (there : raw[i]? = some c)
          (behind : next + 1 ≤ i → k.accepts c = false) : k.accepts c = false := by
        obtain rfl | low := Nat.eq_or_lt_of_le low
        · obtain rfl := Option.some.inj (here.symm.trans there)
          exact accepted
        · exact behind low
      obtain ⟨none, stops⟩ | ⟨pick, ⟨low, there, suits, first⟩, goes⟩ := ih (next + 1) later
      · exact Or.inl ⟨fun i c low there => skip low there fun low => none i c low there, stops⟩
      · refine Or.inr ⟨pick, ⟨by omega, there, suits, fun i c low high there => ?_⟩, goes⟩
        exact skip low there fun low => first i c low high there

/-- The steps of `align` are those of some alignment. -/
theorem exists_isAlignment (raw : List Char) (start : Nat) (tokens : List Token) :
    ∃ passages, IsAlignment raw start tokens passages ∧
      align tokens (raw.drop start) = passages.filterMap Passage.step? := by
  induction tokens generalizing start with
  | nil => exact ⟨[], isAlignment_nil_iff.mpr trivial, rfl⟩
  | cons token tokens ih =>
    cases left : raw.drop start with
    | nil =>
      rw [List.drop_eq_nil_iff] at left
      exact ⟨[], isAlignment_nil_iff.mpr (Or.inl left), by simp⟩
    | cons x rest =>
      have bound : start < raw.length := by
        by_contra out
        simp [List.drop_eq_nil_of_le (Nat.le_of_not_lt out)] at left
      cases token with
      | literal c =>
        obtain ⟨passages, aligned, steps⟩ := ih start
        refine ⟨.literal c :: passages,
          isAlignment_cons_iff.mpr ⟨rfl, bound, trivial, aligned⟩, ?_⟩
        rw [align, ← left, steps]
        rfl
      | placeholder k =>
        rw [← left]
        obtain ⟨none, stops⟩ | ⟨pick, sound, goes⟩ := align_placeholder_drop k tokens raw start
        · exact ⟨[], isAlignment_nil_iff.mpr (Or.inr ⟨k, rfl, none⟩), stops⟩
        · obtain ⟨passages, aligned, steps⟩ := ih (pick.position + 1)
          refine ⟨.placeholder k pick :: passages,
            isAlignment_cons_iff.mpr ⟨rfl, bound, sound, aligned⟩, ?_⟩
          rw [goes, steps]
          rfl
      | group items =>
        by_cases fits : Fits raw (Template.mandatory tokens) start items
        · obtain ⟨picks, positions, there, filled⟩ := fill?_drop_of_fits fits
          obtain ⟨passages, aligned, steps⟩ := ih (resume start picks)
          refine ⟨.emitted items picks :: passages,
            isAlignment_cons_iff.mpr ⟨rfl, bound, ⟨fits, positions, there⟩, aligned⟩, ?_⟩
          rw [left] at filled
          simp [align, filled, steps, Passage.step?]
        · obtain ⟨passages, aligned, steps⟩ := ih start
          refine ⟨.skipped items :: passages,
            isAlignment_cons_iff.mpr ⟨rfl, bound, fits, aligned⟩, ?_⟩
          have refused : fill? (Template.mandatory tokens) items (x :: rest) = none := by
            rwa [fits_iff_isSome_fill?_drop, left, Option.not_isSome_iff_eq_none] at fits
          simpa [align, refused, left, Passage.step?, List.filterMap_cons] using steps

end Existence

/-! ### There is only one -/

section Uniqueness

variable {raw : List Char} {ahead next start : Nat} {items : List Slot} {picks others : List Pick}
  {token : Token} {tokens : List Token} {passage other : Passage}
  {passages alternative : List Passage}

/-- Characters are known by their positions in the raw text. -/
theorem picks_eq_of_positions (same : picks.map Pick.position = others.map Pick.position)
    (there : ∀ pick ∈ picks, raw[pick.position]? = some pick.char)
    (there' : ∀ pick ∈ others, raw[pick.position]? = some pick.char) : picks = others := by
  induction picks generalizing others with
  | nil => simpa using same.symm
  | cons pick picks ih =>
    cases others with
    | nil => simp at same
    | cons pick' others =>
      obtain ⟨at_same, behind⟩ := List.cons.inj same
      have char : pick.char = pick'.char := by
        have here := there pick (by simp)
        rw [at_same, there' pick' (by simp)] at here
        exact (Option.some.inj here).symm
      obtain rfl : pick = pick' := by
        cases pick
        cases pick'
        simp_all
      rw [ih behind (fun p member => there p (by simp [member]))
        fun p member => there' p (by simp [member])]

/-- A token can be passed in one way only. -/
theorem Passage.Sound.unique (sound : passage.Sound raw ahead next)
    (sound' : other.Sound raw ahead next) (same : passage.token = other.token) :
    passage = other := by
  match passage, other with
  | .literal c, .literal c' =>
    cases same
    rfl
  | .placeholder k pick, .placeholder k' pick' =>
    cases same
    obtain ⟨low, there, suits, first⟩ := sound
    obtain ⟨low', there', suits', first'⟩ := sound'
    have position : pick.position = pick'.position := by
      obtain less | equal | more := Nat.lt_trichotomy pick.position pick'.position
      · simp [first' _ _ low less there] at suits
      · exact equal
      · simp [first _ _ low' more there'] at suits'
    have picks : [pick] = [pick'] :=
      picks_eq_of_positions (by simpa using position) (by simpa using there) (by simpa using there')
    rw [List.cons.inj picks |>.1]
  | .emitted items picks, .emitted items' picks' =>
    cases same
    obtain ⟨-, positions, there⟩ := sound
    obtain ⟨-, positions', there'⟩ := sound'
    rw [picks_eq_of_positions (positions.trans positions'.symm) there there']
  | .emitted items picks, .skipped items' =>
    cases same
    exact absurd sound.1 sound'
  | .skipped items, .emitted items' picks' =>
    cases same
    exact absurd sound'.1 sound
  | .skipped items, .skipped items' =>
    cases same
    rfl

/-- Where a token can be passed the alignment does not end. -/
theorem Passage.Sound.not_stuck (sound : passage.Sound raw ahead start)
    (left : start < raw.length) : ¬ Stuck raw start (passage.token :: tokens) := by
  rintro (past | ⟨k, token, none⟩)
  · exact absurd left (Nat.not_lt.mpr past)
  · cases passage with
    | placeholder k' pick =>
      cases token
      obtain ⟨low, there, suits, -⟩ := sound
      simp [none _ _ low there] at suits
    | _ => cases token

/-- There is at most one alignment. -/
theorem IsAlignment.unique (aligned : IsAlignment raw start tokens passages)
    (aligned' : IsAlignment raw start tokens alternative) : passages = alternative := by
  -- token by token: both alignments end here, or both pass the token, and in the same way
  induction tokens generalizing start passages alternative with
  | nil =>
    match passages, alternative with
    | [], [] => rfl
    | _ :: _, _ => exact absurd aligned not_isAlignment_nil_cons
    | [], _ :: _ => exact absurd aligned' not_isAlignment_nil_cons
  | cons token tokens ih =>
    match passages, alternative with
    | [], [] => rfl
    | [], other :: alternative =>
      obtain ⟨rfl, left, sound, -⟩ := isAlignment_cons_iff.mp aligned'
      exact absurd (isAlignment_nil_iff.mp aligned) (sound.not_stuck left)
    | passage :: passages, [] =>
      obtain ⟨rfl, left, sound, -⟩ := isAlignment_cons_iff.mp aligned
      exact absurd (isAlignment_nil_iff.mp aligned') (sound.not_stuck left)
    | passage :: passages, other :: alternative =>
      obtain ⟨rfl, -, sound, aligned⟩ := isAlignment_cons_iff.mp aligned
      obtain ⟨same, -, sound', aligned'⟩ := isAlignment_cons_iff.mp aligned'
      obtain rfl := sound.unique sound' same.symm
      rw [ih aligned aligned']

end Uniqueness

end InputMask
