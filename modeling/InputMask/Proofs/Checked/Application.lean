import InputMask.Proofs.Checked.Reading
import InputMask.Proofs.Walk

/-!
# Applying templates by index

Tokens and raw characters are visited by index. What is shown is appended to two texts, and a
literal at the head of the template is held back until something else is shown. A group looks up
how many mandatory placeholders stand behind it, and subtracts positions from the length of the raw
text to see whether a character can be spared for them.

## Main definitions

* `Filled`, `matchGroup`: a group against the raw text from a position on
* `Emitter`: what is shown so far
* `Checked.applyTokens`: a template against a raw text

## Main results

* `matchItems_append`: a group is filled as by `fill?`, without an access out of range
* `applyAt_of_move`, `applyAt_of_walk`: moves are visited without an access out of range
* `Checked.applyTokens_eq_ok`: no access is out of range
-/

namespace InputMask.Checked

open Template (mandatory)

/-! ### Groups -/

/-- A group that is filled up to some item: what it shows, what of it was taken, and the position
of the next raw character. -/
structure Filled where
  masked : List Char := []
  unmasked : List Char := []
  next : Nat
  deriving DecidableEq, Repr

section Groups

variable (input : List Char) (ahead : Nat)

/-- Whether more characters are left at a position than are needed ahead. -/
def spares (next : Nat) : Except Violation Bool := do
  let left ← sub input.length next
  return decide (ahead < left)

/-- Fills the items of a group behind those that are filled. -/
def matchItems : List Slot → Filled → Except Violation (Option Filled)
  | [], filled => .ok (some filled)
  | item :: items, filled =>
    match input[filled.next]? with
    | none => .ok none
    | some c =>
      match item with
      | .literal l => matchItems items { filled with masked := filled.masked ++ [l] }
      | .placeholder k =>
        if k.accepts c then do
          if ← spares input ahead filled.next then
            matchItems items ⟨filled.masked ++ [c], filled.unmasked ++ [c], filled.next + 1⟩
          else return none
        else .ok none

/-- Fills a group from a position on. -/
def matchGroup (items : List Slot) (start : Nat) : Except Violation (Option Filled) :=
  matchItems input ahead items { next := start }

/-- What is filled with more cells behind it. -/
def Filled.extend (filled : Filled) (cells : List Cell) : Filled :=
  ⟨filled.masked ++ cells.map Cell.char, filled.unmasked ++ cells.filterMap Cell.taken?,
    filled.next + (cells.filterMap Cell.taken?).length⟩

theorem Filled.extend_nil (filled : Filled) : filled.extend [] = filled := by
  simp [extend]

theorem Filled.extend_literal (filled : Filled) (c : Char) (cells : List Cell) :
    filled.extend (.literal c :: cells) =
      extend { filled with masked := filled.masked ++ [c] } cells := by
  simp [extend, Cell.char, List.filterMap_cons, Cell.taken?]

theorem Filled.extend_taken (filled : Filled) (c : Char) (cells : List Cell) :
    filled.extend (.taken c :: cells) =
      extend ⟨filled.masked ++ [c], filled.unmasked ++ [c], filled.next + 1⟩ cells := by
  simp [extend, Cell.char, Cell.taken?, Nat.add_comm, Nat.add_left_comm]

/-- The guard never subtracts a position behind the end. -/
theorem spares_append (before raw : List Char) :
    spares (before ++ raw) ahead before.length = .ok (decide (ahead < raw.length)) := by
  rw [spares, sub_of_le (by simp), Json.ok_bind, List.length_append, Nat.add_sub_cancel_left]
  rfl

/-- The items of a group are filled as by `fill?`. -/
theorem matchItems_append (items : List Slot) (before raw masked unmasked : List Char) :
    matchItems (before ++ raw) ahead items ⟨masked, unmasked, before.length⟩ =
      .ok ((fill? ahead items raw).map fun filled =>
        Filled.extend ⟨masked, unmasked, before.length⟩ filled.1) := by
  induction items generalizing before raw masked unmasked with
  | nil => rw [matchItems, fill?, Option.map_some, Filled.extend_nil]
  | cons item items ih =>
    cases raw with
    | nil =>
      rw [matchItems]
      simp
    | cons x raw =>
      rw [matchItems, getElem?_append_cons]
      dsimp only
      cases item with
      | literal l =>
        dsimp only
        rw [ih, fill?, Option.map_map]
        simp only [Function.comp_def, Filled.extend_literal]
      | placeholder k =>
        dsimp only
        rw [fill?, spares_append, Json.ok_bind]
        cases accepted : k.accepts x
        · rfl
        · cases spared : decide (ahead < (x :: raw).length)
          · rfl
          · have behind := ih (before ++ [x]) raw (masked ++ [x]) (unmasked ++ [x])
            rw [List.length_append, List.append_assoc] at behind
            rw [if_pos rfl, if_pos rfl, Bool.and_self, if_pos rfl, Option.map_map]
            simp only [Function.comp_def, Filled.extend_taken]
            exact behind

end Groups

/-! ### Texts -/

/-- What is shown so far, and what is held back until something else is shown. -/
structure Emitter where
  masked : List Char := []
  unmasked : List Char := []
  pending : List Char := []
  started : Bool := false
  deriving DecidableEq, Repr

namespace Emitter

/-- Shows what was held back. -/
def start (out : Emitter) : Emitter :=
  if out.started then out
  else { out with masked := out.masked ++ out.pending, pending := [], started := true }

/-- Shows a text, part of which was taken from the raw text. -/
def emit (out : Emitter) (masked unmasked : List Char) : Emitter :=
  { out.start with
    masked := out.start.masked ++ masked
    unmasked := out.start.unmasked ++ unmasked }

/-- Shows what a step writes. -/
def write (out : Emitter) (step : Step) : Emitter :=
  out.emit (step.cells.map Cell.char) (step.cells.filterMap Cell.taken?)

/-- Holds a literal back. -/
def withhold (out : Emitter) (c : Char) : Emitter :=
  { out with pending := out.pending ++ [c] }

/-- What has been shown in the end. -/
def finish (out : Emitter) : Output :=
  ⟨out.masked, out.unmasked⟩

theorem started_write (out : Emitter) (step : Step) : (out.write step).started = true := by
  unfold Emitter.write emit start
  split
  next started => exact started
  next => rfl

/-- Steps are shown one behind the other. -/
theorem finish_foldl_write_of_started {out : Emitter} (started : out.started = true)
    (steps : List Step) :
    (steps.foldl Emitter.write out).finish =
      ⟨out.masked ++ (Output.ofSteps steps).masked,
        out.unmasked ++ (Output.ofSteps steps).unmasked⟩ := by
  induction steps generalizing out with
  | nil => simp [finish, Output.ofSteps]
  | cons step steps ih =>
    rw [List.foldl_cons, ih (out.started_write step)]
    simp [Emitter.write, emit, start, started, Output.ofSteps]

/-- What was held back is shown in front of the first step, and only if there is one. -/
theorem finish_foldl_write_withheld (pending : List Char) (step : Step) (steps : List Step) :
    ((step :: steps).foldl Emitter.write { pending }).finish =
      ⟨pending ++ (Output.ofSteps (step :: steps)).masked,
        (Output.ofSteps (step :: steps)).unmasked⟩ := by
  rw [List.foldl_cons, finish_foldl_write_of_started (started_write _ step)]
  simp [Emitter.write, emit, start, Output.ofSteps]

theorem finish_foldl_write (steps : List Step) :
    (steps.foldl Emitter.write {}).finish = .ofSteps steps := by
  cases steps with
  | nil => rfl
  | cons step steps => exact finish_foldl_write_withheld [] step steps

end Emitter

/-! ### Tokens -/

section Tokens

variable (tokens : List Token) (counts : List Nat) (input : List Char)

/-- Visits the tokens from an index on and the raw characters from a position on. -/
def applyFrom (index next : Nat) (out : Emitter) : Except Violation Output :=
  if index < tokens.length then
    match _left : input[next]? with
    | none => .ok out.finish
    | some current => do
      match ← item tokens index with
      | .group items =>
        let ahead ← item counts index
        match ← matchGroup input ahead items next with
        | some filled =>
          let behind ← position input filled.next
          applyFrom (index + 1) behind (out.emit filled.masked filled.unmasked)
        | none => applyFrom (index + 1) next out
      | .literal c =>
        if index = 0 ∧ out.started = false then applyFrom (index + 1) next (out.withhold c)
        else applyFrom (index + 1) next (out.emit [c] [])
      | .placeholder k =>
        if k.accepts current then
          applyFrom (index + 1) (next + 1) (out.emit [current] [current])
        else applyFrom index (next + 1) out
  else .ok out.finish
termination_by (tokens.length - index, input.length - next)
decreasing_by
  all_goals try exact Prod.Lex.left _ _ (by omega)
  have inside := (List.getElem?_eq_some_iff.mp _left).1
  exact Prod.Lex.right _ (by omega)

variable {tokens counts input} {back : List Token} {raw : List Char} {x : Char}

/-- One token is visited at one raw character. -/
theorem applyFrom_cons {token : Token} (front : List Token) (before : List Char) (out : Emitter) :
    tokens = front ++ token :: back → input = before ++ x :: raw →
    applyFrom tokens counts input front.length before.length out =
      match token with
      | .group items => do
        let ahead ← item counts front.length
        match ← matchGroup input ahead items before.length with
        | some filled =>
          let behind ← position input filled.next
          applyFrom tokens counts input (front.length + 1) behind
            (out.emit filled.masked filled.unmasked)
        | none => applyFrom tokens counts input (front.length + 1) before.length out
      | .literal c =>
        if front.length = 0 ∧ out.started = false then
          applyFrom tokens counts input (front.length + 1) before.length (out.withhold c)
        else applyFrom tokens counts input (front.length + 1) before.length (out.emit [c] [])
      | .placeholder k =>
        if k.accepts x then
          applyFrom tokens counts input (front.length + 1) (before.length + 1) (out.emit [x] [x])
        else applyFrom tokens counts input front.length (before.length + 1) out := by
  rintro rfl rfl
  rw [applyFrom, if_pos (by simp)]
  split
  next none_left =>
    rw [getElem?_append_cons] at none_left
    cases none_left
  next current left =>
    rw [getElem?_append_cons] at left
    cases left
    rw [item_append, Json.ok_bind]

/-- Nothing is visited behind the tokens or behind the raw text. -/
theorem applyFrom_of_ended {index next : Nat}
    (ended : tokens.length ≤ index ∨ input.length ≤ next) (out : Emitter) :
    applyFrom tokens counts input index next out = .ok out.finish := by
  rw [applyFrom]
  split
  next inside =>
    have behind : input.length ≤ next := ended.resolve_left (Nat.not_le.mpr inside)
    split
    next => rfl
    next left =>
      rw [List.getElem?_eq_none behind] at left
      cases left
  next => rfl

end Tokens

/-! ### Positions -/

section Positions

variable {tokens : List Token} {input : List Char} {p q : Position} {steps : List Step}

/-- A position that is reached in a template and a raw text, with a literal at the head behind
it. -/
structure Reached (tokens : List Token) (input : List Char) (p : Position) : Prop where
  tokens_suffix : p.tokens <:+ tokens
  raw_suffix : p.raw <:+ input
  headed : ∀ c back, tokens = .literal c :: back → p.tokens <:+ back

theorem Reached.of_move (reached : Reached tokens input p) (move : Move p steps q) :
    Reached tokens input q where
  tokens_suffix := move.tokens_suffix.trans reached.tokens_suffix
  raw_suffix := move.raw_suffix.trans reached.raw_suffix
  headed c back split := move.tokens_suffix.trans (reached.headed c back split)

/-- Visits what is left at a position. -/
def applyAt (tokens : List Token) (input : List Char) (p : Position) (out : Emitter) :
    Except Violation Output :=
  applyFrom tokens (countsBehind tokens) input (tokens.length - p.tokens.length)
    (input.length - p.raw.length) out

section Split

variable (front back : List Token) (token : Token) (before raw : List Char) (x : Char)
  (out : Emitter)

theorem applyAt_append :
    applyAt (front ++ back) (before ++ raw) ⟨back, raw⟩ out =
      applyFrom (front ++ back) (countsBehind (front ++ back)) (before ++ raw) front.length
        before.length out := by
  simp [applyAt]

/-- Behind one token more. -/
theorem applyAt_append_cons :
    applyAt (front ++ token :: back) (before ++ raw) ⟨back, raw⟩ out =
      applyFrom (front ++ token :: back) (countsBehind (front ++ token :: back)) (before ++ raw)
        (front.length + 1) before.length out := by
  have passed := applyAt_append (front ++ [token]) back before raw out
  rwa [List.append_assoc, List.length_append, List.singleton_append] at passed

end Split

/-- A move is visited without an access out of range, and its steps are shown. -/
theorem applyAt_of_move (move : Move p steps q) (reached : Reached tokens input p)
    (out : Emitter) :
    applyAt tokens input p out = applyAt tokens input q (steps.foldl Emitter.write out) := by
  obtain ⟨⟨front, rfl⟩, ⟨before, rfl⟩, headed⟩ := reached
  cases move with
  | @literal c x back raw =>
    have visible : ¬ (front.length = 0 ∧ out.started = false) := by
      rintro ⟨none, -⟩
      obtain rfl := List.length_eq_zero_iff.mp none
      exact absurd (headed c back rfl).length_le (by simp)
    rw [applyAt_append, applyFrom_cons front before out rfl rfl]
    dsimp only
    rw [if_neg visible]
    exact (applyAt_append_cons front back _ before _ _).symm
  | @take k x back raw accepted =>
    have behind := applyAt_append_cons front back (.placeholder k) (before ++ [x]) raw
      (out.emit [x] [x])
    rw [List.append_assoc, List.length_append, List.singleton_append] at behind
    rw [applyAt_append, applyFrom_cons front before out rfl rfl]
    dsimp only
    rw [if_pos accepted]
    exact behind.symm
  | @drop k x back raw rejected =>
    have behind := applyAt_append front (.placeholder k :: back) (before ++ [x]) raw out
    rw [List.append_assoc, List.length_append, List.singleton_append] at behind
    rw [applyAt_append, applyFrom_cons front before out rfl rfl]
    dsimp only
    rw [rejected]
    exact behind.symm
  | @commit items cells x back raw rest filled =>
    -- the next position is that behind the characters taken, which stand in front of `rest`
    have taken := eq_append_of_fill? filled
    have inside := position_append (before ++ cells.filterMap Cell.taken?) rest
    have behind := applyAt_append_cons front back (.group items)
      (before ++ cells.filterMap Cell.taken?) rest
      (out.emit (cells.map Cell.char) (cells.filterMap Cell.taken?))
    rw [List.append_assoc, ← taken, List.length_append] at inside behind
    rw [applyAt_append, applyFrom_cons front before out rfl rfl]
    dsimp only
    rw [item_countsBehind, Json.ok_bind, matchGroup, matchItems_append, Json.ok_bind, filled,
      Option.map_some]
    dsimp only [Filled.extend]
    rw [inside, Json.ok_bind]
    exact behind.symm
  | @skip items x back raw refused =>
    rw [applyAt_append, applyFrom_cons front before out rfl rfl]
    dsimp only
    rw [item_countsBehind, Json.ok_bind, matchGroup, matchItems_append, Json.ok_bind, refused]
    exact (applyAt_append_cons front back _ before _ _).symm

/-- So are any number of moves. -/
theorem applyAt_of_walk (walk : Walk p steps q) (reached : Reached tokens input p)
    (out : Emitter) :
    applyAt tokens input p out = applyAt tokens input q (steps.foldl Emitter.write out) := by
  induction walk generalizing out with
  | refl p => rfl
  | head move walk ih =>
    rw [applyAt_of_move move reached, ih (reached.of_move move), List.foldl_append]

/-- What is left at a position is visited up to the end. -/
theorem applyAt_eq_ok (reached : Reached tokens input p) (out : Emitter) :
    applyAt tokens input p out =
      .ok ((align p.tokens p.raw).foldl Emitter.write out).finish := by
  obtain ⟨q, ended, walk⟩ := exists_walk_to_end p
  rw [applyAt_of_walk walk reached, applyAt, applyFrom_of_ended]
  exact ended.imp (fun none => by simp [none]) (fun none => by simp [none])

end Positions

/-! ### Templates -/

/-- The output of a template on raw text. -/
def applyTokens (template : Template) (raw : List Char) : Except Violation Output := do
  let counts ← mandatoryAfter template.tokens
  applyFrom template.tokens counts raw 0 0 {}

/-- A literal at the head is shown with the first step that is made behind it. -/
theorem finish_withheld (c : Char) (back : List Token) (x : Char) (raw : List Char) :
    ((align back (x :: raw)).foldl Emitter.write { pending := [c] }).finish =
      InputMask.applyTokens (.literal c :: back) (x :: raw) := by
  rw [InputMask.applyTokens, align]
  cases align back (x :: raw) with
  | nil => rfl
  | cons step steps => exact Emitter.finish_foldl_write_withheld [c] step steps

/-- Without a literal at the head all steps are shown. -/
theorem shown_of_headed {tokens : List Token} (headed : ∀ c back, tokens ≠ .literal c :: back)
    (steps : List Step) : shown tokens steps = steps := by
  unfold shown
  split
  next c back _ => exact absurd rfl (headed c back)
  next => rfl

/-- A template is applied without an access out of range. -/
theorem applyTokens_eq_ok (template : Template) (raw : List Char) :
    applyTokens template raw = .ok (template.apply raw) := by
  obtain ⟨tokens, minLength, maxLength⟩ := template
  rw [applyTokens, mandatoryAfter_eq_ok, Json.ok_bind, mandatoryAfter_eq, Template.apply]
  dsimp only
  by_cases headed : ∀ c back, tokens ≠ .literal c :: back
  · have reached : Reached tokens raw ⟨tokens, raw⟩ :=
      ⟨List.suffix_refl _, List.suffix_refl _, fun c back split => (headed c back split).elim⟩
    rw [InputMask.applyTokens, shown_of_headed headed, ← Emitter.finish_foldl_write]
    exact (applyAt_append [] tokens [] raw {}).symm.trans (applyAt_eq_ok reached {})
  · push Not at headed
    obtain ⟨c, back, rfl⟩ := headed
    cases raw with
    | nil => exact applyFrom_of_ended (.inr (Nat.zero_le _)) {}
    | cons x raw =>
      have reached : Reached (.literal c :: back) (x :: raw) ⟨back, x :: raw⟩ := by
        refine ⟨List.suffix_cons _ _, List.suffix_refl _, fun d others split => ?_⟩
        obtain ⟨-, rfl⟩ := List.cons_eq_cons.mp split
        exact List.suffix_refl _
      refine (applyFrom_cons [] [] {} rfl rfl).trans ?_
      rw [← finish_withheld, ← applyAt_eq_ok reached]
      exact (applyAt_append_cons [] back _ [] _ _).symm

end InputMask.Checked
