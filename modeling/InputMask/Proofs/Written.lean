import InputMask.Proofs.Passages

/-!
# What an alignment writes

The output of a template is read off its alignment. The unmasked text has the characters taken,
in the order they stand in the raw text, one for each placeholder slot. The masked text is the
slots written out with them. Only a literal at the head of the template is held back as long as
there is nothing else to write.

## Main definitions

* `written`: the output of an alignment
* `Ascending`, `Suited`: how the characters taken stand, and what they are taken for

## Main results

* `IsAlignment.applyTokens_eq`: the output of tokens is what their alignment writes
* `apply_eq_written`: the unique alignment, and what it takes and writes
-/

namespace InputMask

/-- Whether the token is a group that is skipped. -/
def Passage.isSkipped : Passage → Bool
  | skipped _ => true
  | _ => false

/-- Whether a literal at the head of the template is all that there is to write. -/
def loneLiteral : List Passage → Bool
  | .literal _ :: passages => passages.all Passage.isSkipped
  | _ => false

/-- The output of an alignment: the slots written out with the characters taken. A literal at
the head of the template is withheld when there is nothing else. -/
def written (passages : List Passage) : Output :=
  let chars := (passages.flatMap Passage.picks).map Pick.char
  let cells := cellsOf (passages.flatMap Passage.slots) chars
  ⟨if loneLiteral passages then [] else cells.map Cell.char, chars⟩

/-- The characters stand in ascending order, from a position on. -/
def Ascending (start : Nat) (picks : List Pick) : Prop :=
  picks.Pairwise (·.position < ·.position) ∧ ∀ pick ∈ picks, start ≤ pick.position

/-- The characters suit the placeholders they are taken for and stand where they should. -/
def Suited (raw : List Char) (slots : List Slot) (picks : List Pick) : Prop :=
  List.Forall₂ (fun k pick => k.accepts pick.char = true ∧ raw[pick.position]? = some pick.char)
    (slotClasses slots) picks

/-! ### What is taken -/

section Taken

variable {raw : List Char} {ahead next start : Nat} {items : List Slot} {pick : Pick}
  {picks later : List Pick} {tokens : List Token} {passage : Passage} {passages : List Passage}

theorem ascending_nil : Ascending start [] := by
  simp [Ascending]

theorem ascending_cons_iff :
    Ascending start (pick :: picks) ↔
      start ≤ pick.position ∧ Ascending (pick.position + 1) picks := by
  simp only [Ascending, List.pairwise_cons, List.forall_mem_cons, Nat.succ_le_iff]
  constructor
  · rintro ⟨⟨above, sorted⟩, low, -⟩
    exact ⟨low, sorted, above⟩
  · rintro ⟨low, sorted, above⟩
    refine ⟨⟨above, sorted⟩, low, fun p member => ?_⟩
    exact Nat.le_of_lt (Nat.lt_of_le_of_lt low (above p member))

/-- What is taken later stands behind the last character taken. -/
theorem Ascending.append (sorted : Ascending start picks)
    (behind : Ascending (resume start picks) later) : Ascending start (picks ++ later) := by
  induction picks generalizing start with
  | nil => exact behind
  | cons pick picks ih =>
    rw [ascending_cons_iff] at sorted
    rw [resume_cons] at behind
    exact ascending_cons_iff.mpr ⟨sorted.1, ih sorted.2 behind⟩

/-- Consecutive positions ascend. -/
theorem ascending_of_range' {count : Nat}
    (positions : picks.map Pick.position = List.range' next count) : Ascending next picks := by
  constructor
  · have sorted := List.pairwise_lt_range' (s := next) (n := count)
    rw [← positions] at sorted
    exact List.pairwise_map.mp sorted
  · intro pick member
    have among := List.mem_map_of_mem (f := Pick.position) member
    rw [positions] at among
    exact (List.mem_range'_1.mp among).1

theorem Passage.Sound.ascending (sound : passage.Sound raw ahead next) :
    Ascending next passage.picks := by
  cases passage with
  | literal c => exact ascending_nil
  | placeholder k pick => exact ascending_cons_iff.mpr ⟨sound.1, ascending_nil⟩
  | emitted items picks => exact ascending_of_range' sound.2.1
  | skipped items => exact ascending_nil

/-- An emitted group takes the very characters that made it fit. -/
theorem Fits.suited (fits : Fits raw ahead next items)
    (positions : picks.map Pick.position = List.range' next (slotClasses items).length)
    (there : ∀ pick ∈ picks, raw[pick.position]? = some pick.char) : Suited raw items picks := by
  induction items generalizing next picks with
  | nil =>
    obtain rfl : picks = [] := by simpa using positions
    exact .nil
  | cons item items ih =>
    cases item with
    | literal c => exact ih (fits_literal_iff.mp fits).2 positions there
    | placeholder k =>
      obtain ⟨⟨c, here, accepted⟩, -, fits⟩ := fits_placeholder_iff.mp fits
      cases picks with
      | nil => simp at positions
      | cons pick picks =>
        rw [slotClasses_placeholder, List.length_cons, List.range'_succ] at positions
        obtain ⟨at_next, behind⟩ := List.cons.inj positions
        have found := there pick (by simp)
        obtain rfl : pick.char = c := by
          rw [at_next, here] at found
          exact (Option.some.inj found).symm
        exact .cons ⟨accepted, found⟩ (ih fits behind fun p member => there p (by simp [member]))

theorem Passage.Sound.suited (sound : passage.Sound raw ahead next) :
    Suited raw passage.slots passage.picks := by
  cases passage with
  | literal c => exact .nil
  | placeholder k pick => exact .cons ⟨sound.2.2.1, sound.2.1⟩ .nil
  | emitted items picks => exact sound.1.suited sound.2.1 sound.2.2
  | skipped items => exact .nil

theorem IsAlignment.ascending (aligned : IsAlignment raw start tokens passages) :
    Ascending start (passages.flatMap Passage.picks) := by
  induction aligned using IsAlignment.induction with
  | stop start tokens stuck => exact ascending_nil
  | pass start passage tokens passages left sound aligned ih => exact sound.ascending.append ih

theorem IsAlignment.suited_of_mem (aligned : IsAlignment raw start tokens passages)
    (member : passage ∈ passages) : Suited raw passage.slots passage.picks := by
  obtain ⟨before, after, cut⟩ := List.append_of_mem member
  exact (aligned.sound before passage after cut).suited

theorem suited_flatMap (suited : ∀ passage ∈ passages, Suited raw passage.slots passage.picks) :
    Suited raw (passages.flatMap Passage.slots) (passages.flatMap Passage.picks) := by
  induction passages with
  | nil => exact .nil
  | cons passage passages ih =>
    have here := suited passage (by simp)
    have behind := ih fun p member => suited p (by simp [member])
    rw [List.flatMap_cons, List.flatMap_cons, Suited, slotClasses_append]
    exact List.rel_append here behind

theorem Suited.length_chars (suited : Suited raw items picks) :
    (slotClasses items).length = (picks.map Pick.char).length := by
  rw [List.length_map]
  exact List.Forall₂.length_eq suited

end Taken

/-! ### What is written -/

section Written

variable {raw : List Char} {start : Nat} {tokens : List Token} {passages : List Passage}

/-- The cells of the steps are the slots written out with the characters taken. -/
theorem flatMap_cells_steps
    (suited : ∀ passage ∈ passages, Suited raw passage.slots passage.picks) :
    (passages.filterMap Passage.step?).flatMap Step.cells =
      cellsOf (passages.flatMap Passage.slots)
        ((passages.flatMap Passage.picks).map Pick.char) := by
  induction passages with
  | nil => rfl
  | cons passage passages ih =>
    have here := (suited passage (by simp)).length_chars
    have behind := ih fun p member => suited p (by simp [member])
    rw [List.flatMap_cons, List.flatMap_cons, List.map_append, cellsOf_append here, ← behind]
    cases passage <;> simp [Passage.step?, List.filterMap_cons, Step.cells, Passage.slots,
      Passage.picks]

theorem filterMap_step?_eq_nil_iff :
    passages.filterMap Passage.step? = [] ↔ passages.all Passage.isSkipped = true := by
  induction passages with
  | nil => simp
  | cons passage passages ih =>
    cases passage <;> simp [List.filterMap_cons, Passage.step?, Passage.isSkipped, ih]

/-- Steps are withheld exactly when a literal at the head is all there is. -/
theorem IsAlignment.shown_steps (aligned : IsAlignment raw start tokens passages) :
    shown tokens (passages.filterMap Passage.step?) =
      if loneLiteral passages then [] else passages.filterMap Passage.step? := by
  -- both sides look at the head only: of the tokens on the left, of the passages on the right
  cases passages with
  | nil => cases tokens with
    | nil => rfl
    | cons token tokens => cases token <;> rfl
  | cons passage passages =>
    cases tokens with
    | nil => exact absurd aligned not_isAlignment_nil_cons
    | cons token tokens =>
      obtain ⟨rfl, -⟩ := isAlignment_cons_iff.mp aligned
      cases passage with
      | literal c =>
        have first : (Passage.literal c :: passages).filterMap Passage.step? =
            .literal c :: passages.filterMap Passage.step? := rfl
        rw [loneLiteral, first, Passage.token]
        by_cases alone : passages.all Passage.isSkipped = true
        · simp [alone, filterMap_step?_eq_nil_iff.mpr alone, shown]
        · obtain ⟨step, steps, more⟩ :=
            List.exists_cons_of_ne_nil (mt filterMap_step?_eq_nil_iff.mp alone)
          simp [alone, more, shown]
      | _ => rfl

/-- A literal is only alone when no character was taken. -/
theorem picks_eq_nil_of_loneLiteral (alone : loneLiteral passages = true) :
    passages.flatMap Passage.picks = [] := by
  match passages with
  | .literal c :: passages =>
    rw [loneLiteral, List.all_eq_true] at alone
    rw [List.flatMap_cons, Passage.picks, List.nil_append, List.flatMap_eq_nil_iff]
    intro passage member
    have skipped := alone passage member
    cases passage with
    | skipped items => rfl
    | _ => cases skipped

/-- The output of the tokens is what their alignment writes. -/
theorem IsAlignment.applyTokens_eq (aligned : IsAlignment raw 0 tokens passages) :
    applyTokens tokens raw = written passages := by
  obtain ⟨others, aligned', steps⟩ := exists_isAlignment raw 0 tokens
  obtain rfl := aligned.unique aligned'
  have suited := suited_flatMap fun p member => aligned.suited_of_mem member
  have cells := flatMap_cells_steps fun p member => aligned.suited_of_mem member
  rw [List.drop_zero] at steps
  rw [applyTokens, steps, aligned.shown_steps, Output.ofSteps, written]
  by_cases alone : loneLiteral passages = true
  · simp [alone, picks_eq_nil_of_loneLiteral alone]
  · simp [alone, cells, filterMap_taken?_cellsOf suited.length_chars]

end Written

/-- For every template and raw text there is exactly one alignment. It takes its characters at
ascending positions, each suited to its slot, and the output of the template is the slots
written out with them, a literal at the head withheld if there is nothing else. -/
theorem apply_eq_written (text raw : List Char) :
    ∃ passages, IsAlignment raw 0 (Template.ofText text).tokens passages ∧
      (∀ other, IsAlignment raw 0 (Template.ofText text).tokens other → other = passages) ∧
      Ascending 0 (passages.flatMap Passage.picks) ∧
      Suited raw (passages.flatMap Passage.slots) (passages.flatMap Passage.picks) ∧
      (Template.ofText text).apply raw = written passages := by
  obtain ⟨passages, aligned, -⟩ := exists_isAlignment raw 0 (Template.ofText text).tokens
  refine ⟨passages, aligned, fun other aligned' => aligned'.unique aligned, aligned.ascending,
    suited_flatMap fun p member => aligned.suited_of_mem member, aligned.applyTokens_eq⟩

end InputMask
