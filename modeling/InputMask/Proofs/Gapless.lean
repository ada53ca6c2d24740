import InputMask.Proofs.Written

/-!
# Characters taken without a gap

A mandatory placeholder drops the characters in front of the first that it accepts. Where it
accepts the very next one nothing is dropped: the characters taken stand in the raw text one right
behind the other, and what is left stands behind them.

## Main definitions

* `Gapless`: the characters stand without a gap, from a position on

## Main results

* `Gapless.drop_eq`: what is taken and what is left make up the raw text
* `Passage.Sound.gapless`: a token takes its characters without a gap unless it drops some
-/

namespace InputMask

/-- The characters stand in the raw text without a gap, from a position on. -/
def Gapless (raw : List Char) (start : Nat) (picks : List Pick) : Prop :=
  picks.map Pick.position = List.range' start picks.length ∧
    ∀ pick ∈ picks, raw[pick.position]? = some pick.char

section Gapless

variable {raw : List Char} {ahead start next : Nat} {pick : Pick} {picks later : List Pick}
  {passage : Passage}

theorem gapless_nil : Gapless raw start [] := by
  simp [Gapless]

theorem gapless_cons_iff :
    Gapless raw start (pick :: picks) ↔
      pick.position = start ∧ raw[start]? = some pick.char ∧ Gapless raw (start + 1) picks := by
  simp only [Gapless, List.map_cons, List.length_cons, List.range'_succ, List.cons.injEq,
    List.forall_mem_cons]
  constructor
  · rintro ⟨⟨rfl, positions⟩, here, there⟩
    exact ⟨rfl, here, positions, there⟩
  · rintro ⟨rfl, here, positions, there⟩
    exact ⟨⟨rfl, positions⟩, here, there⟩

theorem Gapless.resume_eq (gapless : Gapless raw start picks) :
    resume start picks = start + picks.length := by
  induction picks generalizing start with
  | nil => rfl
  | cons pick picks ih =>
    obtain ⟨rfl, -, behind⟩ := gapless_cons_iff.mp gapless
    rw [resume_cons, ih behind, List.length_cons]
    omega

theorem Gapless.append (gapless : Gapless raw start picks)
    (behind : Gapless raw (resume start picks) later) : Gapless raw start (picks ++ later) := by
  induction picks generalizing start with
  | nil => exact behind
  | cons pick picks ih =>
    obtain ⟨rfl, here, rest⟩ := gapless_cons_iff.mp gapless
    rw [resume_cons] at behind
    exact gapless_cons_iff.mpr ⟨rfl, here, ih rest behind⟩

/-- What is taken and what is left behind make up the raw text. -/
theorem Gapless.drop_eq (gapless : Gapless raw start picks) :
    raw.drop start = picks.map Pick.char ++ raw.drop (resume start picks) := by
  induction picks generalizing start with
  | nil => rfl
  | cons pick picks ih =>
    obtain ⟨rfl, here, behind⟩ := gapless_cons_iff.mp gapless
    obtain ⟨bound, char⟩ := List.getElem?_eq_some_iff.mp here
    rw [List.drop_eq_getElem_cons bound, char, ih behind, resume_cons]
    rfl

/-- What is taken stands right at the start. -/
theorem Gapless.map_char_eq_take (gapless : Gapless raw start picks) :
    picks.map Pick.char = (raw.drop start).take picks.length := by
  rw [gapless.drop_eq, List.take_left' (List.length_map _)]

/-- Unless it drops a character, a token takes its characters without a gap. -/
theorem Passage.Sound.gapless (sound : passage.Sound raw ahead next)
    (first : ∀ k c, passage.token = .placeholder k → raw[next]? = some c → k.accepts c = true) :
    Gapless raw next passage.picks := by
  cases passage with
  | literal c => exact gapless_nil
  | skipped items => exact gapless_nil
  | emitted items picks =>
    obtain ⟨-, positions, there⟩ := sound
    have count := congrArg List.length positions
    rw [List.length_map, List.length_range'] at count
    exact ⟨count ▸ positions, there⟩
  | placeholder k pick =>
    obtain ⟨low, there, -, before⟩ := sound
    obtain ⟨bound, -⟩ := List.getElem?_eq_some_iff.mp there
    have no_gap : ¬ next < pick.position := by
      intro gap
      have here : raw[next]? = some raw[next] := List.getElem?_eq_getElem (Nat.lt_trans gap bound)
      have rejected := before next _ (Nat.le_refl _) gap here
      rw [first k _ rfl here] at rejected
      cases rejected
    have position : pick.position = next := by omega
    exact gapless_cons_iff.mpr ⟨position, position ▸ there, gapless_nil⟩

end Gapless

end InputMask
