import InputMask.Alignment
import InputMask.Proofs.Placeholders
import Mathlib.Data.List.Forall2

/-!
# Filling a group

`fill?` goes through the items of a group one by one. Here it is described from outside:
a group is filled exactly when characters at the start of the raw text suit its placeholders
in order, what is left behind them is enough for the mandatory placeholders that follow the
group, and something is left for the literals it ends in.

## Main definitions

* `cellsOf`: items written out with given characters

## Main results

* `fill?_eq_some_iff`: when a group is filled, what it writes and what it leaves
-/

namespace InputMask

@[simp] theorem Cell.taken?_literal (c : Char) : (literal c).taken? = none := rfl

@[simp] theorem Cell.taken?_taken (c : Char) : (taken c).taken? = some c := rfl

@[simp] theorem Cell.char_literal (c : Char) : (literal c).char = c := rfl

@[simp] theorem Cell.char_taken (c : Char) : (taken c).char = c := rfl

/-- Items written out, each placeholder with the next of the given characters. -/
def cellsOf : List Slot → List Char → List Cell
  | .literal c :: items, chars => .literal c :: cellsOf items chars
  | .placeholder _ :: items, x :: chars => .taken x :: cellsOf items chars
  | _, _ => []

variable {ahead : Nat} {items : List Slot} {raw rest : List Char} {cells : List Cell}

@[simp] theorem cellsOf_nil (chars : List Char) : cellsOf [] chars = [] := rfl

@[simp] theorem cellsOf_literal (c : Char) (chars : List Char) :
    cellsOf (.literal c :: items) chars = .literal c :: cellsOf items chars := rfl

@[simp] theorem cellsOf_placeholder (k : CharClass) (x : Char) (chars : List Char) :
    cellsOf (.placeholder k :: items) (x :: chars) = .taken x :: cellsOf items chars := rfl

/-- Induction over items and the characters for their placeholders. -/
@[elab_as_elim]
theorem slots_induction
    {motive : ∀ (items : List Slot) (chars : List Char),
      (slotClasses items).length = chars.length → Prop}
    (nil : motive [] [] rfl)
    (literal : ∀ c items chars enough, motive items chars enough →
      motive (.literal c :: items) chars enough)
    (placeholder : ∀ k items x chars enough, motive items chars enough →
      motive (.placeholder k :: items) (x :: chars) (congrArg Nat.succ enough))
    (items : List Slot) (chars : List Char) (enough : (slotClasses items).length = chars.length) :
    motive items chars enough := by
  induction items generalizing chars with
  | nil =>
    obtain rfl : chars = [] := List.length_eq_zero_iff.mp enough.symm
    exact nil
  | cons item items ih =>
    cases item with
    | literal c => exact literal c items chars enough (ih chars enough)
    | placeholder k =>
      cases chars with
      | nil => cases enough
      | cons x chars =>
        exact placeholder k items x chars (Nat.succ.inj enough) (ih chars (Nat.succ.inj enough))

theorem cellsOf_append {others : List Slot} {chars later : List Char}
    (enough : (slotClasses items).length = chars.length) :
    cellsOf (items ++ others) (chars ++ later) = cellsOf items chars ++ cellsOf others later := by
  induction items, chars, enough using slots_induction with
  | nil => rfl
  | literal c items chars _ ih => exact congrArg (.literal c :: ·) ih
  | placeholder k items x chars _ ih => exact congrArg (.taken x :: ·) ih

theorem length_cellsOf {chars : List Char} (enough : (slotClasses items).length = chars.length) :
    (cellsOf items chars).length = items.length := by
  induction items, chars, enough using slots_induction with
  | nil => rfl
  | literal c items chars _ ih => exact congrArg Nat.succ ih
  | placeholder k items x chars _ ih => exact congrArg Nat.succ ih

/-- The characters that are written into the placeholders are the ones taken. -/
theorem filterMap_taken?_cellsOf {chars : List Char}
    (enough : (slotClasses items).length = chars.length) :
    (cellsOf items chars).filterMap Cell.taken? = chars := by
  induction items, chars, enough using slots_induction with
  | nil => rfl
  | literal c items chars _ ih => exact ih
  | placeholder k items x chars _ ih => exact congrArg (x :: ·) ih

@[simp] theorem fill?_nil : fill? ahead [] raw = some ([], raw) := by
  simp [fill?]

@[simp] theorem fill?_cons_nil (item : Slot) : fill? ahead (item :: items) [] = none := by
  simp [fill?]

theorem fill?_literal_eq_some_iff {c : Char} :
    fill? ahead (.literal c :: items) raw = some (cells, rest) ↔
      raw ≠ [] ∧ ∃ behind, fill? ahead items raw = some (behind, rest) ∧
        cells = .literal c :: behind := by
  cases raw with
  | nil => simp
  | cons x raw =>
    simp only [fill?, Option.map_eq_some_iff, Prod.exists, Prod.mk.injEq]
    aesop

theorem fill?_placeholder_eq_some_iff {k : CharClass} :
    fill? ahead (.placeholder k :: items) raw = some (cells, rest) ↔
      ∃ x left, raw = x :: left ∧ k.accepts x = true ∧ ahead ≤ left.length ∧
        ∃ behind, fill? ahead items left = some (behind, rest) ∧
          cells = .taken x :: behind := by
  cases raw with
  | nil => simp
  | cons x left =>
    simp only [fill?, Option.ite_none_right_eq_some, Bool.and_eq_true, decide_eq_true_eq,
      List.length_cons, Nat.lt_succ_iff, Option.map_eq_some_iff, Prod.exists, Prod.mk.injEq]
    aesop

/-- A placeholder is never the literal that items end in. -/
theorem getLast?_placeholder_cons {k : CharClass} {c : Char} :
    (.placeholder k :: items).getLast? = some (.literal c) ↔
      items.getLast? = some (.literal c) := by
  rw [List.getLast?_cons]
  cases items.getLast? with
  | none => simp
  | some last => simp

/-- A group is filled exactly when some characters at the start of the raw text suit its
placeholders in order, what is left can spare them, and something is left for the literals
at its end. -/
theorem fill?_eq_some_iff :
    fill? ahead items raw = some (cells, rest) ↔
      ∃ picked, raw = picked ++ rest ∧ cells = cellsOf items picked ∧
        List.Forall₂ (fun k x => k.accepts x = true) (slotClasses items) picked ∧
        (picked ≠ [] → ahead ≤ rest.length) ∧
        (∀ c, items.getLast? = some (.literal c) → rest ≠ []) := by
  -- one item after the other; `rest` stays what the whole group leaves
  induction items generalizing raw cells with
  | nil =>
    simp only [fill?_nil, Option.some.injEq, Prod.mk.injEq, cellsOf_nil, slotClasses_nil,
      List.forall₂_nil_left_iff]
    constructor
    · rintro ⟨rfl, rfl⟩
      exact ⟨[], by simp⟩
    · rintro ⟨picked, rfl, rfl, rfl, -, -⟩
      simp
  | cons item items ih =>
    cases item with
    | literal c =>
      rw [fill?_literal_eq_some_iff]
      constructor
      · rintro ⟨left, behind, filled, rfl⟩
        obtain ⟨picked, rfl, rfl, suits, spared, ends⟩ := ih.mp filled
        refine ⟨picked, rfl, rfl, suits, spared, fun d last => ?_⟩
        cases items with
        | nil =>
          obtain rfl : picked = [] := by simpa using suits
          simpa using left
        | cons item items => exact ends d (by simpa using last)
      · rintro ⟨picked, rfl, rfl, suits, spared, ends⟩
        have left : picked ++ rest ≠ [] := by
          -- a group that takes nothing ends in a literal, which needs a character left
          intro empty
          obtain ⟨rfl, rfl⟩ := List.append_eq_nil_iff.mp empty
          have none_asked := List.forall₂_nil_right_iff.mp suits
          obtain ⟨d, last⟩ := exists_getLast?_literal (List.cons_ne_nil _ _) none_asked
          exact ends d last rfl
        refine ⟨left, _, ih.mpr ⟨picked, rfl, rfl, suits, spared, fun d last => ?_⟩, rfl⟩
        exact ends d (by simp [List.getLast?_cons, last])
    | placeholder k =>
      rw [fill?_placeholder_eq_some_iff]
      simp only [getLast?_placeholder_cons]
      constructor
      · rintro ⟨x, left, rfl, accepted, spare, behind, filled, rfl⟩
        obtain ⟨picked, rfl, rfl, suits, spared, ends⟩ := ih.mp filled
        refine ⟨x :: picked, rfl, rfl, .cons accepted suits, fun _ => ?_, ends⟩
        -- the guard is checked at every placeholder, and the last check is the strictest
        cases picked with
        | nil => simpa using spare
        | cons y picked => exact spared (by simp)
      · rintro ⟨picked, rfl, rfl, suits, spared, ends⟩
        obtain ⟨x, picked, accepted, suits', rfl⟩ := List.forall₂_cons_left_iff.mp suits
        have spare : ahead ≤ rest.length := spared (by simp)
        have filled := ih.mpr ⟨picked, rfl, rfl, suits', fun _ => spare, ends⟩
        refine ⟨x, picked ++ rest, rfl, accepted, ?_, _, filled, rfl⟩
        rw [List.length_append]
        omega

/-- Whatever is taken into a group suits one of its placeholders. -/
theorem exists_accepts_of_mem {ks : List CharClass} {picked : List Char} {x : Char}
    (suits : List.Forall₂ (fun k x => k.accepts x = true) ks picked) (member : x ∈ picked) :
    ∃ k ∈ ks, k.accepts x = true := by
  induction suits with
  | nil => simp at member
  | cons accepted _ ih =>
    obtain rfl | member := List.mem_cons.mp member
    · exact ⟨_, by simp, accepted⟩
    · obtain ⟨k, behind, accepted⟩ := ih member
      exact ⟨k, by simp [behind], accepted⟩

/-- What a filled group has taken stands in front of what it leaves. -/
theorem eq_append_of_fill? (filled : fill? ahead items raw = some (cells, rest)) :
    raw = cells.filterMap Cell.taken? ++ rest := by
  obtain ⟨picked, rfl, rfl, suited, -⟩ := fill?_eq_some_iff.mp filled
  rw [filterMap_taken?_cellsOf suited.length_eq]

/-- A filled group leaves an end of the raw text. -/
theorem suffix_of_fill? (filled : fill? ahead items raw = some (cells, rest)) :
    rest <:+ raw :=
  ⟨_, (eq_append_of_fill? filled).symm⟩

end InputMask
