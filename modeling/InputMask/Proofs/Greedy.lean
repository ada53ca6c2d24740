import InputMask.Proofs.Placeholders
import Mathlib.Data.List.Forall2
import Mathlib.Order.Bounds.Defs

/-!
# Filling classes greedily

A row of placeholders drops the characters that the next one does not accept and takes the
first that it does. No other way of choosing characters fills more of them.

## Main definitions

* `Embeds`: the classes can be filled, in order, with some of the characters of a text
* `greedy`: the characters that are taken

## Main results

* `isGreatest_length_greedy`: no choice of characters fills more of the classes
* `greedy_append_greedy`: dropping what was not taken changes nothing for what comes later
-/

namespace InputMask

/-- The classes can be filled, in order, with some of the characters of the text. -/
def Embeds (ks : List CharClass) (text : List Char) : Prop :=
  List.SublistForall₂ (fun k x => k.accepts x = true) ks text

namespace Embeds

variable {k : CharClass} {ks ls : List CharClass} {x : Char} {text other : List Char}

@[simp] theorem nil : Embeds [] text :=
  List.SublistForall₂.nil

@[simp] theorem not_cons_nil : ¬ Embeds (k :: ks) [] := nofun

/-- Leaving out characters only makes it harder to fill the classes. -/
theorem mono (fits : Embeds ks text) (within : text.Sublist other) : Embeds ks other := by
  obtain ⟨picked, suits, sublist⟩ := List.sublistForall₂_iff.mp fits
  exact List.sublistForall₂_iff.mpr ⟨picked, suits, sublist.trans within⟩

/-- Two texts, one behind the other, fill what each of them fills. -/
theorem append (fits : Embeds ks text) (behind : Embeds ls other) :
    Embeds (ks ++ ls) (text ++ other) := by
  obtain ⟨picked, suits, sublist⟩ := List.sublistForall₂_iff.mp fits
  obtain ⟨later, suits', sublist'⟩ := List.sublistForall₂_iff.mp behind
  exact List.sublistForall₂_iff.mpr
    ⟨picked ++ later, List.rel_append suits suits', sublist.append sublist'⟩

theorem length_le (fits : Embeds ks text) : ks.length ≤ text.length := by
  obtain ⟨picked, suits, sublist⟩ := List.sublistForall₂_iff.mp fits
  rw [suits.length_eq]
  exact sublist.length_le

theorem tail (fits : Embeds (k :: ks) text) : Embeds ks text := by
  obtain ⟨picked, suits, sublist⟩ := List.sublistForall₂_iff.mp fits
  obtain ⟨x, later, -, suits', rfl⟩ := List.forall₂_cons_left_iff.mp suits
  exact List.sublistForall₂_iff.mpr ⟨later, suits', (List.sublist_cons_self x later).trans sublist⟩

/-- Taking the first character that is accepted loses nothing. -/
theorem cons_iff_of_accepts (accepted : k.accepts x = true) :
    Embeds (k :: ks) (x :: text) ↔ Embeds ks text := by
  constructor
  · intro fits
    cases fits with
    | cons _ fits => exact fits
    | cons_right fits =>
      exact tail fits
  · intro fits
    exact .cons accepted fits

theorem cons_iff_of_rejects (rejected : k.accepts x = false) :
    Embeds (k :: ks) (x :: text) ↔ Embeds (k :: ks) text := by
  constructor
  · intro fits
    cases fits with
    | cons accepted _ => simp [rejected] at accepted
    | cons_right fits => exact fits
  · intro fits
    exact .cons_right fits

/-- Characters that the first class rejects are of no use. -/
theorem append_left_iff_of_rejects (rejected : ∀ x ∈ other, k.accepts x = false) :
    Embeds (k :: ks) (other ++ text) ↔ Embeds (k :: ks) text := by
  induction other with
  | nil => rfl
  | cons x other ih =>
    have first : k.accepts x = false := rejected x (by simp)
    rw [List.cons_append, cons_iff_of_rejects first]
    exact ih fun y member => rejected y (by simp [member])

end Embeds

/-- The characters that a row of placeholders takes, dropping those that the next one does not
accept. -/
def greedy : List CharClass → List Char → List Char
  | [], _ => []
  | _ :: _, [] => []
  | k :: ks, x :: text => if k.accepts x then x :: greedy ks text else greedy (k :: ks) text

section Greedy

variable {k : CharClass} {ks : List CharClass} {x : Char} {text later : List Char}

@[simp] theorem greedy_nil : greedy [] text = [] := by
  cases text <;> rfl

@[simp] theorem greedy_nil_right : greedy ks [] = [] := by
  cases ks <;> rfl

theorem greedy_of_accepts (accepted : k.accepts x = true) :
    greedy (k :: ks) (x :: text) = x :: greedy ks text := by
  simp [greedy, accepted]

theorem greedy_of_rejects (rejected : k.accepts x = false) :
    greedy (k :: ks) (x :: text) = greedy (k :: ks) text := by
  simp [greedy, rejected]

/-- The characters taken stand in the text, in the order in which they are taken. -/
theorem greedy_sublist (ks : List CharClass) (text : List Char) :
    (greedy ks text).Sublist text := by
  fun_induction greedy ks text with
  | case1 => exact List.nil_sublist _
  | case2 => exact List.Sublist.refl _
  | case3 k ks x text accepted ih => exact ih.cons_cons x
  | case4 k ks x text rejected ih => exact ih.cons x

/-- The characters taken suit as many of the classes, from the first one on. -/
theorem forall₂_greedy (ks : List CharClass) (text : List Char) :
    List.Forall₂ (fun k x => k.accepts x = true) (ks.take (greedy ks text).length)
      (greedy ks text) := by
  fun_induction greedy ks text with
  | case1 => exact .nil
  | case2 => exact .nil
  | case3 k ks x text accepted ih =>
    rw [List.length_cons, List.take_succ_cons]
    exact .cons accepted ih
  | case4 k ks x text rejected ih => exact ih

theorem length_greedy_le (ks : List CharClass) (text : List Char) :
    (greedy ks text).length ≤ ks.length := by
  have same := (forall₂_greedy ks text).length_eq
  rw [List.length_take] at same
  omega

/-- Classes that any choice of characters fills are filled by those taken. -/
theorem le_length_greedy {count : Nat} (within : count ≤ ks.length)
    (fits : Embeds (ks.take count) text) : count ≤ (greedy ks text).length := by
  -- the first character that a class accepts can be exchanged for the one chosen for it
  fun_induction greedy ks text generalizing count with
  | case1 => exact within
  | case2 k ks =>
    cases count with
    | zero => exact Nat.zero_le _
    | succ count => exact absurd fits Embeds.not_cons_nil
  | case3 k ks x text accepted ih =>
    cases count with
    | zero => exact Nat.zero_le _
    | succ count =>
      rw [List.take_succ_cons, Embeds.cons_iff_of_accepts accepted] at fits
      exact Nat.succ_le_succ (ih (Nat.le_of_succ_le_succ within) fits)
  | case4 k ks x text rejected ih =>
    apply ih within
    cases count with
    | zero => exact Embeds.nil
    | succ count =>
      rw [List.take_succ_cons, Embeds.cons_iff_of_rejects (by simpa using rejected)] at fits
      exact fits

/-- No choice of characters fills more of the classes than the greedy one. -/
theorem isGreatest_length_greedy (ks : List CharClass) (text : List Char) :
    IsGreatest {count | count ≤ ks.length ∧ Embeds (ks.take count) text}
      (greedy ks text).length := by
  constructor
  · have fits : Embeds (ks.take (greedy ks text).length) text :=
      List.sublistForall₂_iff.mpr ⟨_, forall₂_greedy ks text, greedy_sublist ks text⟩
    exact ⟨length_greedy_le ks text, fits⟩
  · rintro count ⟨within, fits⟩
    exact le_length_greedy within fits

/-- What was dropped once need not be kept for what is added later. -/
theorem greedy_append_greedy :
    greedy ks (greedy ks text ++ later) = greedy ks (text ++ later) := by
  -- a character that was kept is taken again by the same class, and one that was dropped is
  -- dropped by the class that dropped it
  induction text generalizing ks with
  | nil => simp
  | cons x text ih =>
    cases ks with
    | nil => simp
    | cons k ks =>
      cases accepted : k.accepts x with
      | true =>
        rw [greedy_of_accepts accepted, List.cons_append, List.cons_append,
          greedy_of_accepts accepted, greedy_of_accepts accepted, ih]
      | false =>
        rw [greedy_of_rejects accepted, List.cons_append, greedy_of_rejects accepted, ih]

end Greedy

end InputMask
