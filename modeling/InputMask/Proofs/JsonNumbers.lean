import InputMask.Json.Reader
import Mathlib.Algebra.Ring.Int.Defs
import Mathlib.Algebra.Ring.Nat
import Mathlib.Tactic.SplitIfs

/-!
# Numbers in JSON that is read

Integers of 64 bits are kept as they are; every other number in a text is read as a double. So the
integers in any value that is read are in range.
-/

namespace InputMask.Json

/-- An integer of 64 bits, with a sign or without one, or a double. -/
def Number.Bounded : Number → Prop
  | natural n => n < 2 ^ 64
  | negative n => 0 < n ∧ n ≤ 2 ^ 63
  | double _ => True

/-- All numbers in a value are integers of 64 bits or doubles. -/
inductive Bounded : Json → Prop
  | null : Bounded .null
  | bool (b : Bool) : Bounded (.bool b)
  | string (s : List Char) : Bounded (.string s)
  | number {n : Number} (bounded : n.Bounded) : Bounded (.number n)
  | array {items : List Json} (each : ∀ item ∈ items, Bounded item) : Bounded (.array items)
  | object {members : List (List Char × Json)} (each : ∀ member ∈ members, Bounded member.2) :
      Bounded (.object members)

theorem Bounded.of_number {n : Number} (bounded : (Json.number n).Bounded) : n.Bounded := by
  cases bounded
  assumption

theorem Bounded.of_array {items : List Json} (bounded : (Json.array items).Bounded) :
    ∀ item ∈ items, item.Bounded := by
  cases bounded
  assumption

theorem Bounded.of_object {members : List (List Char × Json)}
    (bounded : (Json.object members).Bounded) : ∀ member ∈ members, member.2.Bounded := by
  cases bounded
  assumption

section Numbers

variable {isNegative : Bool} {significand taken : Nat} {exponent : Int} {text rest : List Char}
  {n : Number}

/-- Reading goes on with what has been read, if there is no fault. -/
theorem bind_eq_ok_iff {ε α β : Type} {x : Except ε α} {f : α → Except ε β} {b : β} :
    (x >>= f) = .ok b ↔ ∃ a, x = .ok a ∧ f a = .ok b := by
  cases x with
  | error fault => simp [bind, Except.bind]
  | ok a => simp [bind, Except.bind]

theorem takeDigits_lt (small : significand < 2 ^ 64) :
    (takeDigits significand taken text).1 < 2 ^ 64 := by
  fun_induction takeDigits significand taken text with
  | case1 => exact small
  | case2 significand taken c rest fits ih => exact ih fits.2
  | case3 => exact small

theorem bounded_integerOf (small : significand < 2 ^ 64) :
    (integerOf isNegative significand).Bounded := by
  unfold integerOf
  split_ifs with positive large
  · exact small
  · trivial
  · simp only [not_or, Nat.not_lt] at large
    exact ⟨Nat.pos_of_ne_zero large.1, large.2⟩

theorem bounded_of_doubleOf (read : doubleOf isNegative significand exponent text = .ok (n, rest)) :
    n.Bounded := by
  unfold doubleOf at read
  split at read
  · cases read
  · cases read
    trivial

theorem bounded_of_readExponent
    (read : readExponent isNegative significand exponent text = .ok (n, rest)) : n.Bounded := by
  unfold readExponent at read
  split at read
  next raises digits =>
    split at read
    · cases read
    · split at read
      · cases read
      · split at read
        · exact bounded_of_doubleOf read
        · split at read
          · cases read
          · exact bounded_of_doubleOf read

theorem bounded_of_readFraction
    (read : readFraction isNegative significand exponent text = .ok (n, rest)) : n.Bounded := by
  unfold readFraction at read
  split at read
  next digits =>
    dsimp only at read
    split at read
    · split at read
      · cases read
      · cases read
    · split at read
      · exact bounded_of_readExponent read
      · exact bounded_of_readExponent read
      · exact bounded_of_doubleOf read

theorem bounded_of_readBehindInteger (small : significand < 2 ^ 64)
    (read : readBehindInteger isNegative significand text = .ok (n, rest)) : n.Bounded := by
  unfold readBehindInteger at read
  dsimp only at read
  split at read
  · exact bounded_of_readFraction read
  · exact bounded_of_readExponent read
  · exact bounded_of_readExponent read
  · split at read
    · cases read
      exact bounded_integerOf small
    · exact bounded_of_doubleOf read

theorem bounded_of_readNumber (read : readNumber isNegative text = .ok (n, rest)) :
    n.Bounded := by
  unfold readNumber at read
  split at read
  · cases read
  · split at read
    · split at read
      · cases read
      · exact bounded_of_readBehindInteger (by decide) read
    · exact bounded_of_readBehindInteger (by decide) read
  next c behind _ =>
    split at read
    · have small : decimalValue c < 2 ^ 64 :=
        Nat.lt_of_le_of_lt (Nat.sub_le _ _) (Nat.lt_trans c.val.toNat_lt (by decide))
      exact bounded_of_readBehindInteger (takeDigits_lt small) read
    · cases read

end Numbers

/-! ### Values -/

/-- What is read with some fuel has bounded numbers only. -/
structure BoundedAt (fuel : Nat) : Prop where
  value : ∀ {depth text json rest}, readValue depth fuel text = .ok (json, rest) → json.Bounded
  items : ∀ {depth text items rest}, readItems depth fuel text = .ok (items, rest) →
    ∀ item ∈ items, item.Bounded
  members : ∀ {depth text members rest}, readMembers depth fuel text = .ok (members, rest) →
    ∀ member ∈ members, member.2.Bounded

section Values

variable {depth fuel : Nat} {text rest : List Char} {json : Json}

theorem bounded_of_readValue_succ (below : BoundedAt fuel)
    (read : readValue depth (fuel + 1) text = .ok (json, rest)) : json.Bounded := by
  unfold readValue at read
  split at read
  · cases read
  · obtain ⟨_, -, same⟩ := bind_eq_ok_iff.mp read
    cases same
    exact .null
  · obtain ⟨_, -, same⟩ := bind_eq_ok_iff.mp read
    cases same
    exact .bool true
  · obtain ⟨_, -, same⟩ := bind_eq_ok_iff.mp read
    cases same
    exact .bool false
  · obtain ⟨⟨s, _⟩, -, same⟩ := bind_eq_ok_iff.mp read
    cases same
    exact .string s
  · obtain ⟨⟨n, _⟩, number, same⟩ := bind_eq_ok_iff.mp read
    cases same
    exact .number (bounded_of_readNumber number)
  · split at read
    · cases read
    · split at read
      · cases read
      · cases read
        exact .array nofun
      · obtain ⟨⟨items, _⟩, each, same⟩ := bind_eq_ok_iff.mp read
        cases same
        exact .array (below.items each)
  · split at read
    · cases read
    · obtain ⟨⟨follows, behind⟩, -, read⟩ := bind_eq_ok_iff.mp read
      cases follows with
      | true =>
        obtain ⟨⟨members, _⟩, each, same⟩ := bind_eq_ok_iff.mp read
        cases same
        exact .object (below.members each)
      | false =>
        cases read
        exact .object nofun
  · split at read
    · obtain ⟨⟨n, _⟩, number, same⟩ := bind_eq_ok_iff.mp read
      cases same
      exact .number (bounded_of_readNumber number)
    · cases read

/-- What holds of an element and of all that are read behind it, if any follow, holds of all. -/
theorem forall_mem_of_read {α : Type} {P : α → Prop} {first : α} {follows : Bool}
    {others : Except Fault (List α × List Char)} {all : List α} {behind rest : List Char}
    (holds : P first) (onward : ∀ more rest, others = .ok (more, rest) → ∀ a ∈ more, P a)
    (read : (if follows then others >>= fun more => pure (first :: more.1, more.2)
      else pure ([first], behind)) = .ok (all, rest)) :
    ∀ a ∈ all, P a := by
  cases follows with
  | true =>
    obtain ⟨⟨more, _⟩, among, same⟩ := bind_eq_ok_iff.mp read
    cases same
    exact List.forall_mem_cons.mpr ⟨holds, onward _ _ among⟩
  | false =>
    cases read
    exact List.forall_mem_singleton.mpr holds

theorem bounded_of_readItems_succ (below : BoundedAt fuel) {items : List Json}
    (read : readItems depth (fuel + 1) text = .ok (items, rest)) :
    ∀ item ∈ items, item.Bounded := by
  unfold readItems at read
  obtain ⟨⟨item, _⟩, value, read⟩ := bind_eq_ok_iff.mp read
  obtain ⟨_, -, read⟩ := bind_eq_ok_iff.mp read
  exact forall_mem_of_read (below.value value) (fun _ _ => below.items) read

theorem bounded_of_readMembers_succ (below : BoundedAt fuel) {members : List (List Char × Json)}
    (read : readMembers depth (fuel + 1) text = .ok (members, rest)) :
    ∀ member ∈ members, member.2.Bounded := by
  unfold readMembers at read
  obtain ⟨⟨name, _⟩, -, read⟩ := bind_eq_ok_iff.mp read
  obtain ⟨_, -, read⟩ := bind_eq_ok_iff.mp read
  obtain ⟨⟨item, _⟩, value, read⟩ := bind_eq_ok_iff.mp read
  obtain ⟨_, -, read⟩ := bind_eq_ok_iff.mp read
  exact forall_mem_of_read (P := fun member => member.2.Bounded) (below.value value)
    (fun _ _ => below.members) read

theorem boundedAt (fuel : Nat) : BoundedAt fuel := by
  induction fuel with
  | zero =>
    exact ⟨nofun, nofun, nofun⟩
  | succ fuel below =>
    exact ⟨bounded_of_readValue_succ below, bounded_of_readItems_succ below,
      bounded_of_readMembers_succ below⟩

/-- All numbers in a value that is read from a text are bounded. -/
theorem bounded_of_readPrefixed (read : readPrefixed text = .ok (json, rest)) : json.Bounded :=
  (boundedAt _).value read

end Values

end InputMask.Json
