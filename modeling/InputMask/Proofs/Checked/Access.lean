import InputMask.Proofs.JsonRoundTrip

/-!
# Checked access

Lists are read and written by index, and texts are cut at byte offsets, as a program does that
stops where an access is out of range. Where every access is in range, the place of it is a split
of the list, and what is read is a part of this split.

## Main definitions

* `Violation`: what stops a program
* `item`, `put`, `slice`, `position`, `sub`: access to lists and to numbers
* `cutBytes?`, `bytesBefore`, `bytesFrom`, `truncate`: access to the bytes of a text

## Main results

* `item_append`, `put_append`, `slice_append`, `position_append`, `sub_of_le`: access in range
* `cutBytes?_append`: a text is cut between characters
-/

namespace InputMask.Checked

open Json (byteLength)

/-- What stops a program. -/
inductive Violation where
  /-- There is no element at an index. -/
  | index
  /-- The bounds of a slice are not in order, or lie behind the end. -/
  | slice
  /-- A position from which reading goes on lies behind the end. -/
  | position
  /-- A greater number is subtracted. -/
  | underflow
  /-- A byte offset lies inside a character, or behind the end. -/
  | boundary
  deriving DecidableEq, Repr

section Lists

variable {α : Type}

/-- The element at an index. -/
def item (xs : List α) (index : Nat) : Except Violation α :=
  match xs[index]? with
  | some x => .ok x
  | none => .error .index

/-- A list with another element at an index. -/
def put (xs : List α) (index : Nat) (x : α) : Except Violation (List α) :=
  if index < xs.length then .ok (xs.set index x) else .error .index

/-- The elements from one bound up to another. -/
def slice (xs : List α) (start stop : Nat) : Except Violation (List α) :=
  if start ≤ stop ∧ stop ≤ xs.length then .ok ((xs.take stop).drop start) else .error .slice

/-- A position between the elements of a list, or at one of its ends. -/
def position (xs : List α) (index : Nat) : Except Violation Nat :=
  if index ≤ xs.length then .ok index else .error .position

variable (front back : List α)

theorem getElem?_append_cons (x : α) : (front ++ x :: back)[front.length]? = some x := by
  simp

theorem item_append (x : α) : item (front ++ x :: back) front.length = .ok x := by
  rw [item, getElem?_append_cons]

theorem put_append (x y : α) :
    put (front ++ x :: back) front.length y = .ok (front ++ y :: back) := by
  rw [put, if_pos (by simp)]
  simp

theorem slice_append (middle : List α) :
    slice (front ++ (middle ++ back)) front.length (front.length + middle.length) =
      .ok middle := by
  rw [slice, if_pos (by simp), ← List.append_assoc, ← List.length_append, List.take_left,
    List.drop_left]

/-- The elements behind one element, up to a bound. -/
theorem slice_append_cons (x : α) (middle : List α) :
    slice (front ++ x :: (middle ++ back)) (front.length + 1)
      (front.length + 1 + middle.length) = .ok middle := by
  have split := slice_append (front ++ [x]) back middle
  rwa [List.length_append, List.append_assoc, List.singleton_append] at split

/-- The elements behind one element, up to the end. -/
theorem slice_append_cons_length (x : α) :
    slice (front ++ x :: back) (front.length + 1) (front ++ x :: back).length = .ok back := by
  have ended : (front ++ x :: back).length = front.length + 1 + back.length := by
    rw [List.length_append, List.length_cons]
    omega
  have split := slice_append_cons front [] x back
  rwa [List.append_nil, ← ended] at split

theorem position_append : position (front ++ back) front.length = .ok front.length :=
  if_pos (by simp)

end Lists

/-- The difference of two numbers. -/
def sub (a b : Nat) : Except Violation Nat :=
  if b ≤ a then .ok (a - b) else .error .underflow

theorem sub_of_le {a b : Nat} (le : b ≤ a) : sub a b = .ok (a - b) :=
  if_pos le

/-! ### Bytes -/

section Bytes

variable (front back : List Char)

/-- Cuts a text at a byte offset, unless the offset lies inside a character. -/
def cutBytes? : List Char → Nat → Option (List Char × List Char)
  | text, 0 => some ([], text)
  | [], _ + 1 => none
  | c :: text, offset + 1 =>
    if c.utf8Size ≤ offset + 1 then
      (cutBytes? text (offset + 1 - c.utf8Size)).map fun (front, back) => (c :: front, back)
    else none

/-- The text in front of a byte offset. -/
def bytesBefore (text : List Char) (offset : Nat) : Except Violation (List Char) :=
  match cutBytes? text offset with
  | some (front, _) => .ok front
  | none => .error .boundary

/-- The text behind a byte offset. -/
def bytesFrom (text : List Char) (offset : Nat) : Except Violation (List Char) :=
  match cutBytes? text offset with
  | some (_, back) => .ok back
  | none => .error .boundary

/-- A text shortened to a number of bytes, if it has more. -/
def truncate (text : List Char) (limit : Nat) : Except Violation (List Char) :=
  if byteLength text < limit then .ok text else bytesBefore text limit

@[simp] theorem byteLength_nil : byteLength [] = 0 :=
  rfl

@[simp] theorem byteLength_cons (c : Char) (text : List Char) :
    byteLength (c :: text) = c.utf8Size + byteLength text := by
  have onward (start : Nat) : text.foldl (fun bytes c => bytes + c.utf8Size) start =
      start + byteLength text := by
    unfold byteLength
    induction text generalizing start with
    | nil => rfl
    | cons c text ih =>
      rw [List.foldl_cons, List.foldl_cons, ih, ih (0 + _)]
      omega
  rw [byteLength, List.foldl_cons, onward, Nat.zero_add]

/-- A text is cut between characters. -/
theorem cutBytes?_append : cutBytes? (front ++ back) (byteLength front) = some (front, back) := by
  induction front with
  | nil => cases back <;> rfl
  | cons c front ih =>
    obtain ⟨offset, wide⟩ : ∃ offset, byteLength (c :: front) = offset + 1 :=
      Nat.exists_eq_add_one_of_ne_zero (by have := c.utf8Size_pos; simp; omega)
    have inside : c.utf8Size ≤ offset + 1 := by
      rw [← wide, byteLength_cons]
      exact Nat.le_add_right _ _
    rw [wide, List.cons_append, cutBytes?, if_pos inside, ← wide, byteLength_cons,
      Nat.add_sub_cancel_left, ih]
    rfl

theorem bytesBefore_append : bytesBefore (front ++ back) (byteLength front) = .ok front := by
  rw [bytesBefore, cutBytes?_append]

/-- Behind its first byte a character of two bytes is not cut. -/
example : bytesBefore ['é', '1'] 2 = .ok ['é'] ∧ bytesBefore ['é', '1'] 1 = .error .boundary :=
  ⟨rfl, rfl⟩

theorem truncate_append : truncate (front ++ back) (byteLength front) = .ok front := by
  have enough : byteLength front ≤ byteLength (front ++ back) := by
    induction front with
    | nil => simp
    | cons c front ih => simpa using ih
  rw [truncate, if_neg (Nat.not_lt.mpr enough), bytesBefore_append]

end Bytes

end InputMask.Checked
