import InputMask.Proofs.Checked.Access
import InputMask.Proofs.NumericTyping

/-!
# Formatting amounts by bytes

The digits of a value are shortened, filled up and split at byte offsets, and the marks between
thousands are set by subtracting the index of each digit from the number of bytes. As all digits are
of one byte, the offsets lie between characters, and the number of bytes is that of the digits.

## Main definitions

* `Checked.keptDigits`, `Checked.ofDigits`, `Checked.groupThousands`, `Checked.formatNumeric`

## Main results

* `groupThousands_eq_ok`: marks set from the left are those set from the right
* `formatNumeric_eq_ok`: no access is out of range
-/

namespace InputMask.Checked

open Json (byteLength)

section Digits

variable {digits : List Char}

/-- Digits take a byte each. -/
theorem byteLength_of_isNumeral (numeral : IsNumeral digits) :
    byteLength digits = digits.length := by
  induction digits with
  | nil => rfl
  | cons c digits ih =>
    obtain ⟨digit, others⟩ := isNumeral_cons_iff.mp numeral
    have small : c.utf8Size = 1 := by
      rw [Char.utf8Size_eq_one_iff]
      exact (isDigit_iff.mp digit).2.trans (by decide)
    rw [byteLength_cons, ih others, small, List.length_cons, Nat.add_comm]

theorem byteLength_take (numeral : IsNumeral digits) {offset : Nat}
    (inside : offset ≤ digits.length) : byteLength (digits.take offset) = offset := by
  have front : IsNumeral (digits.take offset) :=
    fun c among => numeral c (List.mem_of_mem_take among)
  rw [byteLength_of_isNumeral front, List.length_take, Nat.min_eq_left inside]

/-- Digits are cut at every offset, and the offset is the number of digits in front. -/
theorem cutBytes?_eq_some (numeral : IsNumeral digits) {offset : Nat}
    (inside : offset ≤ digits.length) :
    cutBytes? digits offset = some (digits.take offset, digits.drop offset) := by
  have cut := cutBytes?_append (digits.take offset) (digits.drop offset)
  rwa [List.take_append_drop, byteLength_take numeral inside] at cut

theorem truncate_eq_ok (numeral : IsNumeral digits) (limit : Nat) :
    truncate digits limit = .ok (digits.take limit) := by
  rw [truncate, byteLength_of_isNumeral numeral]
  split
  next short => rw [List.take_of_length_le (Nat.le_of_lt short)]
  next long => rw [bytesBefore, cutBytes?_eq_some numeral (Nat.not_lt.mp long)]

/-- The digits of a value that are kept. -/
def keptDigits (config : NumericConfig) (value : List Char) : Except Violation (List Char) :=
  let digits := value.filter isDigit
  match config.maxLength.filter (0 < ·) with
  | some limit => truncate digits limit
  | none => .ok digits

theorem keptDigits_eq_ok (config : NumericConfig) (value : List Char) :
    keptDigits config value = .ok (InputMask.keptDigits config value) := by
  rw [keptDigits, InputMask.keptDigits]
  rcases config.maxLength with _ | _ | limit
  · rfl
  · rfl
  · exact truncate_eq_ok (isNumeral_filter value) (limit + 1)

/-- Digits filled up with zeros, if they are fewer than the decimals. -/
def fillUp (decimals : Nat) (digits : List Char) : Except Violation (List Char) :=
  if byteLength digits < decimals then do
    let missing ← sub decimals (byteLength digits)
    return List.replicate missing '0' ++ digits
  else .ok digits

theorem fillUp_eq_ok (numeral : IsNumeral digits) (decimals : Nat) :
    fillUp decimals digits = .ok (padZeros decimals digits) := by
  rw [fillUp, padZeros, byteLength_of_isNumeral numeral]
  split
  next short =>
    rw [sub_of_le (Nat.le_of_lt short)]
    rfl
  next long => rw [Nat.sub_eq_zero_of_le (Nat.not_lt.mp long), List.replicate_zero, List.nil_append]

theorem isNumeral_padZeros (numeral : IsNumeral digits) (width : Nat) :
    IsNumeral (padZeros width digits) := by
  refine isNumeral_append_iff.mpr ⟨fun c among => ?_, numeral⟩
  rw [List.eq_of_mem_replicate among]
  rfl

theorem le_length_padZeros (width : Nat) (digits : List Char) :
    width ≤ (padZeros width digits).length := by
  rw [padZeros, List.length_append, List.length_replicate]
  omega

/-- The digits in front of a split, a lone zero if there are none. -/
def wholeBefore (digits : List Char) (split : Nat) : Except Violation (List Char) :=
  if split = 0 then .ok ['0'] else bytesBefore digits split

theorem wholeBefore_eq_ok (numeral : IsNumeral digits) {split : Nat}
    (inside : split ≤ digits.length) :
    wholeBefore digits split =
      .ok (if (digits.take split).isEmpty then ['0'] else digits.take split) := by
  rw [wholeBefore]
  by_cases none : split = 0
  · rw [if_pos none, none]
    rfl
  · have some_digit : (digits.take split).isEmpty = false := by
      rw [List.isEmpty_eq_false_iff, ← List.length_pos_iff, List.length_take]
      omega
    rw [if_neg none, bytesBefore, cutBytes?_eq_some numeral inside, some_digit]
    rfl

/-- Splits the decimals off. -/
def ofDigits (decimals : Nat) (digits : List Char) : Except Violation Amount :=
  if 0 < decimals then do
    let digits ← fillUp decimals digits
    let split ← sub (byteLength digits) decimals
    let whole ← wholeBefore digits split
    let fraction ← bytesFrom digits split
    return ⟨whole, some fraction⟩
  else .ok ⟨digits, none⟩

/-- The decimals are split off between characters. -/
theorem ofDigits_eq_ok (numeral : IsNumeral digits) (decimals : Nat) :
    ofDigits decimals digits = .ok (.ofDigits decimals digits) := by
  rw [ofDigits, Amount.ofDigits]
  split
  next some_asked =>
    have filled := isNumeral_padZeros numeral decimals
    have enough := le_length_padZeros decimals digits
    have inside := Nat.sub_le (padZeros decimals digits).length decimals
    rw [if_neg (Nat.ne_of_gt some_asked), fillUp_eq_ok numeral, Json.ok_bind,
      byteLength_of_isNumeral filled, sub_of_le enough, Json.ok_bind,
      wholeBefore_eq_ok filled inside, Json.ok_bind, bytesFrom, cutBytes?_eq_some filled inside]
    rfl
  next none_asked => rw [if_pos (Nat.eq_zero_of_not_pos none_asked)]

end Digits

section Groups

variable {delimiter digits : List Char}

/-- Writes one digit, behind a delimiter if it is not the first and the digits from it on make up
groups of three. -/
def groupDigit (delimiter : List Char) (length : Nat) (grouped : List Char) (entry : Char × Nat) :
    Except Violation (List Char) := do
  if 0 < entry.2 then
    let left ← sub length entry.2
    if left % 3 = 0 then return grouped ++ delimiter ++ [entry.1]
    else return grouped ++ [entry.1]
  else return grouped ++ [entry.1]

/-- Digits with a delimiter between groups of three, set from the left. -/
def groupThousands (delimiter digits : List Char) : Except Violation (List Char) :=
  digits.zipIdx.foldlM (groupDigit delimiter (byteLength digits)) []

/-- Digits with a delimiter in front of each from which on the digits make up groups of three. -/
def marked (delimiter : List Char) : List Char → List Char
  | [] => []
  | c :: digits =>
    (if (digits.length + 1) % 3 = 0 then delimiter else []) ++ c :: marked delimiter digits

theorem marked_append (digits others : List Char) (whole : others.length % 3 = 0) :
    marked delimiter (digits ++ others) = marked delimiter digits ++ marked delimiter others := by
  induction digits with
  | nil => rfl
  | cons c digits ih =>
    have same : (digits.length + others.length + 1) % 3 = (digits.length + 1) % 3 := by omega
    rw [List.cons_append, marked, List.length_append, same, ih, marked, List.append_assoc,
      List.cons_append]

/-- Digits with a delimiter between groups of three. -/
def grouped (delimiter : List Char) : List Char → List Char
  | [] => []
  | c :: digits => c :: marked delimiter digits

/-- Marks that are set from the right stand in front of the same digits. -/
theorem reverse_groupFromRight (delimiter digits : List Char) :
    (groupFromRight delimiter.reverse digits).reverse = grouped delimiter digits.reverse := by
  fun_induction groupFromRight delimiter.reverse digits with
  | case1 a b c d rest ih =>
    have three : marked delimiter [c, b, a] = delimiter ++ [c, b, a] := by simp [marked]
    have turned : (a :: b :: c :: d :: rest).reverse = (d :: rest).reverse ++ [c, b, a] := by simp
    obtain ⟨x, xs, front⟩ :=
      List.exists_cons_of_ne_nil (List.reverse_ne_nil_iff.mpr (List.cons_ne_nil d rest))
    rw [front, grouped] at ih
    rw [turned, front, List.cons_append, grouped, marked_append _ [c, b, a] (Nat.mod_self 3), three]
    simp [ih]
  | case2 digits short =>
    rcases digits with _ | ⟨a, _ | ⟨b, _ | ⟨c, _ | ⟨d, rest⟩⟩⟩⟩
    · rfl
    · rfl
    · rfl
    · rfl
    · exact (short a b c d rest rfl).elim

/-- A digit behind the first is marked by the number of digits from it on. -/
theorem groupDigit_eq_ok (delimiter grouped : List Char) (c : Char) {index : Nat} (left : Nat)
    (later : 0 < index) :
    groupDigit delimiter (index + left) grouped (c, index) =
      .ok (grouped ++ ((if left % 3 = 0 then delimiter else []) ++ [c])) := by
  rw [groupDigit, if_pos later, sub_of_le (Nat.le_add_right index left), Json.ok_bind,
    Nat.add_sub_cancel_left]
  split
  next => exact congrArg Except.ok (List.append_assoc _ _ _)
  next => rfl

/-- From any digit behind the first one on, the digits are written with their marks. -/
theorem foldlM_groupDigit (delimiter rest grouped : List Char) {index : Nat} (later : 0 < index) :
    (rest.zipIdx index).foldlM (groupDigit delimiter (index + rest.length)) grouped =
      .ok (grouped ++ marked delimiter rest) := by
  induction rest generalizing grouped index with
  | nil =>
    rw [marked, List.append_nil]
    rfl
  | cons c rest ih =>
    have onward := ih (grouped ++ ((if (rest.length + 1) % 3 = 0 then delimiter else []) ++ [c]))
      (Nat.add_pos_left later 1)
    rw [Nat.add_assoc, Nat.add_comm 1] at onward
    rw [List.zipIdx_cons, List.foldlM_cons, List.length_cons, groupDigit_eq_ok _ _ _ _ later,
      Json.ok_bind, onward, marked]
    simp

/-- The marks are set without an access out of range. -/
theorem groupThousands_eq_ok (numeral : IsNumeral digits) (delimiter : List Char) :
    groupThousands delimiter digits = .ok (InputMask.groupThousands delimiter digits) := by
  rw [groupThousands, InputMask.groupThousands, reverse_groupFromRight, List.reverse_reverse,
    byteLength_of_isNumeral numeral]
  cases digits with
  | nil => rfl
  | cons c rest =>
    have behind := foldlM_groupDigit delimiter rest [c] Nat.one_pos
    rw [Nat.add_comm] at behind
    exact behind

end Groups

section Format

variable {config : NumericConfig}

/-- The shown text of an amount. -/
def display (config : NumericConfig) (amount : Amount) : Except Violation (List Char) := do
  let grouped ← groupThousands config.delimiter amount.whole
  let core :=
    match amount.fraction with
    | some fraction => grouped ++ config.separator ++ fraction
    | none => grouped
  return config.before ++ core ++ config.after

/-- The output of a numeric mask. -/
def formatNumeric (config : NumericConfig) (value : List Char) : Except Violation Output := do
  let digits ← keptDigits config value
  if digits.isEmpty then return .empty
  let amount ← ofDigits config.decimals (trimZeros digits)
  let masked ← display config amount
  if isCanonicalNumber amount.canonical then return ⟨masked, amount.canonical⟩
  return .empty

theorem display_eq_ok {amount : Amount} (numeral : IsNumeral amount.whole) :
    display config amount = .ok (amount.display config) := by
  rw [display, groupThousands_eq_ok numeral]
  rfl

/-- A value is formatted without an access out of range. -/
theorem formatNumeric_eq_ok (config : NumericConfig) (value : List Char) :
    formatNumeric config value = .ok (InputMask.formatNumeric config value) := by
  rw [formatNumeric, keptDigits_eq_ok, Json.ok_bind]
  by_cases none_kept : InputMask.keptDigits config value = []
  · rw [none_kept, formatNumeric_of_not_kept none_kept]
    rfl
  · have some_kept : (InputMask.keptDigits config value).isEmpty = false :=
      List.isEmpty_eq_false_iff.mpr none_kept
    have split := ofDigits_eq_ok (isNumeral_toDigits (numberOf (InputMask.keptDigits config value)))
      config.decimals
    rw [ofDigits_toDigits] at split
    have whole := (isNumeral_append_iff.mp (isNumeral_digits_ofNat config.decimals
      (numberOf (InputMask.keptDigits config value)))).1
    rw [formatNumeric_of_kept none_kept, some_kept, if_neg Bool.false_ne_true,
      trimZeros_eq_toDigits (isNumeral_keptDigits config value), split]
    rw [Json.ok_bind, display_eq_ok whole, Json.ok_bind]
    rw [if_pos (isCanonicalNumber_canonical_ofNat _ _)]
    rfl

end Format

end InputMask.Checked
