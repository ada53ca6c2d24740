import InputMask.Json.Writer
import InputMask.Proofs.JsonNumbers
import InputMask.Proofs.Numeral

/-!
# JSON is read as it was written

Every reading function takes exactly what the writer of its part of the grammar puts in front of
any text, and leaves that text. So a value that was written is read back. Doubles are left out, as
they are read in floating-point arithmetic; and lists and objects must not be nested too deep, as
the reader refuses them then.

## Main definitions

* `Number.Exact`, `Exact`: numbers and values that are read back
* `NoNumberGoesOn`, `StartsItem`: texts that may stand behind a number and in front of an item
* `ReadsBack`: a value is read from what it is written as

## Main results

* `readString_quote`, `readNumber_digitsOf`, `readItems_writeItems`, `readMembers_writeMembers`: the
  parts of the grammar, in front of any text
* `Exact.readsBack`: the same for values
* `read_write`: a text that was written is read
-/

namespace InputMask.Json

/-- An integer of 64 bits, with a sign or without one. -/
def Number.Exact : Number → Prop
  | natural n => n < 2 ^ 64
  | negative n => 0 < n ∧ n ≤ 2 ^ 63
  | double _ => False

/-- A value of which the numbers are integers of 64 bits, and of which lists and objects are
nested to a depth at most. -/
inductive Exact : Nat → Json → Prop
  | null {depth : Nat} : Exact depth .null
  | bool {depth : Nat} (b : Bool) : Exact depth (.bool b)
  | number {depth : Nat} {n : Number} (exact : n.Exact) : Exact depth (.number n)
  | string {depth : Nat} (s : List Char) : Exact depth (.string s)
  | array {depth : Nat} {items : List Json} (each : ∀ item ∈ items, Exact depth item) :
      Exact (depth + 1) (.array items)
  | object {depth : Nat} {members : List (List Char × Json)}
      (each : ∀ member ∈ members, Exact depth member.2) : Exact (depth + 1) (.object members)

/-- No digit, decimal point or exponent stands first in a text. -/
def NoNumberGoesOn (rest : List Char) : Prop :=
  ∀ c ∈ rest.head?, isDecimal c = false ∧ c ≠ '.' ∧ c ≠ 'e' ∧ c ≠ 'E'

/-- Neither a blank nor the end of a list stands first in a text. -/
def StartsItem (text : List Char) : Prop :=
  ∃ c rest, text = c :: rest ∧ isSpace c = false ∧ c ≠ ']'

/-- A value is read from what it is written as, in front of any text that continues no number. Fuel
for twice the length is enough. -/
structure ReadsBack (depth : Nat) (json : Json) : Prop where
  starts : StartsItem json.write
  reads : ∀ {fuel rest}, 2 * json.write.length ≤ fuel → NoNumberGoesOn rest →
    readValue depth fuel (json.write ++ rest) = .ok (json, rest)

/-- Reading goes on with what has been read. -/
@[simp] theorem ok_bind {ε α β : Type} (a : α) (f : α → Except ε β) :
    (Except.ok a >>= f) = f a :=
  rfl

/-! ### Strings -/

section Strings

variable {c : Char} {s text rest : List Char} {fuel : Nat}

theorem hexValue?_hexDigit {n : Nat} (small : n < 16) : hexValue? (hexDigit n) = some n := by
  revert n
  decide

/-- A character takes at least one byte. -/
theorem length_le_byteLength (text : List Char) : text.length ≤ byteLength text := by
  have longer (bytes : Nat) : bytes + text.length ≤
      text.foldl (fun bytes c => bytes + c.utf8Size) bytes := by
    induction text generalizing bytes with
    | nil => exact Nat.le_refl _
    | cons c text ih =>
      have some_byte := c.utf8Size_pos
      have more := ih (bytes + c.utf8Size)
      rw [List.foldl_cons, List.length_cons]
      omega
  simpa [byteLength] using longer 0

/-- A number below 256 is read from four hexadecimal digits. -/
theorem readHex_hexDigits {n : Nat} (small : n < 256) (rest : List Char) :
    readHex ('0' :: '0' :: hexDigit (n / 16) :: hexDigit (n % 16) :: rest) = .ok (n, rest) := by
  have long := length_le_byteLength ('0' :: '0' :: hexDigit (n / 16) :: hexDigit (n % 16) :: rest)
  have high : hexValue? (hexDigit (n / 16)) = some (n / 16) := hexValue?_hexDigit (by omega)
  have low : hexValue? (hexDigit (n % 16)) = some (n % 16) := hexValue?_hexDigit (by omega)
  have zero : hexValue? '0' = some 0 := rfl
  simp only [List.length_cons] at long
  rw [readHex, if_neg (by omega)]
  simp only [List.take_succ_cons, List.take_zero, List.mapM_cons, List.mapM_nil, zero, high, low,
    Option.pure_def, Option.bind_eq_bind, Option.bind_some, List.drop_succ_cons, List.drop_zero]
  rw [show 4096 * 0 + 256 * 0 + 16 * (n / 16) + n % 16 = n by omega]

/-- A control character is read from its number. -/
theorem readEscape_hexDigits (control : c.toNat < 0x20) (rest : List Char) :
    readEscape ('u' :: '0' :: '0' :: hexDigit (c.toNat / 16) :: hexDigit (c.toNat % 16) :: rest) =
      .ok (c, rest) := by
  rw [readEscape, readHex_hexDigits (by omega), ok_bind]
  dsimp only
  rw [if_neg (by omega), if_neg (by omega), Char.ofNat_toNat]
  rfl

/-- A character stands for itself within a string, or is read from what follows a backslash. -/
theorem escape_cases (c : Char) :
    (escape c = [c] ∧ c ≠ '"' ∧ c ≠ '\\' ∧ 0x20 ≤ c.toNat) ∨
      ∃ code, escape c = '\\' :: code ∧ ∀ rest, readEscape (code ++ rest) = .ok (c, rest) := by
  have lettered {d letter : Char} (same : c = d) (escaped : escape d = ['\\', letter])
      (read : ∀ rest, readEscape (letter :: rest) = .ok (d, rest)) :
      ∃ code, escape c = '\\' :: code ∧ ∀ rest, readEscape (code ++ rest) = .ok (c, rest) :=
    ⟨[letter], same ▸ escaped, same ▸ read⟩
  by_cases quote : c = '"'
  · exact Or.inr (lettered quote rfl fun _ => rfl)
  by_cases backslash : c = '\\'
  · exact Or.inr (lettered backslash rfl fun _ => rfl)
  by_cases feed : c = '\n'
  · exact Or.inr (lettered feed rfl fun _ => rfl)
  by_cases tab : c = '\t'
  · exact Or.inr (lettered tab rfl fun _ => rfl)
  by_cases carriage : c = '\r'
  · exact Or.inr (lettered carriage rfl fun _ => rfl)
  by_cases back : c = '\x08'
  · exact Or.inr (lettered back rfl fun _ => rfl)
  by_cases form : c = '\x0c'
  · exact Or.inr (lettered form rfl fun _ => rfl)
  rw [escape, if_neg quote, if_neg backslash, if_neg feed, if_neg tab, if_neg carriage,
    if_neg back, if_neg form]
  by_cases control : c.toNat < 0x20
  · rw [if_pos control]
    exact Or.inr ⟨_, rfl, readEscape_hexDigits control⟩
  · rw [if_neg control]
    exact Or.inl ⟨rfl, quote, backslash, Nat.not_lt.mp control⟩

/-- A character is read from its escape, in front of a text that is read. -/
theorem readStringBody_escape (c : Char) (read : readStringBody fuel text = .ok (s, rest)) :
    readStringBody (fuel + 1) (escape c ++ text) = .ok (c :: s, rest) := by
  rcases escape_cases c with ⟨plain, quote, backslash, high⟩ | ⟨code, escaped, readCode⟩
  · rw [plain, List.singleton_append, readStringBody.eq_5 _ _ _ quote backslash,
      if_neg (Nat.not_lt.mpr high), read]
    rfl
  · rw [escaped, List.cons_append, readStringBody, readCode, ok_bind]
    dsimp only
    rw [read]
    rfl

theorem readStringBody_flatMap_escape (s rest : List Char) (enough : s.length < fuel) :
    readStringBody fuel (s.flatMap escape ++ '"' :: rest) = .ok (s, rest) := by
  induction s generalizing fuel with
  | nil =>
    obtain ⟨fuel, rfl⟩ := Nat.exists_eq_add_of_lt enough
    rfl
  | cons c s ih =>
    obtain ⟨fuel, rfl⟩ := Nat.exists_eq_add_of_lt enough
    -- a character takes one step, however long its escape is
    rw [List.flatMap_cons, List.append_assoc]
    exact readStringBody_escape c (ih (by simp; omega))

theorem escape_ne_nil (c : Char) : escape c ≠ [] := by
  rcases escape_cases c with ⟨plain, -⟩ | ⟨code, escaped, -⟩
  · rw [plain]
    exact List.cons_ne_nil _ _
  · rw [escaped]
    exact List.cons_ne_nil _ _

theorem length_le_flatMap_escape (s : List Char) : s.length ≤ (s.flatMap escape).length := by
  induction s with
  | nil => exact Nat.le_refl _
  | cons c s ih =>
    have some_char := List.length_pos_of_ne_nil (escape_ne_nil c)
    rw [List.flatMap_cons, List.length_append, List.length_cons]
    omega

/-- A string is read from what stands behind its opening quote. -/
theorem readString_quote (s rest : List Char) :
    readString (s.flatMap escape ++ '"' :: rest) = .ok (s, rest) := by
  have long := length_le_flatMap_escape s
  refine readStringBody_flatMap_escape s rest ?_
  rw [List.length_append, List.length_cons]
  omega

end Strings

/-! ### Numbers -/

section Numbers

variable {isNegative : Bool} {n significand taken : Nat} {digits rest : List Char}

theorem digitsOf_eq_toDigits (n : Nat) : NumberText.digitsOf n = Nat.toDigits 10 n := by
  simp [NumberText.digitsOf]

theorem NoNumberGoesOn.dropWhile_eq (stops : NoNumberGoesOn rest) :
    rest.dropWhile isDecimal = rest := by
  cases rest with
  | nil => rfl
  | cons c rest => rw [List.dropWhile_cons_of_neg (by simp [(stops c rfl).1])]

/-- All digits are taken, if the number that they write is one of 64 bits. -/
theorem takeDigits_append (numeral : IsNumeral digits) (stops : NoNumberGoesOn rest)
    (value : Nat.ofDigitChars 10 digits significand = n) (small : n < 2 ^ 64) :
    takeDigits significand taken (digits ++ rest) = (n, taken + digits.length, rest) := by
  induction digits generalizing significand taken with
  | nil =>
    obtain rfl : significand = n := value
    cases rest with
    | nil => rfl
    | cons c rest =>
      rw [List.nil_append, takeDigits, if_neg (by simp [(stops c rfl).1])]
      rfl
  | cons c digits ih =>
    obtain ⟨decimal, others⟩ : isDecimal c = true ∧ IsNumeral digits :=
      isNumeral_cons_iff.mp numeral
    have next : 10 * significand + (c.toNat - '0'.toNat) = significand * 10 + decimalValue c := by
      rw [Nat.mul_comm, decimalValue]
    rw [Nat.ofDigitChars_cons, next] at value
    have smaller : significand * 10 + decimalValue c < 2 ^ 64 := by
      refine Nat.lt_of_le_of_lt ?_ small
      rw [← value, Nat.ofDigitChars_eq_ofDigitChars_zero]
      exact Nat.le_add_right_of_le (Nat.le_mul_of_pos_left _ (by positivity))
    rw [List.cons_append, takeDigits, if_pos ⟨decimal, smaller⟩, ih others value,
      List.length_cons, Nat.add_right_comm, Nat.add_assoc]

theorem readBehindInteger_eq (stops : NoNumberGoesOn rest) :
    readBehindInteger isNegative significand rest =
      .ok (integerOf isNegative significand, rest) := by
  unfold readBehindInteger
  simp only [stops.dropWhile_eq, sub_self, if_true]
  split
  · exact absurd rfl (stops '.' rfl).2.1
  · exact absurd rfl (stops 'e' rfl).2.2.1
  · exact absurd rfl (stops 'E' rfl).2.2.2
  · rfl

/-- The numeral of a positive number does not start with a zero. -/
theorem exists_toDigits_eq_cons (positive : 0 < n) :
    ∃ c digits, Nat.toDigits 10 n = c :: digits ∧ c ≠ '0' := by
  cases eq : Nat.toDigits 10 n with
  | nil => exact absurd eq Nat.toDigits_ne_nil
  | cons c digits =>
    refine ⟨c, digits, rfl, ?_⟩
    rintro rfl
    have trimmed := dropWhile_zero_eq (isNumeral_toDigits n)
    rw [numberOf_toDigits, if_neg positive.ne', eq, List.dropWhile_cons_of_pos (by simp)] at trimmed
    have shorter := (List.dropWhile_suffix (l := digits) (· = '0')).length_le
    rw [trimmed, List.length_cons] at shorter
    omega

/-- A number is read from its numeral. -/
theorem readNumber_digitsOf (small : n < 2 ^ 64) (stops : NoNumberGoesOn rest) :
    readNumber isNegative (NumberText.digitsOf n ++ rest) = .ok (integerOf isNegative n, rest) := by
  rw [digitsOf_eq_toDigits]
  rcases Nat.eq_zero_or_pos n with rfl | positive
  · rw [Nat.toDigits_zero, List.singleton_append]
    cases rest with
    | nil => exact readBehindInteger_eq stops
    | cons c rest =>
      rw [readNumber.eq_2, if_neg (by simp [(stops c rfl).1])]
      exact readBehindInteger_eq stops
  · obtain ⟨c, digits, numeral_eq, noZero⟩ := exists_toDigits_eq_cons positive
    have numeral := isNumeral_toDigits n
    have value : Nat.ofDigitChars 10 digits (decimalValue c) = n := by
      have whole := numberOf_toDigits n
      rwa [numeral_eq, numberOf_cons] at whole
    rw [numeral_eq] at numeral
    obtain ⟨decimal, others⟩ : isDecimal c = true ∧ IsNumeral digits :=
      isNumeral_cons_iff.mp numeral
    rw [numeral_eq, List.cons_append, readNumber.eq_4 _ _ _ noZero, if_pos decimal,
      takeDigits_append others stops value small]
    exact readBehindInteger_eq stops

end Numbers

/-! ### Values -/

section Values

variable {depth fuel : Nat} {c : Char} {text rest : List Char} {json : Json}

theorem ne_of_isDecimal {d : Char} (decimal : isDecimal c = true) (other : isDecimal d = false) :
    c ≠ d := by
  rintro rfl
  rw [decimal] at other
  cases other

theorem isSpace_eq_false (decimal : isDecimal c = true) : isSpace c = false := by
  simp [isSpace, ne_of_isDecimal decimal (show isDecimal ' ' = false from rfl),
    ne_of_isDecimal decimal (show isDecimal '\n' = false from rfl),
    ne_of_isDecimal decimal (show isDecimal '\t' = false from rfl),
    ne_of_isDecimal decimal (show isDecimal '\r' = false from rfl)]

theorem skipSpace_cons (plain : isSpace c = false) : skipSpace (c :: text) = c :: text :=
  List.dropWhile_cons_of_neg (by simp [plain])

theorem noNumberGoesOn_cons_iff :
    NoNumberGoesOn (c :: rest) ↔ isDecimal c = false ∧ c ≠ '.' ∧ c ≠ 'e' ∧ c ≠ 'E' := by
  simp [NoNumberGoesOn]

theorem readValue_quote : readValue depth (fuel + 1) ('"' :: text) =
    (do let (s, rest) ← readString text; return (.string s, rest)) :=
  rfl

theorem readValue_minus : readValue depth (fuel + 1) ('-' :: text) =
    (do let (n, rest) ← readNumber true text; return (.number n, rest)) :=
  rfl

theorem readValue_bracket : readValue (depth + 1) (fuel + 1) ('[' :: text) =
    match skipSpace text with
    | [] => faultAt .endInList []
    | ']' :: rest => .ok (.array [], rest)
    | rest => do let (items, rest) ← readItems depth fuel rest; return (.array items, rest) :=
  rfl

theorem readValue_brace : readValue (depth + 1) (fuel + 1) ('\x7b' :: '"' :: text) =
    (do let (members, rest) ← readMembers depth fuel text; return (.object members, rest)) :=
  rfl

theorem StartsItem.append (starts : StartsItem text) (rest : List Char) :
    StartsItem (text ++ rest) := by
  obtain ⟨c, more, rfl, plain⟩ := starts
  exact ⟨c, more ++ rest, rfl, plain⟩

/-- Behind the opening bracket of a list, an item is told from the end of the list. -/
theorem readValue_bracket_of_startsItem (starts : StartsItem text) :
    readValue (depth + 1) (fuel + 1) ('[' :: text) =
      (do let (items, rest) ← readItems depth fuel text; return (.array items, rest)) := by
  obtain ⟨c, more, rfl, plain, noEnd⟩ := starts
  rw [readValue_bracket, skipSpace_cons plain]
  split
  next same => cases same
  next same => exact absurd (List.cons_eq_cons.mp same).1 noEnd
  next => rfl

/-- Behind a comma, an item is told from the end of the list. -/
theorem nextItem_comma (starts : StartsItem text) :
    nextItem (skipSpace (',' :: text)) = .ok (true, text) := by
  obtain ⟨c, more, rfl, plain, noEnd⟩ := starts
  rw [skipSpace_cons rfl, nextItem.eq_3, skipSpace_cons plain]
  split
  next same => cases same
  next same => exact absurd (List.cons_eq_cons.mp same).1 noEnd
  next => rfl

/-- A digit starts a number. -/
theorem readValue_cons_of_isDecimal {n : Number} (decimal : isDecimal c = true)
    (read : readNumber false (c :: text) = .ok (n, rest)) :
    readValue depth (fuel + 1) (c :: text) = .ok (.number n, rest) := by
  rw [readValue.eq_2, skipSpace_cons (isSpace_eq_false decimal)]
  split
  case h_9 =>
    next d behind _ _ _ _ _ _ _ same =>
    obtain ⟨rfl, rfl⟩ := List.cons_eq_cons.mp same
    rw [if_pos decimal, read]
    rfl
  case h_1 same => cases same
  all_goals
    next same =>
    obtain ⟨rfl, -⟩ := List.cons_eq_cons.mp same
    exact absurd decimal (by decide)

/-- A value is read back if it is read from its first character and what follows. -/
theorem ReadsBack.of_cons {word : List Char} (written : json.write = c :: word)
    (plain : isSpace c = false ∧ c ≠ ']')
    (read : ∀ {fuel rest}, 2 * word.length + 1 ≤ fuel → NoNumberGoesOn rest →
      readValue depth (fuel + 1) (c :: (word ++ rest)) = .ok (json, rest)) :
    ReadsBack depth json := by
  refine ⟨⟨c, word, written, plain⟩, ?_⟩
  intro fuel rest enough stops
  rw [written, List.length_cons] at enough
  obtain ⟨fuel, rfl⟩ := Nat.exists_eq_add_one_of_ne_zero (show fuel ≠ 0 by omega)
  rw [written]
  exact read (by omega) stops

theorem readsBack_natural {n : Nat} (small : n < 2 ^ 64) :
    ReadsBack depth (.number (.natural n)) := by
  obtain ⟨c, digits, numeral⟩ := List.exists_cons_of_ne_nil (Nat.toDigits_ne_nil (b := 10) (n := n))
  have decimal : isDecimal c = true := isNumeral_toDigits n c (by simp [numeral])
  have written : (Json.number (.natural n)).write = c :: digits := by
    rw [write, writeNumber, digitsOf_eq_toDigits, numeral]
  refine .of_cons written ⟨isSpace_eq_false decimal, ne_of_isDecimal decimal rfl⟩ ?_
  intro fuel rest _ stops
  have read : readNumber false (NumberText.digitsOf n ++ rest) = .ok (.natural n, rest) :=
    readNumber_digitsOf small stops
  rw [digitsOf_eq_toDigits, numeral] at read
  exact readValue_cons_of_isDecimal decimal read

theorem readsBack_negative {n : Nat} (positive : 0 < n) (small : n ≤ 2 ^ 63) :
    ReadsBack depth (.number (.negative n)) := by
  have written : (Json.number (.negative n)).write = '-' :: NumberText.digitsOf n := by
    rw [write, writeNumber]
  have number : integerOf true n = .negative n := by
    rw [integerOf, if_neg (by decide), if_neg]
    exact not_or_intro positive.ne' small.not_gt
  refine .of_cons written (by decide) ?_
  intro fuel rest _ stops
  rw [readValue_minus, readNumber_digitsOf (by omega) stops, number]
  rfl

theorem readsBack_string (s : List Char) : ReadsBack depth (.string s) := by
  have written : (Json.string s).write = '"' :: (s.flatMap escape ++ ['"']) := by
    rw [write, quote]
    rfl
  refine .of_cons written (by decide) ?_
  intro fuel rest _ _
  rw [List.append_assoc, readValue_quote, List.singleton_append, readString_quote]
  rfl

theorem startsItem_writeItems {items : List Json} (some_item : items ≠ [])
    (back : ∀ item ∈ items, ReadsBack depth item) : StartsItem (writeItems items) := by
  match items, some_item with
  | [item], _ =>
    rw [writeItems]
    exact (back item List.mem_cons_self).starts
  | item :: second :: items, _ =>
    rw [writeItems.eq_3 _ _ (List.cons_ne_nil _ _)]
    exact (back item List.mem_cons_self).starts.append _

/-- The items of a list are read behind its opening bracket. -/
theorem readItems_writeItems {items : List Json} (some_item : items ≠ [])
    (back : ∀ item ∈ items, ReadsBack depth item)
    (enough : 2 * (writeItems items).length + 1 ≤ fuel) :
    readItems depth fuel (writeItems items ++ ']' :: rest) = .ok (items, rest) := by
  induction items generalizing fuel with
  | nil => exact absurd rfl some_item
  | cons item items ih =>
    obtain ⟨first, others⟩ := List.forall_mem_cons.mp back
    -- one unit of fuel is for the list, and the item has what it needs with the others
    obtain ⟨fuel, rfl⟩ := Nat.exists_eq_add_of_lt (show 0 < fuel by omega)
    cases items with
    | nil =>
      rw [writeItems] at enough ⊢
      rw [readItems, first.reads (by omega) (noNumberGoesOn_cons_iff.mpr (by decide))]
      rfl
    | cons second items =>
      have more : second :: items ≠ [] := List.cons_ne_nil _ _
      rw [writeItems.eq_3 _ _ more] at enough ⊢
      rw [List.length_append, List.length_cons] at enough
      have starts := (startsItem_writeItems more others).append (']' :: rest)
      rw [List.append_assoc, List.cons_append, readItems,
        first.reads (by omega) (noNumberGoesOn_cons_iff.mpr (by decide)), ok_bind]
      dsimp only
      rw [nextItem_comma starts, ok_bind]
      dsimp only
      rw [if_pos rfl, ih more others (by omega)]
      rfl

/-- The first member is read behind the opening quote of its name. -/
theorem readMembers_member {name : List Char} {value : Json} (back : ReadsBack depth value)
    (enough : 2 * value.write.length ≤ fuel) (stops : NoNumberGoesOn rest) :
    readMembers depth (fuel + 1) (name.flatMap escape ++ '"' :: ':' :: (value.write ++ rest)) =
      (do
        let (follows, rest) ← nextMember (skipSpace rest)
        if follows then
          let (members, rest) ← readMembers depth fuel rest
          return ((name, value) :: members, rest)
        else
          return ([(name, value)], rest)) := by
  have colon : readColon (':' :: (value.write ++ rest)) = .ok (value.write ++ rest) := rfl
  rw [readMembers, readString_quote, ok_bind]
  dsimp only
  rw [colon, ok_bind, back.reads enough stops, ok_bind]

theorem writeMembers_singleton (name : List Char) (value : Json) :
    writeMembers [(name, value)] = '"' :: (name.flatMap escape ++ '"' :: ':' :: value.write) := by
  simp [writeMembers, quote]

theorem writeMembers_cons (name : List Char) (value : Json) {members : List (List Char × Json)}
    (some_member : members ≠ []) :
    writeMembers ((name, value) :: members) = '"' :: (name.flatMap escape ++
      '"' :: ':' :: (value.write ++ ',' :: writeMembers members)) := by
  rw [writeMembers.eq_3 _ _ _ some_member]
  simp [quote]

theorem exists_writeMembers_eq {members : List (List Char × Json)} (some_member : members ≠ []) :
    ∃ text, writeMembers members = '"' :: text := by
  match members, some_member with
  | [_], _ => exact ⟨_, writeMembers_singleton _ _⟩
  | _ :: _ :: _, _ => exact ⟨_, writeMembers_cons _ _ (List.cons_ne_nil _ _)⟩

/-- The members of an object are read behind the opening quote of the first name. -/
theorem readMembers_writeMembers {members : List (List Char × Json)}
    (back : ∀ member ∈ members, ReadsBack depth member.2)
    (enough : 2 * (writeMembers members).length ≤ fuel)
    (written : writeMembers members = '"' :: text) :
    readMembers depth fuel (text ++ '\x7d' :: rest) = .ok (members, rest) := by
  induction members generalizing fuel text with
  | nil => cases written
  | cons member members ih =>
    obtain ⟨name, value⟩ := member
    obtain ⟨first, others⟩ : ReadsBack depth value ∧ ∀ member ∈ members, ReadsBack depth member.2 :=
      List.forall_mem_cons.mp back
    cases members with
    | nil =>
      rw [writeMembers_singleton] at enough written
      simp only [List.length_cons, List.length_append] at enough
      obtain ⟨fuel, rfl⟩ := Nat.exists_eq_add_of_lt (show 0 < fuel by omega)
      obtain ⟨-, rfl⟩ := List.cons_eq_cons.mp written
      rw [List.append_assoc, List.cons_append, List.cons_append,
        readMembers_member first (by omega) (noNumberGoesOn_cons_iff.mpr (by decide))]
      rfl
    | cons second members =>
      have more : second :: members ≠ [] := List.cons_ne_nil _ _
      rw [writeMembers_cons _ _ more] at enough written
      simp only [List.length_cons, List.length_append] at enough
      obtain ⟨fuel, rfl⟩ := Nat.exists_eq_add_of_lt (show 0 < fuel by omega)
      obtain ⟨-, rfl⟩ := List.cons_eq_cons.mp written
      obtain ⟨behind, follows⟩ := exists_writeMembers_eq more
      have next : nextMember (skipSpace (',' :: '"' :: (behind ++ '\x7d' :: rest))) =
          .ok (true, behind ++ '\x7d' :: rest) := rfl
      rw [List.append_assoc, List.cons_append, List.cons_append, List.append_assoc,
        List.cons_append, follows, List.cons_append,
        readMembers_member first (by omega) (noNumberGoesOn_cons_iff.mpr (by decide)),
        next, ok_bind]
      dsimp only
      rw [if_pos rfl, ih others (by omega) follows]
      rfl

/-- The items of a list are read between its brackets. -/
theorem readsBack_array {items : List Json} (back : ∀ item ∈ items, ReadsBack depth item) :
    ReadsBack (depth + 1) (.array items) := by
  have written : (Json.array items).write = '[' :: (writeItems items ++ [']']) := by
    rw [write]
    rfl
  refine .of_cons written (by decide) ?_
  intro fuel rest enough _
  rw [List.length_append] at enough
  rw [List.append_assoc, List.singleton_append]
  by_cases some_item : items = []
  · subst some_item
    rw [writeItems]
    rfl
  · have starts := (startsItem_writeItems some_item back).append (']' :: rest)
    rw [readValue_bracket_of_startsItem starts, readItems_writeItems some_item back (by omega)]
    rfl

/-- The members of an object are read between its braces. -/
theorem readsBack_object {members : List (List Char × Json)}
    (back : ∀ member ∈ members, ReadsBack depth member.2) :
    ReadsBack (depth + 1) (.object members) := by
  have written : (Json.object members).write = '\x7b' :: (writeMembers members ++ ['\x7d']) := by
    rw [write]
    rfl
  refine .of_cons written (by decide) ?_
  intro fuel rest enough _
  rw [List.length_append] at enough
  rw [List.append_assoc, List.singleton_append]
  by_cases some_member : members = []
  · subst some_member
    rw [writeMembers]
    rfl
  · obtain ⟨text, quoted⟩ := exists_writeMembers_eq some_member
    rw [quoted, List.cons_append, readValue_brace,
      readMembers_writeMembers back (by omega) quoted]
    rfl

/-- Values without doubles are read back. -/
theorem Exact.readsBack (exact : json.Exact depth) : ReadsBack depth json := by
  -- by induction on the nesting: what stands in a list or an object is one level less deep
  induction exact with
  | null => exact .of_cons (by rw [write]) (by decide) fun _ _ => rfl
  | bool b =>
    cases b with
    | false => exact .of_cons (by rw [write]) (by decide) fun _ _ => rfl
    | true => exact .of_cons (by rw [write]) (by decide) fun _ _ => rfl
  | number exact =>
    rename_i n
    cases n with
    | natural n => exact readsBack_natural exact
    | negative n => exact readsBack_negative exact.1 exact.2
    | double bits => exact exact.elim
  | string s => exact readsBack_string s
  | array each ih => exact readsBack_array ih
  | object each ih => exact readsBack_object ih

/-- A text is read as a value if the value stands at its front and only blanks follow. -/
theorem read_eq_ok_iff :
    Json.read text = .ok json ↔
      ∃ rest, readPrefixed text = .ok (json, rest) ∧ checkEnd rest = .ok () := by
  rw [Json.read, bind_eq_ok_iff]
  constructor
  · rintro ⟨⟨value, rest⟩, front, read⟩
    obtain ⟨⟨⟩, ended, same⟩ := bind_eq_ok_iff.mp read
    cases same
    exact ⟨rest, front, ended⟩
  · rintro ⟨rest, front, ended⟩
    exact ⟨(json, rest), front, bind_eq_ok_iff.mpr ⟨(), ended, rfl⟩⟩

/-- Values without doubles that are not nested too deep are read as they were written. -/
theorem read_write (exact : json.Exact depthLimit) : Json.read json.write = .ok json := by
  have whole : readValue depthLimit (2 * json.write.length + 2) (json.write ++ []) =
      .ok (json, []) := exact.readsBack.reads (Nat.le_add_right _ _) nofun
  rw [List.append_nil] at whole
  exact read_eq_ok_iff.mpr ⟨[], whole, rfl⟩

end Values

end InputMask.Json
