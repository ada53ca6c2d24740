import InputMask.Json.Fault
import InputMask.Json.Value

/-!
# Reading JSON

Every reading function takes what is left of a text and gives a value with what is left
then, or a fault. A fault at a character that was only looked at counts the first byte of
it as read.

## Main definitions

* `readString`, `readNumber`, `readValue`: the parts of the grammar
* `checkEnd`: nothing may follow a value
* `Json.read`: reads a whole text
-/

namespace InputMask.Json

/-- A fault behind what has been read. -/
def faultAt {α : Type} (cause : Cause) (rest : List Char) : Except Fault α :=
  .error ⟨cause, rest, 0⟩

/-- A fault at the next character. -/
def faultOn {α : Type} (cause : Cause) (rest : List Char) : Except Fault α :=
  .error ⟨cause, rest, 1⟩

/-- The four characters that may stand between values. -/
def isSpace (c : Char) : Bool :=
  c = ' ' || c = '\n' || c = '\t' || c = '\r'

/-- What stands behind leading blanks. -/
def skipSpace (text : List Char) : List Char :=
  text.dropWhile isSpace

/-- Reads the rest of one of the words `null`, `true` and `false`. -/
def readWord : List Char → List Char → Except Fault (Unit × List Char)
  | [], rest => .ok ((), rest)
  | _ :: _, [] => faultAt .endInValue []
  | expected :: more, c :: rest =>
    if c = expected then readWord more rest else faultOn .expectedIdent (c :: rest)

/-! ## Strings -/

/-- The value of a hexadecimal digit. -/
def hexValue? (c : Char) : Option Nat :=
  if '0' ≤ c ∧ c ≤ '9' then some (c.toNat - '0'.toNat)
  else if 'a' ≤ c ∧ c ≤ 'f' then some (c.toNat - 'a'.toNat + 10)
  else if 'A' ≤ c ∧ c ≤ 'F' then some (c.toNat - 'A'.toNat + 10)
  else none

/-- Reads four hexadecimal digits. Four bytes are taken for them, whatever they are. -/
def readHex (text : List Char) : Except Fault (Nat × List Char) :=
  if byteLength text < 4 then faultAt .endInString []
  else
    match (text.take 4).mapM hexValue? with
    | some [a, b, c, d] => .ok (4096 * a + 256 * b + 16 * c + d, text.drop 4)
    | _ => .error ⟨.invalidEscape, text, 4⟩

/-- Reads the second half of a surrogate pair, whose first half has been read. -/
def readTrailing (leading : Nat) : List Char → Except Fault (Char × List Char)
  | [] => faultAt .endInString []
  | '\\' :: [] => faultAt .endInString []
  | '\\' :: 'u' :: rest => do
    let (trailing, rest) ← readHex rest
    if 0xdc00 ≤ trailing ∧ trailing ≤ 0xdfff then
      return (Char.ofNat (0x400 * (leading - 0xd800) + (trailing - 0xdc00) + 0x10000), rest)
    else
      faultAt .loneSurrogate rest
  | '\\' :: rest => faultOn .unfinishedHexEscape rest
  | rest => faultOn .unfinishedHexEscape rest

/-- Reads an escaped character, behind the backslash. -/
def readEscape : List Char → Except Fault (Char × List Char)
  | [] => faultAt .endInString []
  | '"' :: rest => .ok ('"', rest)
  | '\\' :: rest => .ok ('\\', rest)
  | '/' :: rest => .ok ('/', rest)
  | 'b' :: rest => .ok ('\x08', rest)
  | 'f' :: rest => .ok ('\x0c', rest)
  | 'n' :: rest => .ok ('\n', rest)
  | 'r' :: rest => .ok ('\r', rest)
  | 't' :: rest => .ok ('\t', rest)
  | 'u' :: rest => do
    let (unit, rest) ← readHex rest
    if 0xdc00 ≤ unit ∧ unit ≤ 0xdfff then
      faultAt .loneSurrogate rest
    else if 0xd800 ≤ unit ∧ unit ≤ 0xdbff then
      readTrailing unit rest
    else
      return (Char.ofNat unit, rest)
  | rest => faultOn .invalidEscape rest

/-- Reads a string behind its opening quote. -/
def readStringBody : Nat → List Char → Except Fault (List Char × List Char)
  | 0, rest => faultAt .endInString rest
  | _ + 1, [] => faultAt .endInString []
  | _ + 1, '"' :: rest => .ok ([], rest)
  | fuel + 1, '\\' :: rest => do
    let (c, rest) ← readEscape rest
    let (more, rest) ← readStringBody fuel rest
    return (c :: more, rest)
  | fuel + 1, c :: rest =>
    if c.toNat < 0x20 then faultOn .controlCharacter (c :: rest)
    else do
      let (more, rest) ← readStringBody fuel rest
      return (c :: more, rest)

/-- Reads a string behind its opening quote. -/
def readString (text : List Char) : Except Fault (List Char × List Char) :=
  readStringBody (text.length + 1) text

/-! ## Numbers -/

/-- An ASCII digit. -/
def isDecimal (c : Char) : Bool :=
  '0' ≤ c && c ≤ '9'

/-- The value of an ASCII digit. -/
def decimalValue (c : Char) : Nat :=
  c.toNat - '0'.toNat

/-- Takes digits into a significand of 64 bits as long as they fit, and gives it with the number
of digits taken and what is left. -/
def takeDigits (significand taken : Nat) : List Char → Nat × Nat × List Char
  | [] => (significand, taken, [])
  | c :: rest =>
    if isDecimal c ∧ significand * 10 + decimalValue c < Nat.pow 2 64 then
      takeDigits (significand * 10 + decimalValue c) (taken + 1) rest
    else (significand, taken, c :: rest)

/-- The double that is nearest to a natural number of 64 bits. -/
def doubleOfNat (n : Nat) : Float :=
  (UInt64.ofNat n).toFloat

/-- A power of ten as a double. -/
def powerOfTen (exponent : Nat) : Float :=
  Float.ofScientific 1 false exponent

/-- A significand times a power of ten, in floating-point arithmetic: one multiplication or
division where the power is a double, and divisions by the largest such power before it where
it is smaller. `none` if the result is no finite double. -/
def scale? : Nat → Float → Int → Option Float
  | 0, f, _ => some f
  | fuel + 1, f, exponent =>
    if exponent.natAbs ≤ 308 then
      if 0 ≤ exponent then
        let scaled := f * powerOfTen exponent.natAbs
        if scaled.isInf then none else some scaled
      else some (f / powerOfTen exponent.natAbs)
    else if f == 0 then some f
    else if 0 ≤ exponent then none
    else scale? fuel (f / powerOfTen 308) (exponent + 308)

/-- The double that is written by a sign, a significand and an exponent. -/
def doubleOf (isNegative : Bool) (significand : Nat) (exponent : Int) (rest : List Char) :
    Except Fault (Number × List Char) :=
  match scale? 8 (doubleOfNat significand) exponent with
  | none => faultAt .numberOutOfRange rest
  | some f => .ok (.double (if isNegative then (-f).toBits else f.toBits), rest)

/-- The greatest exponent that is taken at its word. -/
def exponentLimit : Nat := Nat.pow 2 31

/-- Reads the digits of an exponent, of which the first has been read; none when they exceed
the limit, and then the digits that follow are left. -/
def takeExponent (value : Nat) : List Char → Option Nat × List Char
  | [] => (some value, [])
  | c :: rest =>
    if isDecimal c then
      if value * 10 + decimalValue c < exponentLimit then
        takeExponent (value * 10 + decimalValue c) rest
      else (none, rest)
    else (some value, c :: rest)

/-- Reads an exponent behind its `e`. -/
def readExponent (isNegative : Bool) (significand : Nat) (start : Int) (text : List Char) :
    Except Fault (Number × List Char) :=
  let (raises, digits) :=
    match text with
    | '+' :: rest => (true, rest)
    | '-' :: rest => (false, rest)
    | rest => (true, rest)
  match digits with
  | [] => faultAt .endInValue []
  | c :: rest =>
    if !isDecimal c then faultOn .invalidNumber (c :: rest)
    else
      match takeExponent (decimalValue c) rest with
      | (some exponent, rest) =>
        doubleOf isNegative significand
          (if raises then start + exponent else start - exponent) rest
      | (none, rest) =>
        if significand ≠ 0 ∧ raises then faultAt .numberOutOfRange rest
        else doubleOf isNegative 0 0 (rest.dropWhile isDecimal)

/-- Reads the digits behind a decimal point; those that no longer fit the significand are passed
over. -/
def readFraction (isNegative : Bool) (significand : Nat) (start : Int) (text : List Char) :
    Except Fault (Number × List Char) :=
  let (significand, taken, rest) := takeDigits significand 0 text
  let behind := rest.dropWhile isDecimal
  if taken = 0 ∧ behind.length = rest.length then
    match rest with
    | [] => faultAt .endInValue []
    | rest => faultOn .invalidNumber rest
  else
    match behind with
    | 'e' :: exponent => readExponent isNegative significand (start - taken) exponent
    | 'E' :: exponent => readExponent isNegative significand (start - taken) exponent
    | behind => doubleOf isNegative significand (start - taken) behind

/-- An integer with its sign. A zero with a sign, and a number below all integers of 64 bits,
are doubles. -/
def integerOf (isNegative : Bool) (significand : Nat) : Number :=
  if !isNegative then .natural significand
  else if significand = 0 ∨ Nat.pow 2 63 < significand then
    .double (-doubleOfNat significand).toBits
  else .negative significand

/-- Reads what may follow the digits of an integer; the digits that did not fit the significand
count as a power of ten. -/
def readBehindInteger (isNegative : Bool) (significand : Nat) (rest : List Char) :
    Except Fault (Number × List Char) :=
  let behind := rest.dropWhile isDecimal
  let left : Int := rest.length - behind.length
  match behind with
  | '.' :: fraction => readFraction isNegative significand left fraction
  | 'e' :: exponent => readExponent isNegative significand left exponent
  | 'E' :: exponent => readExponent isNegative significand left exponent
  | behind =>
    if left = 0 then .ok (integerOf isNegative significand, behind)
    else doubleOf isNegative significand left behind

/-- Reads a number behind its sign. -/
def readNumber (isNegative : Bool) : List Char → Except Fault (Number × List Char)
  | [] => faultAt .endInValue []
  | '0' :: rest =>
    match rest with
    | c :: _ =>
      if isDecimal c then faultOn .invalidNumber rest else readBehindInteger isNegative 0 rest
    | [] => readBehindInteger isNegative 0 []
  | c :: rest =>
    if isDecimal c then
      let (significand, _, rest) := takeDigits (decimalValue c) 0 rest
      readBehindInteger isNegative significand rest
    else faultOn .invalidNumber (c :: rest)

/-! ## Values -/

/-- The depth to which lists and objects may be nested. -/
def depthLimit : Nat := 127

/-- Behind an item of a list: whether another one follows, at the start of what is left. -/
def nextItem : List Char → Except Fault (Bool × List Char)
  | [] => faultAt .endInList []
  | ']' :: rest => .ok (false, rest)
  | ',' :: rest =>
    match skipSpace rest with
    | [] => faultAt .endInValue []
    | ']' :: rest => faultOn .trailingComma (']' :: rest)
    | rest => .ok (true, rest)
  | rest => faultOn .expectedListCommaOrEnd rest

/-- Behind a member of an object: whether another one follows, whose name is left behind its
opening quote. -/
def nextMember : List Char → Except Fault (Bool × List Char)
  | [] => faultAt .endInObject []
  | '\x7d' :: rest => .ok (false, rest)
  | ',' :: rest =>
    match skipSpace rest with
    | [] => faultAt .endInValue []
    | '"' :: rest => .ok (true, rest)
    | '\x7d' :: rest => faultOn .trailingComma ('\x7d' :: rest)
    | rest => faultOn .keyNotString rest
  | rest => faultOn .expectedObjectCommaOrEnd rest

/-- Behind the opening brace of an object: whether a member follows. -/
def firstMember : List Char → Except Fault (Bool × List Char)
  | [] => faultAt .endInObject []
  | '\x7d' :: rest => .ok (false, rest)
  | '"' :: rest => .ok (true, rest)
  | rest => faultOn .keyNotString rest

/-- Reads the colon behind the name of a member. -/
def readColon (text : List Char) : Except Fault (List Char) :=
  match skipSpace text with
  | [] => faultAt .endInObject []
  | ':' :: rest => .ok rest
  | rest => faultOn .expectedColon rest

mutual

/-- Reads a value in which lists and objects may be nested to a depth. -/
def readValue (depth : Nat) : Nat → List Char → Except Fault (Json × List Char)
  | 0, rest => faultAt .endInValue rest
  | fuel + 1, text =>
    match skipSpace text with
    | [] => faultAt .endInValue []
    | 'n' :: rest => return (.null, (← readWord ['u', 'l', 'l'] rest).2)
    | 't' :: rest => return (.bool true, (← readWord ['r', 'u', 'e'] rest).2)
    | 'f' :: rest => return (.bool false, (← readWord ['a', 'l', 's', 'e'] rest).2)
    | '"' :: rest => do
      let (s, rest) ← readString rest
      return (.string s, rest)
    | '-' :: rest => do
      let (n, rest) ← readNumber true rest
      return (.number n, rest)
    | '[' :: rest =>
      match depth with
      | 0 => faultOn .recursionLimit ('[' :: rest)
      | depth + 1 => do
        match skipSpace rest with
        | [] => faultAt .endInList []
        | ']' :: rest => return (.array [], rest)
        | rest =>
          let (items, rest) ← readItems depth fuel rest
          return (.array items, rest)
    | '\x7b' :: rest =>
      match depth with
      | 0 => faultOn .recursionLimit ('\x7b' :: rest)
      | depth + 1 => do
        let (follows, rest) ← firstMember (skipSpace rest)
        if follows then
          let (members, rest) ← readMembers depth fuel rest
          return (.object members, rest)
        else
          return (.object [], rest)
    | c :: rest =>
      if isDecimal c then do
        let (n, rest) ← readNumber false (c :: rest)
        return (.number n, rest)
      else faultOn .expectedValue (c :: rest)

/-- Reads the items of a list, of which there is at least one, and its closing bracket. -/
def readItems (depth : Nat) : Nat → List Char → Except Fault (List Json × List Char)
  | 0, rest => faultAt .endInList rest
  | fuel + 1, text => do
    let (item, rest) ← readValue depth fuel text
    let (follows, rest) ← nextItem (skipSpace rest)
    if follows then
      let (items, rest) ← readItems depth fuel rest
      return (item :: items, rest)
    else
      return ([item], rest)

/-- Reads the members of an object behind the opening quote of the first name, and the closing
brace. -/
def readMembers (depth : Nat) :
    Nat → List Char → Except Fault (List (List Char × Json) × List Char)
  | 0, rest => faultAt .endInObject rest
  | fuel + 1, text => do
    let (name, rest) ← readString text
    let rest ← readColon rest
    let (value, rest) ← readValue depth fuel rest
    let (follows, rest) ← nextMember (skipSpace rest)
    if follows then
      let (members, rest) ← readMembers depth fuel rest
      return ((name, value) :: members, rest)
    else
      return ([(name, value)], rest)

end

/-- Reads a value at the start of a text. -/
def readPrefixed (text : List Char) : Except Fault (Json × List Char) :=
  readValue depthLimit (2 * text.length + 2) text

/-- Nothing but blanks may be left. -/
def checkEnd (rest : List Char) : Except Fault Unit :=
  match skipSpace rest with
  | [] => .ok ()
  | rest => faultOn .trailingCharacters rest

/-- Reads a text that is one value. -/
def read (text : List Char) : Except Fault Json := do
  let (value, rest) ← readPrefixed text
  checkEnd rest
  return value

end InputMask.Json
