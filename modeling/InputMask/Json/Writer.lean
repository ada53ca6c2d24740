import InputMask.Decimal.Shortest
import InputMask.Json.Value

/-!
# Writing JSON

Values are written on one line and without blanks. Quotes, backslashes and control
characters are escaped, everything else stands for itself.

## Main definitions

* `escape`: a character within a string
* `quote`: a string
* `Json.write`: a value
-/

namespace InputMask.Json

/-- The lower-case hexadecimal digit of a value below sixteen. -/
def hexDigit (n : Nat) : Char :=
  if n < 10 then Char.ofNat ('0'.toNat + n) else Char.ofNat ('a'.toNat + (n - 10))

/-- A character as it is written within a string. -/
def escape (c : Char) : List Char :=
  if c = '"' then ['\\', '"']
  else if c = '\\' then ['\\', '\\']
  else if c = '\n' then ['\\', 'n']
  else if c = '\t' then ['\\', 't']
  else if c = '\r' then ['\\', 'r']
  else if c = '\x08' then ['\\', 'b']
  else if c = '\x0c' then ['\\', 'f']
  else if c.toNat < 0x20 then
    ['\\', 'u', '0', '0', hexDigit (c.toNat / 16), hexDigit (c.toNat % 16)]
  else [c]

/-- A string in quotes. -/
def quote (s : List Char) : List Char :=
  '"' :: s.flatMap escape ++ ['"']

/-- Doubles are written plainly from a hundred-thousandth up to ten to the sixteenth. -/
def doubleText : NumberText :=
  ⟨-5, 16⟩

/-- A double that is given by its bits. -/
def writeDouble (bits : UInt64) : List Char :=
  let magnitude := doubleText.render (.shortest (.ofBits (bits.toNat % Nat.pow 2 63)))
  if Nat.pow 2 63 ≤ bits.toNat then '-' :: magnitude else magnitude

/-- A number. -/
def writeNumber : Number → List Char
  | .natural n => NumberText.digitsOf n
  | .negative n => '-' :: NumberText.digitsOf n
  | .double bits => writeDouble bits

mutual

/-- A value. -/
def write : Json → List Char
  | .null => ['n', 'u', 'l', 'l']
  | .bool true => ['t', 'r', 'u', 'e']
  | .bool false => ['f', 'a', 'l', 's', 'e']
  | .number n => writeNumber n
  | .string s => quote s
  | .array items => '[' :: writeItems items ++ [']']
  | .object members => '\x7b' :: writeMembers members ++ ['\x7d']

/-- Values with commas between them. -/
def writeItems : List Json → List Char
  | [] => []
  | [item] => item.write
  | item :: items => item.write ++ ',' :: writeItems items

/-- Members with commas between them. -/
def writeMembers : List (List Char × Json) → List Char
  | [] => []
  | [(name, value)] => quote name ++ ':' :: value.write
  | (name, value) :: members => quote name ++ ':' :: value.write ++ ',' :: writeMembers members

end

end InputMask.Json
