/-!
# Faults of JSON texts

A fault is found at some place in a text. It is reported with the line and with the
number of bytes read on that line.

## Main definitions

* `Json.Cause`, `Json.Cause.message`
* `Json.Fault`: a cause and what was left of the text
* `Json.Fault.message`: the report on a fault of a text
-/

namespace InputMask.Json

/-- What is wrong with a JSON text, or with the data in it. -/
inductive Cause where
  | endInValue
  | endInList
  | endInObject
  | endInString
  | expectedColon
  | expectedListCommaOrEnd
  | expectedObjectCommaOrEnd
  | expectedIdent
  | expectedValue
  | invalidEscape
  | invalidNumber
  | numberOutOfRange
  | controlCharacter
  | keyNotString
  | loneSurrogate
  | unfinishedHexEscape
  | trailingComma
  | trailingCharacters
  | recursionLimit
  /-- The text is sound, but not what is read from it. -/
  | data (message : List Char)
  deriving DecidableEq, Repr

/-- The words for a cause. -/
def Cause.message : Cause → List Char
  | endInValue => "EOF while parsing a value".toList
  | endInList => "EOF while parsing a list".toList
  | endInObject => "EOF while parsing an object".toList
  | endInString => "EOF while parsing a string".toList
  | expectedColon => "expected `:`".toList
  | expectedListCommaOrEnd => "expected `,` or `]`".toList
  | expectedObjectCommaOrEnd => "expected `,` or `\x7d`".toList
  | expectedIdent => "expected ident".toList
  | expectedValue => "expected value".toList
  | invalidEscape => "invalid escape".toList
  | invalidNumber => "invalid number".toList
  | numberOutOfRange => "number out of range".toList
  | controlCharacter => "control character (\\u0000-\\u001F) found while parsing a string".toList
  | keyNotString => "key must be a string".toList
  | loneSurrogate => "lone leading surrogate in hex escape".toList
  | unfinishedHexEscape => "unexpected end of hex escape".toList
  | trailingComma => "trailing comma".toList
  | trailingCharacters => "trailing characters".toList
  | recursionLimit => "recursion limit exceeded".toList
  | data message => message

/-- A fault: its cause, what was left of the text, and how many bytes of that had been looked
at. -/
structure Fault where
  cause : Cause
  rest : List Char
  seen : Nat
  deriving DecidableEq, Repr

/-- The number of bytes that a text takes in UTF-8. -/
def byteLength (text : List Char) : Nat :=
  text.foldl (fun bytes c => bytes + c.utf8Size) 0

/-- A place in a text: the line, counted from one, and the bytes read on it. -/
structure Place where
  line : Nat
  column : Nat
  deriving DecidableEq, Repr

/-- The place behind a number of bytes. -/
def Place.behind (place : Place) : List Char → Nat → Place
  | [], _ => place
  | c :: rest, bytes =>
    if bytes < c.utf8Size then { place with column := place.column + bytes }
    else if c = '\n' then behind ⟨place.line + 1, 0⟩ rest (bytes - c.utf8Size)
    else behind { place with column := place.column + c.utf8Size } rest (bytes - c.utf8Size)

/-- The place of a fault in a text. -/
def Fault.place (text : List Char) (fault : Fault) : Place :=
  let left := byteLength fault.rest
  Place.behind ⟨1, 0⟩ text (byteLength text - left + min fault.seen left)

/-- The report on a fault of a text. -/
def Fault.message (text : List Char) (fault : Fault) : List Char :=
  let place := fault.place text
  fault.cause.message ++
    (" at line " ++ toString place.line ++ " column " ++ toString place.column).toList

end InputMask.Json
