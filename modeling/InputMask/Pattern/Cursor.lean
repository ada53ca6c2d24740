import InputMask.Pattern.Fault
import InputMask.Unicode.Property

/-!
# Walking over a pattern

The reading functions share a cursor: the part of the pattern that is still to be read,
its offset, whether blanks and comments are skipped, and the group names met so far.

## Main definitions

* `Cursor`, `Reader`
* `Reader.advance`, `Reader.advanceOverBlanks`: the two ways to step over a character
-/

namespace InputMask.Pattern

/-- Where reading has got to. -/
structure Cursor where
  rest : List Char
  offset : Nat
  /-- Whether blanks and comments are skipped. -/
  verbose : Bool
  /-- The group names read so far, each with its place. -/
  names : List (List Char × Span)

/-- The start of a pattern. -/
def Cursor.ofPattern (pattern : List Char) : Cursor :=
  ⟨pattern, 0, false, []⟩

/-- A reading function: it moves the cursor and gives a value, or stops at a fault. -/
abbrev Reader := StateT Cursor (Except Fault)

/-- White space in patterns. -/
def isBlank (c : Char) : Bool :=
  Unicode.blanks.contains c.toNat

/-- What stands behind leading blanks and comments, a comment running from `#` to the end of
its line; the flag tells whether a comment has begun. -/
def dropBlanks (inComment : Bool) : List Char → List Char
  | [] => []
  | c :: rest =>
    if inComment then dropBlanks (c ≠ '\n') rest
    else if isBlank c then dropBlanks false rest
    else if c = '#' then dropBlanks true rest
    else c :: rest

namespace Reader

/-- Stops at a fault. -/
def fail {α : Type} (cause : Cause) (span : Span) : Reader α :=
  throw ⟨cause, span, none⟩

/-- Stops at something that has appeared before. -/
def failAgain {α : Type} (cause : Cause) (span earlier : Span) : Reader α :=
  throw ⟨cause, span, some earlier⟩

/-- The offset of the next character. -/
def offset : Reader Nat :=
  return (← get).offset

/-- What is still to be read. -/
def rest : Reader (List Char) :=
  return (← get).rest

/-- The next character. -/
def peek? : Reader (Option Char) :=
  return (← get).rest.head?

/-- The span of the next character. -/
def nextSpan : Reader Span :=
  return ⟨(← get).offset, (← get).offset + 1⟩

/-- The empty span before the next character. -/
def here : Reader Span :=
  return .at (← get).offset

/-- The span from an offset up to the next character. -/
def since (start : Nat) : Reader Span :=
  return ⟨start, (← get).offset⟩

/-- Steps over a number of characters. -/
def advanceBy (count : Nat) : Reader Unit :=
  modify fun c =>
    { c with rest := c.rest.drop count, offset := c.offset + (c.rest.take count).length }

/-- Steps over one character. -/
def advance : Reader Unit :=
  advanceBy 1

/-- Steps over blanks and comments where they are skipped. -/
def skipBlanks : Reader Unit :=
  modify fun c =>
    if c.verbose then
      let rest := dropBlanks false c.rest
      { c with rest := rest, offset := c.offset + (c.rest.length - rest.length) }
    else c

/-- Steps over one character and the blanks behind it. -/
def advanceOverBlanks : Reader Unit := do
  advance
  skipBlanks

/-- Steps over a text if it comes next. -/
def accept (text : List Char) : Reader Bool := do
  if text.isPrefixOf (← rest) then
    advanceBy text.length
    return true
  else
    return false

/-- The character behind the next one, blanks and the first `#` of a comment passed over where
they are skipped. -/
def peekBehind? : Reader (Option Char) := do
  let cursor ← get
  let behind := cursor.rest.drop 1
  if !cursor.verbose then
    return behind.head?
  let unblanked := behind.dropWhile isBlank
  let significant :=
    match unblanked with
    | '#' :: comment => comment.dropWhile isBlank
    | other => other
  return (significant.head?).or behind.head?

end Reader

end InputMask.Pattern
