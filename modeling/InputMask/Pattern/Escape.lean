import InputMask.Pattern.Cursor

/-!
# Escapes

What a backslash introduces: hexadecimal characters, shorthand and property classes,
conditions, and characters that would otherwise mean something.

## Main definitions

* `Primitive`: what one character or escape amounts to
* `Reader.escape`: reads an escape
-/

namespace InputMask.Pattern

/-- What one character or one escape amounts to. -/
inductive Primitive where
  | literal (literal : Literal)
  | dot (span : Span)
  | assertion (span : Span) (kind : Assertion)
  | property (span : Span) (negated : Bool) (query : PropertyQuery)
  | shorthand (span : Span) (negated : Bool) (named : Shorthand)

namespace Primitive

/-- Where a primitive was read from. -/
def span : Primitive → Span
  | literal l => l.span
  | dot s => s
  | assertion s _ => s
  | property s _ _ => s
  | shorthand s _ _ => s

/-- A primitive as a pattern. -/
def tree : Primitive → Tree
  | literal l => .literal l
  | dot s => .dot s
  | assertion s kind => .assertion s kind
  | property s negated query => .property s negated query
  | shorthand s negated named => .shorthand s negated named

end Primitive

/-- The characters that mean something in patterns. -/
def isMeta (c : Char) : Bool :=
  "\\.+*?()|[]\x7b\x7d^$#&-~".toList.contains c

/-- The characters that may be escaped to stand for themselves: all of ASCII but letters,
digits and angle brackets. -/
def isEscapable (c : Char) : Bool :=
  isMeta c ||
    (c.toNat < 128 && !c.isAlphanum && c ≠ '<' && c ≠ '>')

/-- The characters that control escapes stand for. -/
def controlEscape? : Char → Option Char
  | 'a' => some '\x07'
  | 'f' => some '\x0c'
  | 't' => some '\t'
  | 'n' => some '\n'
  | 'r' => some '\r'
  | 'v' => some '\x0b'
  | _ => none

/-- The conditions that one-letter escapes stand for. -/
def assertionEscape? : Char → Option Assertion
  | 'A' => some .textStart
  | 'z' => some .textEnd
  | 'b' => some .wordBoundary
  | 'B' => some .notWordBoundary
  | '<' => some .wordStart
  | '>' => some .wordEnd
  | _ => none

/-- The classes that one-letter escapes stand for, and whether they are negated. -/
def shorthandEscape? : Char → Option (Bool × Shorthand)
  | 'd' => some (false, .digit)
  | 's' => some (false, .space)
  | 'w' => some (false, .word)
  | 'D' => some (true, .digit)
  | 'S' => some (true, .space)
  | 'W' => some (true, .word)
  | _ => none

/-- The conditions that have a name in braces. -/
def namedBoundary? (name : List Char) : Option Assertion :=
  match String.ofList name with
  | "start" => some .wordStart
  | "end" => some .wordEnd
  | "start-half" => some .wordStartHalf
  | "end-half" => some .wordEndHalf
  | _ => none

/-- The character that hexadecimal digits write, unless they write none. -/
def hexChar? (digits : List Char) : Option Char :=
  match Unicode.hexNumber? digits with
  | some n => if n.isValidChar then some (Char.ofNat n) else none
  | none => none

/-- What the text between the braces of a property escape asks for, and whether it asks for the
opposite. The first of `!=`, `:` and `=` that occurs, in this order of preference, divides name
and value, and `!=` asks for the opposite. -/
def PropertyQuery.ofText (text : List Char) : Bool × PropertyQuery :=
  let rec cut (mark : List Char) (before : List Char) :
      List Char → Option (List Char × List Char)
    | [] => none
    | c :: rest =>
      if mark.isPrefixOf (c :: rest) then some (before.reverse, (c :: rest).drop mark.length)
      else cut mark (c :: before) rest
  match cut ['!', '='] [] text with
  | some (name, value) => (true, .valued name value)
  | none =>
    match (cut [':'] [] text).or (cut ['='] [] text) with
    | some (name, value) => (false, .valued name value)
    | none => (false, .named text)

namespace Reader

/-- Reads characters up to a closing brace or the end, stepping over the next one first. -/
def upToBrace (check : Char → Reader Unit) : Nat → Reader (List Char)
  | 0 => return []
  | fuel + 1 => do
    advanceOverBlanks
    match ← peek? with
    | none | some '\x7d' => return []
    | some c =>
      check c
      return c :: (← upToBrace check fuel)

/-- Refuses what is no hexadecimal digit. -/
def checkHexDigit (c : Char) : Reader Unit := do
  if (Unicode.hexValue? c).isNone then
    fail .hexInvalidDigit (← nextSpan)

/-- Reads a number of hexadecimal digits. -/
def hexDigits : Nat → Reader (List Char)
  | 0 => return []
  | count + 1 => do
    match ← peek? with
    | none => fail .escapeUnfinished (← here)
    | some c =>
      checkHexDigit c
      advanceOverBlanks
      return c :: (← hexDigits count)

/-- Reads the rest of a hexadecimal escape, whose letter comes next. -/
def hexEscape (start : Nat) (letter : Char) : Reader Primitive := do
  advanceOverBlanks
  let opening ← offset
  if (← peek?) = some '\x7b' then
    let digits ← upToBrace checkHexDigit (← rest).length
    if (← peek?).isNone then
      fail .escapeUnfinished (← since opening)
    let stop ← offset
    advanceOverBlanks
    if digits.isEmpty then
      fail .hexEmpty (← since opening)
    match hexChar? digits with
    | none => fail .hexInvalid ⟨opening + 1, stop⟩
    | some c => return .literal ⟨← since start, c, false⟩
  else
    let count := if letter = 'x' then 2 else if letter = 'u' then 4 else 8
    let digits ← hexDigits count
    match hexChar? digits with
    | none => fail .hexInvalid (← since opening)
    | some c => return .literal ⟨← since start, c, letter = 'x'⟩

/-- Reads the rest of a property escape, whose letter comes next. -/
def propertyEscape (start : Nat) (letter : Char) : Reader Primitive := do
  let negated := decide (letter = 'P')
  advanceOverBlanks
  match ← peek? with
  | none => fail .escapeUnfinished (← here)
  | some '\x7b' =>
    let text ← upToBrace (fun _ => pure ()) (← rest).length
    if (← peek?).isNone then
      fail .escapeUnfinished (← here)
    advance
    let (opposite, query) := PropertyQuery.ofText text
    return .property (← since start) (negated != opposite) query
  | some c =>
    if c = '\\' then
      fail .propertyClassInvalid (← nextSpan)
    advanceOverBlanks
    return .property (← since start) negated (.named [c])

/-- Reads letters and hyphens as far as they go. -/
def boundaryName : Nat → Reader (List Char)
  | 0 => return []
  | fuel + 1 => do
    match ← peek? with
    | none => return []
    | some c =>
      if c.isAlpha || c = '-' then
        advanceOverBlanks
        return c :: (← boundaryName fuel)
      else
        return []

/-- Reads the name in braces that may follow a word boundary. Braces that start otherwise than
with a name are left to be read as a count. -/
def boundaryKind? (start : Nat) : Reader (Option Assertion) := do
  let before ← get
  let opening ← offset
  advanceOverBlanks
  match ← peek? with
  | none => fail .wordAssertionUnfinished (← since start)
  | some c =>
    let content ← offset
    if !(c.isAlpha || c = '-') then
      set before
      return none
    let name ← boundaryName (← rest).length
    if (← peek?) ≠ some '\x7d' then
      fail .wordAssertionUnclosed (← since opening)
    let stop ← offset
    advance
    match namedBoundary? name with
    | some kind => return some kind
    | none => fail .wordAssertionUnrecognized ⟨content, stop⟩

/-- Reads the rest of an escape that stands for a condition. -/
def assertionEscape (start : Nat) (kind : Assertion) : Reader Primitive := do
  if kind = .wordBoundary && (← peek?) = some '\x7b' then
    match ← boundaryKind? start with
    | some named => return .assertion (← since start) named
    | none => return .assertion (← since start) kind
  else
    return .assertion (← since start) kind

/-- Reads an escape, whose backslash comes next. -/
def escape : Reader Primitive := do
  let start ← offset
  advance
  match ← peek? with
  | none => fail .escapeUnfinished (← since start)
  | some c =>
    if c.isDigit then
      fail .backreference ⟨start, (← offset) + 1⟩
    else if c = 'x' || c = 'u' || c = 'U' then
      hexEscape start c
    else if c = 'p' || c = 'P' then
      propertyEscape start c
    else
      advance
      let span ← since start
      if isEscapable c then
        return .literal ⟨span, c, false⟩
      match shorthandEscape? c, controlEscape? c, assertionEscape? c with
      | some (negated, named), _, _ => return .shorthand span negated named
      | none, some control, _ => return .literal ⟨span, control, false⟩
      | none, none, some kind => assertionEscape start kind
      | none, none, none => fail .escapeUnrecognized span

end Reader

end InputMask.Pattern
