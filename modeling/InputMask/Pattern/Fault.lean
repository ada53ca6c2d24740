import InputMask.Pattern.Syntax

/-!
# Faults of patterns

What can be wrong with a pattern, and the report that shows where: the pattern with
carets under the stretch in question. A pattern of several lines is shown between rulers
with its lines numbered.

## Main definitions

* `Cause`, `Cause.message`
* `Fault`: a cause with its place
* `Fault.report`: the text shown for a fault in a pattern
-/

namespace InputMask.Pattern

/-- What is wrong with a pattern. -/
inductive Cause where
  | classEscapeInvalid
  | classRangeInvalid
  | classRangeLiteral
  | classUnclosed
  | decimalInvalid
  | hexEmpty
  | hexInvalid
  | hexInvalidDigit
  | escapeUnfinished
  | escapeUnrecognized
  | flagDanglingNegation
  | flagDuplicate
  | flagRepeatedNegation
  | flagMissing
  | flagUnrecognized
  | groupNameDuplicate
  | groupNameEmpty
  | groupNameInvalid
  | groupNameUnclosed
  | groupUnclosed
  | groupUnopened
  | nestLimitExceeded (limit : Nat)
  | repetitionCountInvalid
  | repetitionCountMissing
  | repetitionCountUnclosed
  | repetitionMissing
  | wordAssertionUnclosed
  | wordAssertionUnrecognized
  | wordAssertionUnfinished
  | propertyClassInvalid
  | backreference
  | lookAround
  | unicodeNotAllowed
  | invalidUtf8
  | propertyNotFound
  | propertyValueNotFound
  deriving DecidableEq, Repr

/-- The words for a cause. -/
def Cause.message : Cause → String
  | classEscapeInvalid => "invalid escape sequence found in character class"
  | classRangeInvalid => "invalid character class range, the start must be <= the end"
  | classRangeLiteral => "invalid range boundary, must be a literal"
  | classUnclosed => "unclosed character class"
  | decimalInvalid => "decimal literal invalid"
  | hexEmpty => "hexadecimal literal empty"
  | hexInvalid => "hexadecimal literal is not a Unicode scalar value"
  | hexInvalidDigit => "invalid hexadecimal digit"
  | escapeUnfinished => "incomplete escape sequence, reached end of pattern prematurely"
  | escapeUnrecognized => "unrecognized escape sequence"
  | flagDanglingNegation => "dangling flag negation operator"
  | flagDuplicate => "duplicate flag"
  | flagRepeatedNegation => "flag negation operator repeated"
  | flagMissing => "expected flag but got end of regex"
  | flagUnrecognized => "unrecognized flag"
  | groupNameDuplicate => "duplicate capture group name"
  | groupNameEmpty => "empty capture group name"
  | groupNameInvalid => "invalid capture group character"
  | groupNameUnclosed => "unclosed capture group name"
  | groupUnclosed => "unclosed group"
  | groupUnopened => "unopened group"
  | nestLimitExceeded limit =>
    "exceed the maximum number of nested parentheses/brackets (" ++ toString limit ++ ")"
  | repetitionCountInvalid => "invalid repetition count range, the start must be <= the end"
  | repetitionCountMissing => "repetition quantifier expects a valid decimal"
  | repetitionCountUnclosed => "unclosed counted repetition"
  | repetitionMissing => "repetition operator missing expression"
  | wordAssertionUnclosed =>
    "special word boundary assertion is either unclosed or contains an invalid character"
  | wordAssertionUnrecognized =>
    "unrecognized special word boundary assertion, valid choices are: start, end, " ++
      "start-half or end-half"
  | wordAssertionUnfinished =>
    "found either the beginning of a special word boundary or a bounded repetition on a \\b " ++
      "with an opening brace, but no closing brace"
  | propertyClassInvalid => "invalid Unicode character class"
  | backreference => "backreferences are not supported"
  | lookAround => "look-around, including look-ahead and look-behind, is not supported"
  | unicodeNotAllowed => "Unicode not allowed here"
  | invalidUtf8 => "pattern can match invalid UTF-8"
  | propertyNotFound => "Unicode property not found"
  | propertyValueNotFound => "Unicode property value not found"

/-- A cause with the stretch of the pattern it concerns. What appears twice also has the
stretch of its first appearance. -/
structure Fault where
  cause : Cause
  span : Span
  earlier : Option Span := none
  deriving DecidableEq, Repr

/-- A place in a pattern by line and column, both counted from one. -/
structure Place where
  line : Nat
  column : Nat
  deriving DecidableEq, Repr

/-- The place of an offset. -/
def Place.ofOffset (pattern : List Char) (offset : Nat) : Place :=
  (pattern.take offset).foldl
    (fun place c => if c = '\n' then ⟨place.line + 1, 1⟩ else ⟨place.line, place.column + 1⟩)
    ⟨1, 1⟩

/-- The places that a span runs between. -/
structure Stretch where
  start : Place
  stop : Place
  deriving DecidableEq, Repr

/-- The stretch of a span. -/
def Stretch.ofSpan (pattern : List Char) (span : Span) : Stretch :=
  ⟨.ofOffset pattern span.start, .ofOffset pattern span.stop⟩

/-- Whether a stretch stays within one line. -/
def Stretch.isOneLine (stretch : Stretch) : Bool :=
  stretch.start.line = stretch.stop.line

/-- The lines of a text, without their line feeds and a carriage return before one; nothing
stands behind the last line feed. -/
def linesOf (text : List Char) : List (List Char) :=
  let close (line : List Char) : List Char :=
    if line.getLast? = some '\r' then line.dropLast else line
  let rec go (line : List Char) : List Char → List (List Char)
    | [] => if line.isEmpty then [] else [line.reverse]
    | c :: rest => if c = '\n' then close line.reverse :: go [] rest else go (c :: line) rest
  go [] text

/-- Blanks and carets under the stretches of one line, which are given from left to right. -/
def caretLine (padding : Nat) (stretches : List Stretch) : List Char :=
  List.replicate padding ' ' ++
    (stretches.foldl
      (fun (done : List Char) stretch =>
        let width := max 1 (stretch.stop.column - stretch.start.column)
        done ++ List.replicate (stretch.start.column - 1 - done.length) ' ' ++
          List.replicate width '^')
      [])

/-- A line of the pattern, and under it the carets that belong to it. -/
def markedLine (lead : List Char) (stretches : List Stretch) (number : Nat) (line : List Char) :
    List (List Char) :=
  let here := stretches.filter fun s => s.isOneLine && s.start.line = number
  (lead ++ line) :: (if here.isEmpty then [] else [caretLine lead.length here])

/-- The number of a line, right-aligned, with the colon behind it. -/
def lineLead (width number : Nat) : List Char :=
  let digits := (toString number).toList
  List.replicate (width - digits.length) ' ' ++ digits ++ [':', ' ']

namespace Fault

/-- The stretches that a fault marks, in the order of the text. -/
def spans (fault : Fault) : List Span :=
  match fault.earlier with
  | none => [fault.span]
  | some earlier =>
    if earlier.start < fault.span.start then [earlier, fault.span] else [fault.span, earlier]

/-- The note for a stretch of several lines. -/
def lineNote (stretch : Stretch) : List Char :=
  ("on line " ++ toString stretch.start.line ++ " (column " ++ toString stretch.start.column ++
    ") through line " ++ toString stretch.stop.line ++ " (column " ++
    toString (stretch.stop.column - 1) ++ ")").toList

/-- The report on a fault of a pattern. -/
def report (pattern : List Char) (fault : Fault) : List Char :=
  let stretches := fault.spans.map (Stretch.ofSpan pattern)
  let lines := linesOf pattern
  let closing := ("error: " ++ fault.cause.message).toList
  let body :=
    if pattern.contains '\n' then
      let count := lines.length + (if pattern.getLast? = some '\n' then 1 else 0)
      let width := (toString count).length
      let ruler := List.replicate 79 '~'
      let marked := (lines.zipIdx 1).flatMap fun (line, number) =>
        markedLine (lineLead width number) stretches number line
      let notes := (stretches.filter (!·.isOneLine)).map lineNote
      ruler :: marked ++ ruler :: notes
    else
      lines.flatMap (markedLine [' ', ' ', ' ', ' '] stretches 1)
  ((("regex parse error:".toList :: body) ++ [closing]).intersperse ['\n']).flatten

end Fault

end InputMask.Pattern
