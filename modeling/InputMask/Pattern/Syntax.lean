/-!
# Syntax of patterns

A pattern is read into a tree that keeps, for every part, the stretch of the pattern text
it was read from, so that a fault found later can be shown in place.

## Main definitions

* `Span`: a stretch of the pattern text
* `ClassTree`: the contents of a bracketed class
* `Tree`: a pattern
-/

namespace InputMask.Pattern

/-- The characters of the pattern from one offset up to, but not including, another. -/
structure Span where
  start : Nat
  stop : Nat
  deriving DecidableEq, Repr

/-- The stretch of a pattern before which nothing and in which nothing stands. -/
def Span.at (offset : Nat) : Span :=
  ⟨offset, offset⟩

/-- A character as written: plainly, escaped, or by the two digits of a byte escape. -/
structure Literal where
  span : Span
  char : Char
  isByteEscape : Bool
  deriving DecidableEq, Repr

/-- The switches that a pattern can turn on and off. -/
inductive Switch where
  | ignoreCase
  | multiLine
  | dotAll
  | swapGreed
  | unicode
  | crlf
  | verbose
  deriving DecidableEq, Repr

/-- A switch that is turned on or off. -/
structure Setting where
  switch : Switch
  on : Bool
  deriving DecidableEq, Repr

/-- Conditions on a place between characters. -/
inductive Assertion where
  | lineStart
  | lineEnd
  | textStart
  | textEnd
  | wordBoundary
  | notWordBoundary
  | wordStart
  | wordEnd
  | wordStartHalf
  | wordEndHalf
  deriving DecidableEq, Repr

/-- The classes with a one-letter escape. -/
inductive Shorthand where
  | digit
  | space
  | word
  deriving DecidableEq, Repr

/-- The classes of ASCII characters that have a name. -/
inductive AsciiClass where
  | alnum
  | alpha
  | ascii
  | blank
  | cntrl
  | digit
  | graph
  | lower
  | print
  | punct
  | space
  | upper
  | word
  | xdigit
  deriving DecidableEq, Repr

/-- What a property escape asks for. -/
inductive PropertyQuery where
  | named (name : List Char)
  | valued (name value : List Char)
  deriving DecidableEq, Repr

/-- How two parts of a class are combined. -/
inductive SetOperator where
  | inter
  | diff
  | symmDiff
  deriving DecidableEq, Repr

/-- The contents of a bracketed class. -/
inductive ClassTree where
  | empty (span : Span)
  | literal (literal : Literal)
  | range (span : Span) (first last : Literal)
  | ascii (span : Span) (negated : Bool) (named : AsciiClass)
  | property (span : Span) (negated : Bool) (query : PropertyQuery)
  | shorthand (span : Span) (negated : Bool) (named : Shorthand)
  | bracketed (span : Span) (negated : Bool) (content : ClassTree)
  | union (span : Span) (items : List ClassTree)
  | operation (span : Span) (operator : SetOperator) (left right : ClassTree)

/-- Where a class tree was read from. -/
def ClassTree.span : ClassTree → Span
  | empty s => s
  | literal l => l.span
  | range s _ _ => s
  | ascii s _ _ => s
  | property s _ _ => s
  | shorthand s _ _ => s
  | bracketed s _ _ => s
  | union s _ => s
  | operation s _ _ _ => s

/-- A pattern as read. -/
inductive Tree where
  | empty (span : Span)
  | settings (span : Span) (settings : List Setting)
  | literal (literal : Literal)
  | dot (span : Span)
  | assertion (span : Span) (kind : Assertion)
  | property (span : Span) (negated : Bool) (query : PropertyQuery)
  | shorthand (span : Span) (negated : Bool) (named : Shorthand)
  | bracketed (span : Span) (negated : Bool) (content : ClassTree)
  | repetition (span : Span) (least : Nat) (most : Option Nat) (greedy : Bool) (part : Tree)
  | group (span : Span) (captures : Bool) (settings : List Setting) (part : Tree)
  | sequence (span : Span) (parts : List Tree)
  | alternation (span : Span) (branches : List Tree)

/-- Where a tree was read from. -/
def Tree.span : Tree → Span
  | empty s => s
  | settings s _ => s
  | literal l => l.span
  | dot s => s
  | assertion s _ => s
  | property s _ _ => s
  | shorthand s _ _ => s
  | bracketed s _ _ => s
  | repetition s _ _ _ _ => s
  | group s _ _ _ => s
  | sequence s _ => s
  | alternation s _ => s

end InputMask.Pattern
