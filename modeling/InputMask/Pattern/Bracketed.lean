import InputMask.Pattern.Escape

/-!
# Bracketed classes

A class in brackets holds characters, ranges, escapes, named ASCII classes and nested
classes; `&&`, `--` and `~~` combine what stands on their two sides, from left to right.

## Main definitions

* `ClassLevel`: an open bracket with what has been read behind it
* `Reader.bracketed`: reads a class
-/

namespace InputMask.Pattern

/-- The ASCII class of a name. -/
def AsciiClass.ofName? (name : List Char) : Option AsciiClass :=
  match String.ofList name with
  | "alnum" => some .alnum
  | "alpha" => some .alpha
  | "ascii" => some .ascii
  | "blank" => some .blank
  | "cntrl" => some .cntrl
  | "digit" => some .digit
  | "graph" => some .graph
  | "lower" => some .lower
  | "print" => some .print
  | "punct" => some .punct
  | "space" => some .space
  | "upper" => some .upper
  | "word" => some .word
  | "xdigit" => some .xdigit
  | _ => none

/-- A primitive as a part of a class; conditions have no place there. -/
def Primitive.classTree : Primitive → Except Fault ClassTree
  | literal l => .ok (.literal l)
  | property s negated query => .ok (.property s negated query)
  | shorthand s negated named => .ok (.shorthand s negated named)
  | dot s => .error ⟨.classEscapeInvalid, s, none⟩
  | assertion s _ => .error ⟨.classEscapeInvalid, s, none⟩

/-- A primitive as an end of a range, which must be one character. -/
def Primitive.rangeEnd : Primitive → Except Fault Literal
  | literal l => .ok l
  | other => .error ⟨.classRangeLiteral, other.span, none⟩

/-- An open bracket: where it opened, whether it is negated, what stands before the last
operator, and the items read since then, the last one first. -/
structure ClassLevel where
  opener : Span
  negated : Bool
  left : Option (SetOperator × ClassTree)
  items : List ClassTree
  /-- Where the items would start if there were none. -/
  start : Nat

namespace ClassLevel

/-- The level with another item. -/
def push (level : ClassLevel) (item : ClassTree) : ClassLevel :=
  { level with items := item :: level.items }

/-- The items since the last operator, as one tree. -/
def operand (level : ClassLevel) : ClassTree :=
  match level.items with
  | [] => .empty (.at level.start)
  | [item] => item
  | last :: others =>
    let first := (others.getLast?).getD last
    .union ⟨first.span.start, last.span.stop⟩ (last :: others).reverse

/-- Everything in the level, as one tree. -/
def content (level : ClassLevel) : ClassTree :=
  match level.left with
  | none => level.operand
  | some (operator, left) =>
    let right := level.operand
    .operation ⟨left.span.start, right.span.stop⟩ operator left right

end ClassLevel

namespace Reader

/-- Refuses a class at the end of the pattern; the innermost open bracket is the one shown. -/
def unclosed {α : Type} (level : ClassLevel) : Reader α :=
  fail .classUnclosed level.opener

/-- Steps on inside the opening of a class, which must not be the end of the pattern. -/
def advanceInOpening (span : Reader Span) : Reader Unit := do
  advanceOverBlanks
  if (← peek?).isNone then
    fail .classUnclosed (← span)

/-- Reads the hyphens that a class starts with, which stand for themselves. -/
def leadingHyphens (start : Nat) : Nat → Reader (List ClassTree)
  | 0 => return []
  | fuel + 1 => do
    if (← peek?) = some '-' then
      let item := ClassTree.literal ⟨← nextSpan, '-', false⟩
      advanceInOpening (pure (.at start))
      return item :: (← leadingHyphens start fuel)
    else
      return []

/-- Reads the opening of a class: the bracket, a caret, and the hyphens or the closing bracket
that stand for themselves there. -/
def classOpening : Reader ClassLevel := do
  let start ← offset
  advanceInOpening (since start)
  let negated := (← peek?) = some '^'
  if negated then
    advanceInOpening (since start)
  let first ← offset
  let hyphens ← leadingHyphens start (← rest).length
  let mut items := hyphens.reverse
  if hyphens.isEmpty && (← peek?) = some ']' then
    items := [.literal ⟨← nextSpan, ']', false⟩]
    advanceInOpening (since start)
  return ⟨← since start, negated, none, items, first⟩

/-- Reads a named ASCII class such as `[:alpha:]`, if one comes next. -/
def asciiClass? : Reader (Option ClassTree) := do
  let start ← offset
  match ← rest with
  | '[' :: ':' :: body =>
    let negated := body.head? = some '^'
    let lead := if negated then 1 else 0
    let name := (body.drop lead).takeWhile (· ≠ ':')
    let behind := (body.drop lead).drop name.length
    if [':', ']'].isPrefixOf behind then
      match AsciiClass.ofName? name with
      | some named =>
        advanceBy (2 + lead + name.length + 2)
        return some (.ascii (← since start) negated named)
      | none => return none
    else
      return none
  | _ => return none

/-- Reads one character or escape of a class. -/
def classPrimitive : Reader Primitive := do
  match ← peek? with
  | some '\\' => escape
  | some c =>
    let span ← nextSpan
    advance
    return .literal ⟨span, c, false⟩
  | none => fail .classUnclosed (← here)

/-- Reads one character, escape or range of a class. -/
def classItem (level : ClassLevel) : Reader ClassTree := do
  let first ← classPrimitive
  skipBlanks
  if (← peek?).isNone then
    unclosed level
  let behind ← peekBehind?
  if (← peek?) ≠ some '-' || behind = some ']' || behind = some '-' then
    first.classTree
  else
    advanceOverBlanks
    if (← peek?).isNone then
      unclosed level
    let last ← classPrimitive
    let span : Span := ⟨first.span.start, last.span.stop⟩
    let low ← first.rangeEnd
    let high ← last.rangeEnd
    if high.char < low.char then
      fail .classRangeInvalid span
    return .range span low high

/-- The operator that comes next, if one does. -/
def setOperator? : Reader (Option SetOperator) := do
  match ← rest with
  | '&' :: '&' :: _ => return some .inter
  | '-' :: '-' :: _ => return some .diff
  | '~' :: '~' :: _ => return some .symmDiff
  | _ => return none

/-- Reads on in a class until its outermost bracket closes. -/
def classBody (level : ClassLevel) (outer : List ClassLevel) : Nat → Reader Tree
  | 0 => unclosed level
  | fuel + 1 => do
    skipBlanks
    match ← peek? with
    | none => unclosed level
    | some '[' =>
      match ← asciiClass? with
      | some item => classBody (level.push item) outer fuel
      | none =>
        let inner ← classOpening
        classBody inner (level :: outer) fuel
    | some ']' =>
      advance
      let span : Span := ⟨level.opener.start, ← offset⟩
      match outer with
      | [] => return .bracketed span level.negated level.content
      | next :: outer =>
        classBody (next.push (.bracketed span level.negated level.content)) outer fuel
    | some _ =>
      match ← setOperator? with
      | some operator =>
        advanceBy 2
        let left := level.content
        classBody { level with left := some (operator, left), items := [], start := ← offset }
          outer fuel
      | none =>
        let item ← classItem level
        classBody (level.push item) outer fuel

/-- Reads a bracketed class, whose opening bracket comes next. -/
def bracketed : Reader Tree := do
  let fuel := (← rest).length
  let level ← classOpening
  classBody level [] (fuel + 1)

end Reader

end InputMask.Pattern
