import InputMask.Pattern.Expr
import InputMask.Pattern.Structure
import InputMask.Unicode.CaseFolding
import InputMask.Unicode.ValuedProperty

/-!
# From the syntax of a pattern to its meaning

Switches are applied from left to right, each to the end of its group. They decide
whether case matters, where lines end and whether classes reach beyond ASCII. Since texts
are sequences of characters, a class or byte that is only meaningful within the bytes of a
character is refused.

## Main definitions

* `Switches`: the switches in force
* `ClassTree.set`: the set of a class
* `Tree.expr`: the expression of a pattern
-/

namespace InputMask.Pattern

open Unicode (CharSet)

/-- The switches in force. -/
structure Switches where
  ignoreCase : Bool := false
  multiLine : Bool := false
  dotAll : Bool := false
  unicode : Bool := true
  crlf : Bool := false
  swapGreed : Bool := false
  deriving DecidableEq, Repr

namespace Switches

/-- The switches after one setting. Blanks make no difference to the meaning. -/
def set (switches : Switches) (setting : Setting) : Switches :=
  match setting.switch with
  | .ignoreCase => { switches with ignoreCase := setting.on }
  | .multiLine => { switches with multiLine := setting.on }
  | .dotAll => { switches with dotAll := setting.on }
  | .unicode => { switches with unicode := setting.on }
  | .crlf => { switches with crlf := setting.on }
  | .swapGreed => { switches with swapGreed := setting.on }
  | .verbose => switches

/-- The switches after several settings. -/
def setAll (switches : Switches) (settings : List Setting) : Switches :=
  settings.foldl set switches

/-- A set closed under differences of case where case is ignored. -/
def fold (switches : Switches) (set : CharSet) : CharSet :=
  if switches.ignoreCase then
    if switches.unicode then set.foldCase else set.foldAsciiCase
  else set

/-- The complement of a set: of bytes, when classes are classes of bytes. -/
def complement (switches : Switches) (set : CharSet) : CharSet :=
  if switches.unicode then set.complement.diff (.range 0xd800 0xdfff)
  else set.complement.inter (.range 0 0xff)

/-- A set with differences of case ignored as the switches say, and then negated if asked. -/
def foldAndNegate (switches : Switches) (negated : Bool) (set : CharSet) : CharSet :=
  if negated then switches.complement (switches.fold set) else switches.fold set

end Switches

/-- Refuses a class of bytes that holds a byte beyond ASCII. -/
def checkBytes (switches : Switches) (span : Span) (set : CharSet) : Except Fault CharSet :=
  if switches.unicode || set.isAscii then .ok set
  else .error ⟨.invalidUtf8, span, none⟩

/-- The characters of a named ASCII class. -/
def AsciiClass.set : AsciiClass → CharSet
  | alnum => .ofRanges [(0x30, 0x39), (0x41, 0x5a), (0x61, 0x7a)]
  | alpha => .ofRanges [(0x41, 0x5a), (0x61, 0x7a)]
  | ascii => .range 0 0x7f
  | blank => .ofRanges [(0x09, 0x09), (0x20, 0x20)]
  | cntrl => .ofRanges [(0, 0x1f), (0x7f, 0x7f)]
  | digit => .range 0x30 0x39
  | graph => .range 0x21 0x7e
  | lower => .range 0x61 0x7a
  | print => .range 0x20 0x7e
  | punct => .ofRanges [(0x21, 0x2f), (0x3a, 0x40), (0x5b, 0x60), (0x7b, 0x7e)]
  | space => .ofRanges [(0x09, 0x0d), (0x20, 0x20)]
  | upper => .range 0x41 0x5a
  | word => asciiWordCharacters
  | xdigit => .ofRanges [(0x30, 0x39), (0x41, 0x46), (0x61, 0x66)]

/-- The characters of a shorthand class. -/
def Shorthand.set (unicode : Bool) : Shorthand → CharSet
  | digit => if unicode then Unicode.decimalDigits else AsciiClass.digit.set
  | space => if unicode then Unicode.blanks else AsciiClass.space.set
  | word => if unicode then Unicode.wordCharacters else asciiWordCharacters

namespace PropertyQuery

/-- Names of categories and scripts that have no characters. -/
def emptyNames : List String :=
  ["cs", "surrogate", "hrkt", "katakanaorhiragana", "zzzz", "unknown"]

/-- The set that a query asks for. A lone name is tried as a binary property, a category and a
script. A property that is known by its name only has no values. -/
def set? (query : PropertyQuery) : Except Cause CharSet :=
  match query with
  | named name =>
    let normal := Unicode.normalName name
    let found := (Unicode.property? normal).or
      ((Unicode.category? normal).or (Unicode.script? normal))
    match found with
    | some set => .ok set
    | none =>
      if emptyNames.contains (String.ofList normal) then .error .propertyValueNotFound
      else .error .propertyNotFound
  | valued name value =>
    let normal := Unicode.normalName name
    match Unicode.ValuedProperty.ofName? normal with
    | some property =>
      match property.value? (Unicode.normalName value) with
      | some set => .ok set
      | none => .error .propertyValueNotFound
    | none =>
      if Unicode.isPropertyName normal then .error .propertyValueNotFound
      else .error .propertyNotFound

end PropertyQuery

/-- The set of a property escape. -/
def propertySet (switches : Switches) (span : Span) (negated : Bool) (query : PropertyQuery) :
    Except Fault CharSet :=
  if !switches.unicode then .error ⟨.unicodeNotAllowed, span, none⟩
  else
    match query.set? with
    | .ok set => .ok (switches.foldAndNegate negated set)
    | .error cause => .error ⟨cause, span, none⟩

/-- The set of a shorthand escape, in which case is never ignored. -/
def shorthandSet (switches : Switches) (span : Span) (negated : Bool) (named : Shorthand) :
    Except Fault CharSet :=
  let set := named.set switches.unicode
  checkBytes switches span (if negated then switches.complement set else set)

/-- Refuses the escape of a byte beyond ASCII where bytes are meant. -/
def checkByteEscape (switches : Switches) (literal : Literal) : Except Fault Unit :=
  if !switches.unicode && literal.isByteEscape && 0x7f < literal.char.toNat then
    .error ⟨.invalidUtf8, literal.span, none⟩
  else .ok ()

/-- The code of a character in a class. In a class of bytes it must be ASCII. -/
def classCode (switches : Switches) (literal : Literal) : Except Fault Nat := do
  checkByteEscape switches literal
  if !switches.unicode && 0x7f < literal.char.toNat then
    throw ⟨.unicodeNotAllowed, literal.span, none⟩
  return literal.char.toNat

mutual

/-- The set of a part of a class. -/
def ClassTree.set (switches : Switches) : ClassTree → Except Fault CharSet
  | empty _ => .ok .empty
  | literal l => return .singleton (← classCode switches l)
  | range _ first last => return .range (← classCode switches first) (← classCode switches last)
  | ascii span negated named =>
    checkBytes switches span (switches.foldAndNegate negated named.set)
  | property span negated query => propertySet switches span negated query
  | shorthand span negated named => shorthandSet switches span negated named
  | bracketed span negated content => do
    checkBytes switches span (switches.foldAndNegate negated (← content.set switches))
  | union _ items => return .unions (← setsOf switches items)
  | operation _ operator left right => do
    let a := switches.fold (← left.set switches)
    let b := switches.fold (← right.set switches)
    match operator with
    | .inter => return a.inter b
    | .diff => return a.diff b
    | .symmDiff => return a.symmDiff b

/-- The sets of several parts. -/
def ClassTree.setsOf (switches : Switches) : List ClassTree → Except Fault (List CharSet)
  | [] => .ok []
  | item :: items => return (← item.set switches) :: (← setsOf switches items)

end

/-- The expression of a character outside classes. -/
def literalExpr (switches : Switches) (literal : Literal) : Except Fault Expr := do
  checkByteEscape switches literal
  return .set (switches.fold (.singleton literal.char.toNat))

/-- The set of the dot: any character, or any but those that end lines. -/
def dotSet (switches : Switches) : CharSet :=
  let excluded :=
    if switches.dotAll then .empty
    else if switches.crlf then .ofRanges [(0x0a, 0x0a), (0x0d, 0x0d)]
    else .singleton 0x0a
  switches.complement excluded

/-- The condition that an assertion stands for. -/
def Assertion.look (switches : Switches) : Assertion → Look
  | lineStart => if switches.multiLine then .lineStart switches.crlf else .textStart
  | lineEnd => if switches.multiLine then .lineEnd switches.crlf else .textEnd
  | textStart => .textStart
  | textEnd => .textEnd
  | wordBoundary => .wordBoundary switches.unicode
  | notWordBoundary => .notWordBoundary switches.unicode
  | wordStart => .wordStart switches.unicode
  | wordEnd => .wordEnd switches.unicode
  | wordStartHalf => .wordStartHalf switches.unicode
  | wordEndHalf => .wordEndHalf switches.unicode

mutual

/-- The expression of a pattern, and the switches in force behind it. -/
def Tree.expr (switches : Switches) : Tree → Except Fault (Expr × Switches)
  | empty _ => .ok (.empty, switches)
  | settings _ changes => .ok (.empty, switches.setAll changes)
  | literal l => return (← literalExpr switches l, switches)
  | dot span =>
    if switches.unicode then .ok (.set (dotSet switches), switches)
    else .error ⟨.invalidUtf8, span, none⟩
  | assertion _ kind => .ok (.look (kind.look switches), switches)
  | property span negated query =>
    return (.set (← propertySet switches span negated query), switches)
  | shorthand span negated named =>
    return (.set (← shorthandSet switches span negated named), switches)
  | bracketed span negated content => do
    let set := switches.foldAndNegate negated (← content.set switches)
    return (.set (← checkBytes switches span set), switches)
  | repetition _ least most greedy part => do
    let (expr, after) ← part.expr switches
    return (.repetition least most (greedy != after.swapGreed) expr, after)
  | group _ captures changes part => do
    let (expr, _) ← part.expr (switches.setAll changes)
    return (.group captures expr, switches)
  | sequence _ parts => sequenceExpr switches parts
  | alternation _ branches => alternationExpr switches branches

/-- The expression of a sequence. -/
def Tree.sequenceExpr (switches : Switches) : List Tree → Except Fault (Expr × Switches)
  | [] => .ok (.empty, switches)
  | [part] => part.expr switches
  | part :: parts => do
    let (left, between) ← part.expr switches
    let (right, after) ← sequenceExpr between parts
    return (.sequence left right, after)

/-- The expression of alternatives; switches set in one are still in force in the next. -/
def Tree.alternationExpr (switches : Switches) : List Tree → Except Fault (Expr × Switches)
  | [] => .ok (.empty, switches)
  | [branch] => branch.expr switches
  | branch :: branches => do
    let (left, between) ← branch.expr switches
    let (right, after) ← alternationExpr between branches
    return (.either left right, after)

end

end InputMask.Pattern
