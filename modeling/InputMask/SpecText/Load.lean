import InputMask.Event
import InputMask.Json.Reader
import InputMask.Pattern.Source
import InputMask.SpecText.Shape

/-!
# Loading specifications from JSON

Once the shape of a specification is known, the patterns of its items are compiled in
order. Numeric items of a list are dropped, which is reported.

## Main definitions

* `Spec.ofShape`: the specification of a shape
* `LoadError`: why loading failed
* `Spec.load`, `Spec.readJson`: the specification of a text
-/

namespace InputMask

open Pattern (Compiler InvalidPattern)

/-- The alternative that an item is, unless it is numeric. An empty pattern counts as none. -/
def Item.alternative? (compiler : Compiler) :
    Item → Except InvalidPattern (Option Alternative)
  | template t => .ok (some (.literal t))
  | guarded t none => .ok (some (.literal t))
  | guarded t (some []) => .ok (some (.literal t))
  | guarded t (some source) => (Pattern.guarded compiler t source).map some
  | numeric _ => .ok none

namespace Spec

/-- The alternatives of a list of items, in order. -/
def alternativesOf (compiler : Compiler) (items : List Item) :
    Except InvalidPattern (List Alternative) := do
  let found ← items.mapM (Item.alternative? compiler)
  return found.filterMap id

/-- The specification of a shape. -/
def ofShape (compiler : Compiler) : Shape → Except InvalidPattern Spec
  | .item (.numeric config) => .ok (.numeric config)
  | .item item => do
    let alternative ← item.alternative? compiler
    return .single (alternative.getD (.literal []))
  | .list items => return .alternatives (← alternativesOf compiler items)

/-- Whether an item is numeric. -/
def isNumericItem : Item → Bool
  | .numeric _ => true
  | _ => false

/-- The events reported when a shape becomes a specification. -/
def shapeEvents : Shape → List Event
  | .list items => (items.filter isNumericItem).map fun _ => .numericIgnored
  | .item _ => []

end Spec

/-- Why a specification could not be loaded. -/
inductive LoadError where
  /-- The text is no specification; the message says why. -/
  | invalidSpec (reason : List Char)
  | invalidPattern (invalid : InvalidPattern)
  deriving DecidableEq, Repr

/-- The text that describes the failure. -/
def LoadError.message : LoadError → List Char
  | invalidSpec reason => "Invalid mask specification: ".toList ++ reason
  | invalidPattern invalid => invalid.message

/-- The words for a JSON value that fits no shape. -/
def noShapeFits : List Char :=
  "data did not match any variant of untagged enum RawMaskSpec".toList

namespace Spec

/-- The shape at the start of a text, with what is left of the text; the reason if there is
none. -/
def readShape (text : List Char) : Except (List Char) (Shape × List Char) :=
  match Json.readPrefixed text with
  | .error fault => .error (fault.message text)
  | .ok (json, rest) =>
    match Shape.ofJson? json with
    | none => .error noShapeFits
    | some shape => .ok (shape, rest)

/-- Nothing may be left of a text; the reason if something is. -/
def endOf (text rest : List Char) : Except (List Char) Unit :=
  (Json.checkEnd rest).mapError (·.message text)

/-- The shape that a text is. -/
def shapeOf (text : List Char) : Except (List Char) Shape := do
  let (shape, rest) ← readShape text
  endOf text rest
  return shape

/-- The specification that a text holds, with the events reported. Patterns are compiled when
the whole text has been read. -/
def load (compiler : Compiler) (text : List Char) : Except LoadError (Spec × List Event) :=
  match shapeOf text with
  | .error reason => .error (.invalidSpec reason)
  | .ok shape =>
    match ofShape compiler shape with
    | .error invalid => .error (.invalidPattern invalid)
    | .ok spec => .ok (spec, shapeEvents shape)

/-- The specification that a text holds. Patterns are compiled before the end of the text is
looked at, and failures of any kind are told by their text only. -/
def readJson (compiler : Compiler) (text : List Char) : Except (List Char) Spec := do
  let (shape, rest) ← readShape text
  let spec ← (ofShape compiler shape).mapError InvalidPattern.message
  endOf text rest
  return spec

end Spec

end InputMask
