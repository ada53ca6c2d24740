import InputMask.Numeric.Setting

/-!
# Shapes of specifications in JSON

A specification is a list of items or a single item. An item is a template, an object with
a template and perhaps a pattern, or the settings of a numeric mask. The shapes are tried
in this order, and the first that fits is taken.

## Main definitions

* `Item`, `Shape`
* `Item.ofJson?`, `Shape.ofJson?`
-/

namespace InputMask

/-- One item of a specification. -/
inductive Item where
  | template (template : List Char)
  | guarded (template : List Char) (source : Option (List Char))
  | numeric (config : NumericConfig)
  deriving DecidableEq, Repr

/-- A specification as it is written. -/
inductive Shape where
  | list (items : List Item)
  | item (item : Item)
  deriving DecidableEq, Repr

namespace Item

/-- The values of the members of a name. -/
def valuesOf (name : String) (members : List (List Char × Json)) : List Json :=
  (members.filter (·.1 = name.toList)).map (·.2)

/-- A JSON string. -/
def ofString? : Json → Option Item
  | .string s => some (.template s)
  | _ => none

/-- A JSON object with one template under `mask` and at most one pattern, which may be null,
under `regex`. Other members are ignored. -/
def ofObject? : Json → Option Item
  | .object members =>
    match valuesOf "mask" members, valuesOf "regex" members with
    | [.string mask], [] => some (.guarded mask none)
    | [.string mask], [.null] => some (.guarded mask none)
    | [.string mask], [.string regex] => some (.guarded mask (some regex))
    | _, _ => none
  | _ => none

/-- The settings of a numeric mask. -/
def ofSettings? (json : Json) : Option Item :=
  (NumericConfig.ofJson? json).map .numeric

/-- The item that a JSON value is. -/
def ofJson? (json : Json) : Option Item :=
  (ofString? json).or ((ofObject? json).or (ofSettings? json))

end Item

namespace Shape

/-- A list of which every element is an item. -/
def ofItems? : Json → Option Shape
  | .array values => (values.mapM Item.ofJson?).map .list
  | _ => none

/-- The shape of a JSON value. -/
def ofJson? (json : Json) : Option Shape :=
  (ofItems? json).or ((Item.ofJson? json).map .item)

end Shape

end InputMask
