import InputMask.Json.Value
import InputMask.Numeric.Config

/-!
# Settings of a numeric mask in JSON

The settings stand in an object under their names, or in a list in a fixed order.

## Main definitions

* `NumericField`: the settings, their names and their order
* `NumericConfig.ofJson?`: the settings that a JSON value holds
* `NumericConfig.toJson`: settings as a JSON object
-/

namespace InputMask

/-- The settings of a numeric mask. -/
inductive NumericField where
  | before
  | after
  | delimiter
  | separator
  | decimals
  | maxLength
  deriving DecidableEq, Repr

namespace NumericField

/-- The settings in the order in which they stand in a list. -/
def inOrder : List NumericField :=
  [before, after, delimiter, separator, decimals, maxLength]

/-- The name of a setting. -/
def name : NumericField → String
  | before => "prefix"
  | after => "suffix"
  | delimiter => "delimiter"
  | separator => "separator"
  | decimals => "decimal"
  | maxLength => "maxLength"

/-- The names under which settings may stand in an object. One setting has two. -/
def names : List (String × NumericField) :=
  inOrder.map (fun field => (field.name, field)) ++ [("max_length", maxLength)]

/-- The setting of a name. -/
def ofName? (name : List Char) : Option NumericField :=
  (names.find? (·.1.toList = name)).map (·.2)

end NumericField

namespace NumericConfig

/-- The setting that a change is made to. -/
def Change.field : Change → NumericField
  | .before _ => .before
  | .after _ => .after
  | .delimiter _ => .delimiter
  | .separator _ => .separator
  | .decimals _ => .decimals
  | .maxLength _ => .maxLength

/-- The change of a setting to what a JSON value holds. A number of decimals must fit a signed
integer of 64 bits, and counts as zero if it is negative. -/
def Change.ofJson? : NumericField → Json → Option Change
  | .before, .string s => some (.before s)
  | .after, .string s => some (.after s)
  | .delimiter, .string s => some (.delimiter s)
  | .separator, .string s => some (.separator s)
  | .decimals, .number (.natural n) => if n < Nat.pow 2 63 then some (.decimals n) else none
  | .decimals, .number (.negative _) => some (.decimals 0)
  | .maxLength, .null => some (.maxLength none)
  | .maxLength, .number (.natural n) => some (.maxLength (some n))
  | _, _ => none

/-- The changes that the members of an object make, unless a name is unknown. -/
def changesOfMembers? (members : List (List Char × Json)) : Option (List Change) :=
  members.mapM fun (name, value) => do
    let field ← NumericField.ofName? name
    Change.ofJson? field value

/-- The changes that a list of values makes, unless there are too many of them. -/
def changesOfItems? (items : List Json) : Option (List Change) :=
  if items.length ≤ NumericField.inOrder.length then
    (NumericField.inOrder.zip items).mapM fun (field, value) => Change.ofJson? field value
  else none

/-- The settings that a JSON value holds: an object in which no setting is repeated, or a list.
What is missing keeps its standard. -/
def ofJson? : Json → Option NumericConfig
  | .object members => do
    let changes ← changesOfMembers? members
    if (changes.map Change.field).Nodup then some (ofChanges changes) else none
  | .array items => do
    let changes ← changesOfItems? items
    some (ofChanges changes)
  | _ => none

/-- Settings as a JSON object. -/
def toJson (config : NumericConfig) : Json :=
  .ofMembers
    [(NumericField.name .before, .string config.before),
      (NumericField.name .after, .string config.after),
      (NumericField.name .delimiter, .string config.delimiter),
      (NumericField.name .separator, .string config.separator),
      (NumericField.name .decimals, .nat config.decimals),
      (NumericField.name .maxLength,
        match config.maxLength with
        | some limit => .nat limit
        | none => .null)]

end NumericConfig

end InputMask
