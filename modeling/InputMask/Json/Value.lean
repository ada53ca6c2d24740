/-!
# JSON values

An object is a list of members in their order; a name may appear several times. Numbers
are kept apart by how they can be read: as a natural number of 64 bits, as a negative
integer of 64 bits, or as a binary floating-point number.

## Main definitions

* `Json.Number`, `Json`
-/

namespace InputMask

/-- A number in JSON. -/
inductive Json.Number where
  /-- A natural number below `2 ^ 64`. -/
  | natural (n : Nat)
  /-- The negative of a positive number that is at most `2 ^ 63`. -/
  | negative (n : Nat)
  /-- A double, by its bits. -/
  | double (bits : UInt64)
  deriving DecidableEq, Repr

/-- A JSON value. -/
inductive Json where
  | null
  | bool (b : Bool)
  | number (n : Json.Number)
  | string (s : List Char)
  | array (items : List Json)
  | object (members : List (List Char × Json))
  deriving Repr

namespace Json

/-- A natural number as a JSON value. -/
def nat (n : Nat) : Json :=
  .number (.natural n)

/-- A text as a JSON value. -/
def text (s : String) : Json :=
  .string s.toList

/-- An object with members in the given order. -/
def ofMembers (members : List (String × Json)) : Json :=
  .object (members.map fun (name, value) => (name.toList, value))

/-- The value of the first member of a name. -/
def member? (json : Json) (name : String) : Option Json :=
  match json with
  | .object members => (members.find? (·.1 = name.toList)).map (·.2)
  | _ => none

end Json

end InputMask
