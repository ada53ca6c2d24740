import InputMask.Json.Reader
import InputMask.Json.Writer
import InputMask.Numeric.Setting
import InputMask.Unicode.Printable

/-!
# Reading the settings of a numeric mask from text

The text is read straight into settings, so that data of the wrong kind are reported where
they stand.

## Main definitions

* `NumericConfig.read`: the settings that a JSON text holds
-/

namespace InputMask

open Json (Fault Cause faultAt faultOn skipSpace readWord readNumber readString isDecimal)

/-- What a number is called in reports. -/
def Json.Number.describe (n : Json.Number) : List Char :=
  let kind := match n with
    | .double _ => "floating point `"
    | _ => "integer `"
  kind.toList ++ Json.writeNumber n ++ ['`']

namespace NumericConfig

/-- The fault of data of the wrong type, which are left behind. -/
def wrongType {α : Type} (what : List Char) (expected : String) (rest : List Char) :
    Except Fault α :=
  faultAt (.data ("invalid type: ".toList ++ what ++ (", expected " ++ expected).toList)) rest

/-- The fault of a number out of range. -/
def wrongValue {α : Type} (n : Json.Number) (expected : String) (rest : List Char) :
    Except Fault α :=
  faultAt (.data ("invalid value: ".toList ++ n.describe ++ (", expected " ++ expected).toList))
    rest

/-- Refuses the value that comes next, whatever it is. Lists and objects are not read for
this. -/
def refuse {α : Type} (expected : String) : List Char → Except Fault α
  | [] => faultAt .endInValue []
  | 'n' :: rest => do
    let (_, rest) ← readWord ['u', 'l', 'l'] rest
    wrongType "null".toList expected rest
  | 't' :: rest => do
    let (_, rest) ← readWord ['r', 'u', 'e'] rest
    wrongType "boolean `true`".toList expected rest
  | 'f' :: rest => do
    let (_, rest) ← readWord ['a', 'l', 's', 'e'] rest
    wrongType "boolean `false`".toList expected rest
  | '-' :: rest => do
    let (n, rest) ← readNumber true rest
    wrongType n.describe expected rest
  | '"' :: rest => do
    let (s, rest) ← readString rest
    wrongType ("string ".toList ++ Unicode.quoteVisibly s) expected rest
  | '[' :: rest => wrongType "sequence".toList expected ('[' :: rest)
  | '\x7b' :: rest => wrongType "map".toList expected ('\x7b' :: rest)
  | c :: rest =>
    if isDecimal c then do
      let (n, rest) ← readNumber false (c :: rest)
      wrongType n.describe expected rest
    else faultOn .expectedValue (c :: rest)

/-- Reads a text. -/
def readText (text : List Char) : Except Fault (List Char × List Char) :=
  match skipSpace text with
  | '"' :: rest => readString rest
  | rest => refuse "a string" rest

/-- Reads a number, if one comes next. -/
def readNumberOr (expected : String) (text : List Char) :
    Except Fault (Json.Number × List Char) :=
  match text with
  | '-' :: rest => readNumber true rest
  | c :: rest => if isDecimal c then readNumber false (c :: rest) else refuse expected (c :: rest)
  | [] => faultAt .endInValue []

/-- Reads a number of decimals. -/
def readDecimals (text : List Char) : Except Fault (Nat × List Char) := do
  let (n, rest) ← readNumberOr "i64" (skipSpace text)
  match n with
  | .natural k => if k < Nat.pow 2 63 then return (k, rest) else wrongValue n "i64" rest
  | .negative _ => return (0, rest)
  | .double _ => wrongType n.describe "i64" rest

/-- Reads a limit, which may be null. -/
def readLimit (text : List Char) : Except Fault (Option Nat × List Char) := do
  match skipSpace text with
  | 'n' :: rest =>
    let (_, rest) ← readWord ['u', 'l', 'l'] rest
    return (none, rest)
  | rest =>
    let (n, rest) ← readNumberOr "usize" rest
    match n with
    | .natural k => return (some k, rest)
    | .negative _ => wrongValue n "usize" rest
    | .double _ => wrongType n.describe "usize" rest

/-- Reads the value of a setting. -/
def readChange (field : NumericField) (text : List Char) : Except Fault (Change × List Char) := do
  match field with
  | .before =>
    let (s, rest) ← readText text
    return (.before s, rest)
  | .after =>
    let (s, rest) ← readText text
    return (.after s, rest)
  | .delimiter =>
    let (s, rest) ← readText text
    return (.delimiter s, rest)
  | .separator =>
    let (s, rest) ← readText text
    return (.separator s, rest)
  | .decimals =>
    let (n, rest) ← readDecimals text
    return (.decimals n, rest)
  | .maxLength =>
    let (n, rest) ← readLimit text
    return (.maxLength n, rest)

/-- Where a fault in a name is reported: behind the name and the blanks that follow it, and
behind the brace that closes the object if it comes then. -/
def behindName (text : List Char) : List Char :=
  match skipSpace text with
  | '\x7d' :: rest => rest
  | rest => rest

/-- The fault of a name that is no setting's. -/
def unknownField {α : Type} (name : List Char) (rest : List Char) : Except Fault α :=
  let known := ", ".intercalate (NumericField.names.map fun (known, _) => "`" ++ known ++ "`")
  faultAt (.data ("unknown field `".toList ++ name ++ ("`, expected one of " ++ known).toList))
    (behindName rest)

/-- The fault of a setting that was already made. -/
def duplicateField {α : Type} (field : NumericField) (rest : List Char) : Except Fault α :=
  faultAt (.data ("duplicate field `" ++ field.name ++ "`").toList) (behindName rest)

/-- Reads the members of an object behind the opening quote of the first name. -/
def readMembers (changes : List Change) : Nat → List Char →
    Except Fault (List Change × List Char)
  | 0, rest => faultAt .endInObject rest
  | fuel + 1, text => do
    let (name, rest) ← readString text
    match NumericField.ofName? name with
    | none => unknownField name rest
    | some field =>
      if (changes.map Change.field).contains field then duplicateField field rest
      else
        let rest ← Json.readColon rest
        let (change, rest) ← readChange field rest
        let changes := changes ++ [change]
        let (follows, rest) ← Json.nextMember (skipSpace rest)
        if follows then readMembers changes fuel rest else return (changes, rest)

/-- Reads the values of settings from a list, up to where the list or the settings end. -/
def readItems : List NumericField → Bool → List Char → Except Fault (List Change × List Char)
  | [], _, rest => .ok ([], rest)
  | field :: fields, isFirst, text => do
    match skipSpace text with
    | [] => faultAt .endInList []
    | ']' :: rest => return ([], ']' :: rest)
    | rest =>
      let start ← if isFirst then pure rest else
        match rest with
        | ',' :: rest =>
          match skipSpace rest with
          | [] => faultAt .endInValue []
          | ']' :: rest => faultOn .trailingComma (']' :: rest)
          | rest => pure rest
        | rest => faultOn .expectedListCommaOrEnd rest
      let (change, rest) ← readChange field start
      let (changes, rest) ← readItems fields false rest
      return (change :: changes, rest)

/-- Reads the end of a list. -/
def readListEnd (text : List Char) : Except Fault (List Char) :=
  match skipSpace text with
  | [] => faultAt .endInList []
  | ']' :: rest => .ok rest
  | ',' :: rest =>
    match skipSpace rest with
    | ']' :: rest => faultOn .trailingComma (']' :: rest)
    | rest => faultOn .trailingCharacters rest
  | rest => faultOn .trailingCharacters rest

/-- Reads settings at the start of a text. -/
def readChanges (text : List Char) : Except Fault (List Change × List Char) := do
  match skipSpace text with
  | '[' :: rest =>
    let (changes, rest) ← readItems NumericField.inOrder true rest
    return (changes, ← readListEnd rest)
  | '\x7b' :: rest =>
    let (follows, rest) ← Json.firstMember (skipSpace rest)
    if follows then readMembers [] (rest.length + 1) rest else return ([], rest)
  | rest => refuse "struct NumericConfig" rest

/-- The settings that a JSON text holds. -/
def read (text : List Char) : Except Fault NumericConfig := do
  let (changes, rest) ← readChanges text
  Json.checkEnd rest
  return ofChanges changes

end NumericConfig

end InputMask
