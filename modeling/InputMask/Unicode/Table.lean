import InputMask.Unicode.CharSet

/-!
# Tables of character properties

The data of the Unicode standard are kept as text. An entry describes one property: its
names, a colon, and sections that semicolons divide. The words of a section are ranges in
hexadecimal, such as `41-5a`, or names of other sets, which start with a capital letter.
Full stops stand between entries, and line breaks count as blanks.

## Main definitions

* `Row`: one entry of a table
* `Row.parseAll`: the entries of a table
* `normalName`: the form in which names are compared
-/

namespace InputMask.Unicode

/-- The form in which property names are compared: without case, blanks, underscores,
hyphens, a leading `is` and everything that is not ASCII. The one name that would lose its
meaning by this, `isc`, is kept. -/
def normalName (name : List Char) : List Char :=
  let hasIs :=
    match name with
    | i :: s :: _ => i.toLower = 'i' && s.toLower = 's'
    | _ => false
  let kept := (if hasIs then name.drop 2 else name).filter fun c =>
    c.toNat < 128 && c ≠ ' ' && c ≠ '_' && c ≠ '-'
  let lower := kept.map Char.toLower
  if hasIs && lower = ['c'] then ['i', 's', 'c'] else lower

/-- The value of a hexadecimal digit. -/
def hexValue? (c : Char) : Option Nat :=
  if '0' ≤ c ∧ c ≤ '9' then some (c.toNat - '0'.toNat)
  else if 'a' ≤ c ∧ c ≤ 'f' then some (c.toNat - 'a'.toNat + 10)
  else if 'A' ≤ c ∧ c ≤ 'F' then some (c.toNat - 'A'.toNat + 10)
  else none

/-- The number that hexadecimal digits write. -/
def hexNumber? (digits : List Char) : Option Nat :=
  if digits.isEmpty then none
  else digits.foldlM (fun n c => (hexValue? c).map (16 * n + ·)) 0

/-- One entry of a table. -/
structure Row where
  names : List (List Char)
  sections : List (List (List Char))
  deriving Repr

/-- Cuts a list at every place where a separator stands. -/
def cutAt (isSeparator : Char → Bool) (text : List Char) : List (List Char) :=
  text.foldr
    (fun c parts =>
      if isSeparator c then [] :: parts
      else
        match parts with
        | [] => [[c]]
        | part :: rest => (c :: part) :: rest)
    [[]]

/-- The words of a text. -/
def words (text : List Char) : List (List Char) :=
  (cutAt (fun c => c = ' ' || c = '\n') text).filter (!·.isEmpty)

namespace Row

/-- Reads one entry. -/
def parse (entry : List Char) : Row :=
  let (names, rest) := entry.span (· ≠ ':')
  ⟨words names, (cutAt (· = ';') (rest.drop 1)).map words⟩

/-- Reads a table. -/
def parseAll (table : String) : List Row :=
  (cutAt (· = '.') table.toList).map parse

/-- Whether a normal name is one of the entry's names. -/
def isNamed (row : Row) (normal : List Char) : Bool :=
  row.names.any (normalName · = normal)

/-- A section; one that is missing is empty. -/
def part (row : Row) (index : Nat) : List (List Char) :=
  row.sections.getD index []

end Row

/-- The range that a word such as `41-5a` or `41` writes. -/
def rangeOfWord? (word : List Char) : Option (Nat × Nat) :=
  match cutAt (· = '-') word with
  | [only] => (hexNumber? only).map fun n => (n, n)
  | [first, last] =>
    match hexNumber? first, hexNumber? last with
    | some a, some b => some (a, b)
    | _, _ => none
  | _ => none

/-- Whether a word names a set. Such words start with a capital letter, ranges do not. -/
def isSetName (word : List Char) : Bool :=
  (word.head?.map Char.isUpper).getD false

/-- The set that the ranges among some words cover. -/
def CharSet.ofWords (words : List (List Char)) : CharSet :=
  .ofRanges ((words.filter (!isSetName ·)).filterMap rangeOfWord?)

end InputMask.Unicode
