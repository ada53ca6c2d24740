import InputMask.Unicode.Property

/-!
# Quoting text so that all of it can be seen

In quoted text, characters that would not show by themselves are escaped: controls,
separators, private and unassigned characters, and marks that attach to the character
before them.

## Main definitions

* `printable`: the characters that show by themselves
* `quoteVisibly`: a text in quotes
-/

namespace InputMask.Unicode

/-- The characters that show something: all but controls, formats, private and unassigned ones
and separators other than the space. -/
def printable : CharSet :=
  let hidden := categoriesOfCodes (words "Cc Cf Co Cn Zl Zp Zs".toList)
  ((hidden.union surrogates).diff (.singleton 0x20)).complement

/-- The marks that attach to the character before them. -/
def extending : CharSet :=
  (property? "graphemeextend".toList).getD .empty

/-- A code point in lower-case hexadecimal digits. -/
def hexText (code : Nat) : List Char :=
  Nat.toDigits 16 code

/-- A character as it is written in quoted text. -/
def showChar (c : Char) : List Char :=
  if c = '\x00' then ['\\', '0']
  else if c = '\t' then ['\\', 't']
  else if c = '\r' then ['\\', 'r']
  else if c = '\n' then ['\\', 'n']
  else if c = '\\' then ['\\', '\\']
  else if c = '"' then ['\\', '"']
  else if !extending.contains c.toNat && printable.contains c.toNat then [c]
  else ['\\', 'u', '\x7b'] ++ hexText c.toNat ++ ['\x7d']

/-- A text in quotes, with everything in it to be seen. -/
def quoteVisibly (text : List Char) : List Char :=
  '"' :: text.flatMap showChar ++ ['"']

end InputMask.Unicode
