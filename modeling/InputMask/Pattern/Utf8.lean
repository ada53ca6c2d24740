import InputMask.Unicode.CharSet

/-!
# The bytes of characters

A range of characters is a union of products of byte ranges: every byte of the UTF-8 forms
runs through a range of its own. Ranges are cut until they are such products.

## Main definitions

* `utf8`: the bytes of a code point
* `byteSequences`: the products that a set of characters is made of
-/

namespace InputMask.Pattern

open Unicode (CharSet)

/-- The UTF-8 form of a code point. -/
def utf8 (code : Nat) : List Nat :=
  if code < 0x80 then [code]
  else if code < 0x800 then [0xc0 + code / 0x40, 0x80 + code % 0x40]
  else if code < 0x10000 then
    [0xe0 + code / 0x1000, 0x80 + code / 0x40 % 0x40, 0x80 + code % 0x40]
  else
    [0xf0 + code / 0x40000, 0x80 + code / 0x1000 % 0x40, 0x80 + code / 0x40 % 0x40,
      0x80 + code % 0x40]

/-- A range of bytes. -/
structure ByteRange where
  first : Nat
  last : Nat
  deriving DecidableEq, Repr

/-- Where a range of code points has to be cut so that its two parts are closer to being
products of byte ranges: the last code point of the first part. -/
def cutPoint? (first last : Nat) : Option Nat :=
  let lengths := [0x7f, 0x7ff, 0xffff].find? fun limit => first ≤ limit && limit < last
  let blocks := [0x40, 0x1000, 0x40000].findSome? fun size =>
    if first / size = last / size then none
    else if first % size ≠ 0 then some (first / size * size + size - 1)
    else if last % size ≠ size - 1 then some (last / size * size - 1)
    else none
  lengths.or (if last < 0x80 then none else blocks)

/-- The byte ranges of a range of code points, each byte of the UTF-8 forms in its turn. -/
def rangeSequences : Nat → Nat → Nat → List (List ByteRange)
  | 0, first, last => [List.zipWith ByteRange.mk (utf8 first) (utf8 last)]
  | fuel + 1, first, last =>
    match cutPoint? first last with
    | none => [List.zipWith ByteRange.mk (utf8 first) (utf8 last)]
    | some cut => rangeSequences fuel first cut ++ rangeSequences fuel (cut + 1) last

/-- The sequences of byte ranges that the UTF-8 forms of a set are made of, in order. -/
def byteSequences (set : CharSet) : List (List ByteRange) :=
  (set.diff (.range 0xd800 0xdfff)).ranges.flatMap fun (first, last) =>
    rangeSequences 32 first last

end InputMask.Pattern
