/-!
# The shortest decimal text of a binary number

A binary floating-point number stands for all reals that round to it. Among the decimals
in that interval the ones with the fewest digits are taken, and of those the nearest. All
comparisons are made between natural numbers.

## Main definitions

* `Decimal`: a number with a power of ten
* `Decimal.shortest`: the decimal of a binary number
* `NumberText`, `NumberText.render`: how a decimal is written
-/

namespace InputMask

/-- The number `significand * 10 ^ exponent`. -/
structure Decimal where
  significand : Nat
  exponent : Int
  deriving DecidableEq, Repr

/-- A positive fraction. -/
structure Fraction where
  num : Nat
  den : Nat
  deriving DecidableEq, Repr

namespace Fraction

/-- The fraction `n * base ^ exponent`. -/
def scaled (n base : Nat) (exponent : Int) : Fraction :=
  if 0 ≤ exponent then ⟨n * Nat.pow base exponent.toNat, 1⟩
  else ⟨n, Nat.pow base (-exponent).toNat⟩

/-- Whether one fraction is less than another. -/
def lt (a b : Fraction) : Bool :=
  a.num * b.den < b.num * a.den

/-- The greatest exponent for which that power of ten does not exceed the fraction. -/
def magnitude (x : Fraction) : Int :=
  if x.den ≤ x.num then ((toString (x.num / x.den)).length : Int) - 1
  else
    match (List.range 400).find? fun k => x.den ≤ x.num * Nat.pow 10 k with
    | some k => -(k : Int)
    | none => -400

end Fraction

/-- A positive binary number `significand * 2 ^ exponent` of double precision. -/
structure Binary where
  significand : Nat
  exponent : Int
  deriving DecidableEq, Repr

namespace Binary

/-- The least exponent of a binary number. -/
def leastExponent : Int := -1074

/-- The magnitude of a double that is given by its bits. -/
def ofBits (bits : Nat) : Binary :=
  let exponent : Nat := bits / Nat.pow 2 52 % Nat.pow 2 11
  let fraction : Nat := bits % Nat.pow 2 52
  if exponent = 0 then ⟨fraction, leastExponent⟩
  else ⟨fraction + Nat.pow 2 52, (exponent : Int) - 1075⟩

/-- The number itself. -/
def value (b : Binary) : Fraction :=
  .scaled (4 * b.significand) 2 (b.exponent - 2)

/-- The lower end of the interval of reals that round to the number. Below a power of two the
neighbours lie closer. -/
def lower (b : Binary) : Fraction :=
  let isPower := b.significand = Nat.pow 2 52 ∧ leastExponent < b.exponent
  .scaled (4 * b.significand - if isPower then 1 else 2) 2 (b.exponent - 2)

/-- The upper end of the interval. -/
def upper (b : Binary) : Fraction :=
  .scaled (4 * b.significand + 2) 2 (b.exponent - 2)

/-- Whether a decimal rounds to the number; the ends of the interval do when the significand is
even. -/
def isRoundingOf (b : Binary) (d : Decimal) : Bool :=
  let x := Fraction.scaled d.significand 10 d.exponent
  if b.significand % 2 = 0 then !x.lt b.lower && !b.upper.lt x
  else b.lower.lt x && x.lt b.upper

/-- The decimal with a unit of the given power of ten that rounds to the number and is nearest
to it, if there is one. -/
def onGrid? (b : Binary) (exponent : Int) : Option Decimal :=
  let v := b.value
  let unit := Fraction.scaled 1 10 exponent
  let below : Decimal := ⟨v.num * unit.den / (v.den * unit.num), exponent⟩
  let above : Decimal := ⟨below.significand + 1, exponent⟩
  let middle := Fraction.scaled (2 * below.significand + 1) 10 exponent
  let twice : Fraction := ⟨2 * v.num, v.den⟩
  match b.isRoundingOf below, b.isRoundingOf above with
  | true, false => some below
  | false, true => some above
  | false, false => none
  | true, true =>
    if twice.lt middle then some below
    else if middle.lt twice then some above
    else if below.significand % 2 = 0 then some below
    else some above

end Binary

namespace Decimal

/-- Leaves out zeros at the end of the significand. -/
def trim (fuel : Nat) (d : Decimal) : Decimal :=
  match fuel with
  | 0 => d
  | fuel + 1 =>
    if d.significand ≠ 0 ∧ d.significand % 10 = 0 then
      trim fuel ⟨d.significand / 10, d.exponent + 1⟩
    else d

/-- The shortest decimal that rounds to a binary number. Seventeen digits always do. -/
def shortest (b : Binary) : Decimal :=
  if b.significand = 0 then ⟨0, 0⟩
  else
    let magnitude := b.value.magnitude
    let found := (List.range 17).findSome? fun (k : Nat) => b.onGrid? (magnitude - k)
    (found.getD ⟨0, 0⟩).trim 20

end Decimal

/-- How numbers are written. -/
structure NumberText where
  /-- The least power of ten of a leading digit that is written without an exponent. -/
  leastPlain : Int
  /-- The power of ten from which on an exponent is written. -/
  leastLarge : Int

namespace NumberText

/-- The digits of a natural number. -/
def digitsOf (n : Nat) : List Char :=
  (toString n).toList

/-- Writes a positive decimal: plainly, with a decimal point in every case, or as one digit, the
others, and an exponent with its sign. -/
def render (style : NumberText) (d : Decimal) : List Char :=
  let digits := digitsOf d.significand
  let lead := d.exponent + (digits.length : Int) - 1
  if d.significand = 0 then ['0', '.', '0']
  else if style.leastPlain ≤ lead ∧ lead < style.leastLarge then
    if 0 ≤ d.exponent then digits ++ List.replicate d.exponent.toNat '0' ++ ['.', '0']
    else if 0 ≤ lead then
      let whole := (lead + 1).toNat
      digits.take whole ++ '.' :: digits.drop whole
    else ['0', '.'] ++ List.replicate (-lead - 1).toNat '0' ++ digits
  else
    let mantissa := match digits with
      | [c] => [c]
      | c :: rest => c :: '.' :: rest
      | [] => []
    let sign := if lead < 0 then '-' else '+'
    mantissa ++ 'e' :: sign :: digitsOf lead.natAbs

end NumberText

end InputMask
