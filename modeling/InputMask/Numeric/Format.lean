import InputMask.CharClass
import InputMask.Output
import InputMask.Numeric.Config
import InputMask.Unicode.DecimalDigit

/-!
# Formatting digits as an amount

The ASCII digits of a value, whatever stands between them, are read as one number whose
last digits are the decimals. The shown text groups the whole part by thousands; the
canonical text is `digits` or `digits.digits`.

## Main definitions

* `Amount`: the digits of the whole part and of the decimals
* `groupThousands`: a mark every three digits from the right
* `isCanonicalNumber`: the form of the canonical text
* `amount?`: the amount that a value's digits write
* `formatNumeric`: the output of a numeric mask
-/

namespace InputMask

/-- The digits of an amount; without decimals there is no fraction. -/
structure Amount where
  whole : List Char
  fraction : Option (List Char)
  deriving DecidableEq, Repr

/-- Digits without zeros in front, a lone zero when nothing else is left. -/
def trimZeros (digits : List Char) : List Char :=
  match digits.dropWhile (· = '0') with
  | [] => ['0']
  | trimmed => trimmed

/-- Puts zeros in front until the digits are as many as the width. -/
def padZeros (width : Nat) (digits : List Char) : List Char :=
  List.replicate (width - digits.length) '0' ++ digits

/-- Digits given last one first, with a mark behind every three of them that others follow. -/
def groupFromRight (mark : List Char) : List Char → List Char
  | a :: b :: c :: d :: rest => a :: b :: c :: (mark ++ groupFromRight mark (d :: rest))
  | digits => digits

/-- Digits with a delimiter between groups of three, counted from the right. -/
def groupThousands (delimiter digits : List Char) : List Char :=
  (groupFromRight delimiter.reverse digits.reverse).reverse

/-- Whether a text is one or more decimal digits of any script, optionally followed by a dot
and one or more such digits. -/
def isCanonicalNumber (text : List Char) : Bool :=
  let tail := text.dropWhile Unicode.isDecimalDigit
  let isNumeral (digits : List Char) := !digits.isEmpty && digits.all Unicode.isDecimalDigit
  isNumeral (text.takeWhile Unicode.isDecimalDigit) &&
    match tail with
    | [] => true
    | c :: digits => c = '.' && isNumeral digits

namespace Amount

/-- Splits digits so that the last ones are the decimals, padded to their number; the whole
part is zero when no digit is left for it. -/
def ofDigits (decimals : Nat) (digits : List Char) : Amount :=
  if decimals = 0 then
    ⟨digits, none⟩
  else
    let padded := padZeros decimals digits
    let split := padded.length - decimals
    let whole := padded.take split
    ⟨if whole.isEmpty then ['0'] else whole, some (padded.drop split)⟩

/-- The canonical text of an amount, with a dot before the decimals. -/
def canonical (amount : Amount) : List Char :=
  match amount.fraction with
  | some fraction => amount.whole ++ '.' :: fraction
  | none => amount.whole

/-- The shown text of an amount. -/
def display (config : NumericConfig) (amount : Amount) : List Char :=
  let grouped := groupThousands config.delimiter amount.whole
  let core :=
    match amount.fraction with
    | some fraction => grouped ++ config.separator ++ fraction
    | none => grouped
  config.before ++ core ++ config.after

end Amount

/-- The digits of a value that a numeric mask keeps: the first ones, up to a positive limit. -/
def keptDigits (config : NumericConfig) (value : List Char) : List Char :=
  let digits := value.filter isDigit
  match config.maxLength with
  | none | some 0 => digits
  | some limit => digits.take limit

/-- The amount that the kept digits of a value write, if there are any. -/
def amount? (config : NumericConfig) (value : List Char) : Option Amount :=
  match keptDigits config value with
  | [] => none
  | digits => some (.ofDigits config.decimals (trimZeros digits))

/-- The output of a numeric mask. Both texts are empty when no digit is kept, and also if the
canonical text is malformed. -/
def formatNumeric (config : NumericConfig) (value : List Char) : Output :=
  match amount? config value with
  | none => .empty
  | some amount =>
    if isCanonicalNumber amount.canonical then
      ⟨amount.display config, amount.canonical⟩
    else
      .empty

/-- The canonical text that was refused as malformed, if it was. -/
def malformedNumber? (config : NumericConfig) (value : List Char) : Option (List Char) :=
  (amount? config value).map Amount.canonical |>.filter (!isCanonicalNumber ·)

end InputMask
