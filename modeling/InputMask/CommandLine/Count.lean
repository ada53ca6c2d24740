/-!
# Numbers on the command line

A number is written in decimal digits, perhaps behind a plus sign, and fits in 64 bits.
-/

namespace InputMask.CommandLine

/-- Why a text is no number. -/
inductive CountFault where
  | empty
  | invalidDigit
  | tooLarge
  deriving DecidableEq, Repr

/-- The text that describes the fault. -/
def CountFault.message : CountFault → String
  | empty => "cannot parse integer from empty string"
  | invalidDigit => "invalid digit found in string"
  | tooLarge => "number too large to fit in target type"

/-- Reads digits behind a number already read. The first fault counts. -/
def readDigits (n : Nat) : List Char → Except CountFault Nat
  | [] => .ok n
  | c :: rest =>
    if '0' ≤ c ∧ c ≤ '9' then
      let n := 10 * n + (c.toNat - '0'.toNat)
      if n < Nat.pow 2 64 then readDigits n rest else .error .tooLarge
    else .error .invalidDigit

/-- Reads a number. -/
def readCount : List Char → Except CountFault Nat
  | [] => .error .empty
  | ['+'] => .error .invalidDigit
  | '+' :: digits => readDigits 0 digits
  | digits => readDigits 0 digits

end InputMask.CommandLine
