import InputMask.Unicode.Property

/-!
# Expressions and the texts they are found in

What a pattern means, apart from how it is written: character sets, conditions on places
between characters, sequences, alternatives and repetitions. A text is searched by
computing, for a set of places, the places that an expression leads to from there.

## Main definitions

* `Look`, `Expr`
* `Places`: a set of places in a text, as a number whose bits stand for them
* `Expr.ends`: the places that matches from given places end at
* `Expr.isFoundIn`: whether an expression matches anywhere in a text
-/

namespace InputMask.Pattern

open Unicode (CharSet)

/-- Conditions on a place between characters. The flag of a condition on words tells whether
words are made of characters of all scripts or of ASCII only; the flag of a condition on lines
tells whether carriage returns end lines as well. -/
inductive Look where
  | textStart
  | textEnd
  | lineStart (crlf : Bool)
  | lineEnd (crlf : Bool)
  | wordBoundary (unicode : Bool)
  | notWordBoundary (unicode : Bool)
  | wordStart (unicode : Bool)
  | wordEnd (unicode : Bool)
  | wordStartHalf (unicode : Bool)
  | wordEndHalf (unicode : Bool)
  deriving DecidableEq, Repr

/-- The meaning of a pattern. A greedy repetition prefers more rounds, which does not change
whether a text is found. -/
inductive Expr where
  | empty
  | set (set : CharSet)
  | look (look : Look)
  | sequence (left right : Expr)
  | either (left right : Expr)
  | repetition (least : Nat) (most : Option Nat) (greedy : Bool) (part : Expr)
  | group (captures : Bool) (part : Expr)
  deriving Repr

/-- The ASCII characters that words are made of. -/
def asciiWordCharacters : CharSet :=
  .unions [.range 0x30 0x39, .range 0x41 0x5a, .singleton 0x5f, .range 0x61 0x7a]

/-- Whether a character, if there is one, belongs to a word. -/
def isWordChar (unicode : Bool) (c : Option Char) : Bool :=
  match c with
  | none => false
  | some c =>
    (if unicode then Unicode.wordCharacters else asciiWordCharacters).contains c.toNat

/-- Whether a condition holds between two characters; at the start and at the end of the text
one of them is missing. -/
def Look.holds (before after : Option Char) : Look → Bool
  | textStart => before.isNone
  | textEnd => after.isNone
  | lineStart false => before.isNone || before = some '\n'
  | lineEnd false => after.isNone || after = some '\n'
  | lineStart true =>
    before.isNone || before = some '\n' || (before = some '\r' && after ≠ some '\n')
  | lineEnd true =>
    after.isNone || after = some '\r' || (after = some '\n' && before ≠ some '\r')
  | wordBoundary u => isWordChar u before != isWordChar u after
  | notWordBoundary u => isWordChar u before == isWordChar u after
  | wordStart u => !isWordChar u before && isWordChar u after
  | wordEnd u => isWordChar u before && !isWordChar u after
  | wordStartHalf u => !isWordChar u before
  | wordEndHalf u => !isWordChar u after

/-- A set of places in a text: bit `i` stands for the place behind the first `i` characters. -/
abbrev Places := Nat

namespace Places

/-- The places at which a list of answers, one for each place, says yes. -/
def ofList : List Bool → Places
  | [] => 0
  | b :: rest => b.toNat + 2 * ofList rest

/-- The places before the characters of a text that are in a set. -/
def before (text : List Char) (set : CharSet) : Places :=
  ofList (text.map fun c => set.contains c.toNat)

/-- The places of a text at which a condition holds. -/
def atLook (text : List Char) (look : Look) : Places :=
  ofList (List.zipWith look.holds (none :: text.map some) (text.map some ++ [none]))

/-- All places of a text. -/
def all (text : List Char) : Places :=
  Nat.pow 2 (text.length + 1) - 1

end Places

/-- Applies a step a number of times, or until it changes nothing. -/
def applySteps (step : Places → Places) : Nat → Places → Places
  | 0, places => places
  | count + 1, places =>
    let next := step places
    if next = places then places else applySteps step count next

/-- The places that matches of an expression end at when they start at given places. No place
is reached anew after as many rounds of a repetition as the text has places, so further rounds
are not tried. -/
def Expr.ends (text : List Char) : Expr → Places → Places
  | empty, places => places
  | set s, places => (places &&& .before text s) <<< 1
  | look l, places => places &&& .atLook text l
  | sequence left right, places => right.ends text (left.ends text places)
  | either left right, places => left.ends text places ||| right.ends text places
  | group _ part, places => part.ends text places
  | repetition least most _ part, places =>
    let rounds := text.length + 1
    let start := applySteps (part.ends text) (min least rounds) places
    let further := match most with
      | none => rounds
      | some most => min (most - least) rounds
    applySteps (fun reached => reached ||| part.ends text reached) further start

/-- Whether an expression matches some part of a text. -/
def Expr.isFoundIn (expr : Expr) (text : List Char) : Bool :=
  expr.ends text (.all text) ≠ 0

end InputMask.Pattern
