import InputMask.Pattern.Plan
import InputMask.Pattern.Utf8
import Std.Data.HashMap

/-!
# The size of a compiled pattern

A pattern whose automaton would take too much memory is refused. The states are tallied one
by one for two automata over the bytes of the text, one that reads forwards and one that
reads backwards, and neither may exceed the limit. Counted repetitions multiply the states
of what they repeat, so that short patterns can be too large; tallying stops at the limit.

Sets beyond ASCII share equal states. The states to share are kept in a table that has one
place for each remainder of a hash: a state that falls on an occupied place takes it over,
and the one that stood there is not found again.

## Main definitions

* `Tally`: the states of an automaton so far
* `Plan.tally`: the tally with the states of a plan
* `Expr.isTooLarge`: whether a pattern is refused
-/

namespace InputMask.Pattern

open Unicode (CharSet)

/-- The memory that an automaton may take, in bytes. -/
def sizeLimit : Nat := 10485760

/-- The memory of a state that leads to one other at most. -/
def stateSize : Nat := 32

/-- The memory for each state that a fork leads to. -/
def branchSize : Nat := 4

/-- The memory for each byte range of a state that leads on by byte ranges. -/
def edgeSize : Nat := 8

/-- The number of states of an automaton so far, and their memory. States are numbered from
zero in the order in which they are added. -/
structure Tally where
  states : Nat
  memory : Nat
  deriving DecidableEq, Repr

namespace Tally

/-- The tally without states. -/
def zero : Tally :=
  ⟨0, 0⟩

/-- A tally, unless it exceeds the limit. -/
def checked (tally : Tally) : Option Tally :=
  if sizeLimit < tally.memory then none else some tally

/-- The tally with so many states that lead to one other. -/
def addPlain (tally : Tally) (count : Nat) : Option Tally :=
  checked ⟨tally.states + count, tally.memory + count * stateSize⟩

/-- The tally with a state that leads to so many others. -/
def addFork (tally : Tally) (branches : Nat) : Option Tally :=
  checked ⟨tally.states + 1, tally.memory + stateSize + branches * branchSize⟩

/-- The tally with a state that leads on by so many byte ranges. -/
def addEdges (tally : Tally) (edges : Nat) : Option Tally :=
  checked ⟨tally.states + 1, tally.memory + stateSize + edges * edgeSize⟩

/-- Applies a step a number of times, as long as the limit allows it. -/
def times (step : Tally → Option Tally) : Nat → Tally → Option Tally
  | 0, tally => some tally
  | count + 1, tally =>
    match step tally with
    | none => none
    | some next => times step count next

end Tally

/-- The place of some numbers in a table with so many places. -/
def placeOf (places : Nat) (numbers : List Nat) : Nat :=
  let hash : UInt64 := numbers.foldl (fun hash n => (hash ^^^ n.toUInt64) * 1099511628211)
    14695981039346656037
  hash.toNat % places

/-- A table of states to share, each with what it is known by and its number. -/
abbrev SharedStates := Std.HashMap Nat (List Nat × Nat)

namespace SharedStates

/-- The number of the state that is known by some numbers. -/
def find? (shared : SharedStates) (place : Nat) (key : List Nat) : Option Nat :=
  match shared[place]? with
  | some (kept, number) => if kept = key then some number else none
  | none => none

end SharedStates

/-- Groups neighbouring sequences by their first range. -/
def groupByHead : List (List ByteRange) → List (ByteRange × List (List ByteRange))
  | [] => []
  | [] :: rest => groupByHead rest
  | (head :: tail) :: rest =>
    match groupByHead rest with
    | [] => [(head, [tail])]
    | (head', tails) :: groups =>
      if head = head' then (head, tail :: tails) :: groups
      else (head, [tail]) :: (head', tails) :: groups

/-- Adds the states for some sequences, those they lead to first, and gives the number of the
state they start from. The table has ten thousand places. -/
def addForward (target : Nat) : Nat → List (List ByteRange) → SharedStates × Tally →
    Option (Nat × SharedStates × Tally)
  | 0, _, soFar => some (target, soFar)
  | depth + 1, sequences, soFar => do
    let groups := groupByHead sequences
    if groups.isEmpty then
      return (target, soFar)
    let (edges, shared, tally) ← groups.foldlM
      (fun (edges, soFar) (range, tails) => do
        let (next, soFar) ← addForward target depth tails soFar
        return (next :: range.last :: range.first :: edges, soFar))
      (([] : List Nat), soFar)
    let key := edges.reverse
    let place := placeOf 10000 key
    match shared.find? place key with
    | some number => return (number, shared, tally)
    | none =>
      let next ← tally.addEdges groups.length
      return (tally.states, shared.insert place (key, tally.states), next)

/-- The tally with the states of a set beyond ASCII, read forwards. -/
def tallyForward (sequences : List (List ByteRange)) (tally : Tally) : Option Tally := do
  let (_, _, tally) ← addForward tally.states 5 sequences (∅, ← tally.addPlain 1)
  return tally

/-- Adds the states for one sequence, those for its first ranges last in the automaton, and
gives the number of the state it starts from. The table has a thousand places. -/
def addBackward (target : Nat) : List ByteRange → SharedStates × Tally →
    Option (Nat × SharedStates × Tally)
  | [], soFar => some (target, soFar)
  | range :: ranges, (shared, tally) => do
    let key := [target, range.first, range.last]
    let place := placeOf 1000 key
    match shared.find? place key with
    | some number => addBackward number ranges (shared, tally)
    | none =>
      let next ← tally.addPlain 1
      addBackward tally.states ranges (shared.insert place (key, tally.states), next)

/-- The tally with the states of a set beyond ASCII, read backwards: a fork, the end, and the
states of the sequences. -/
def tallyBackward (sequences : List (List ByteRange)) (tally : Tally) : Option Tally := do
  let tally ← tally.addFork sequences.length
  let (_, tally) ← sequences.foldlM
    (fun soFar sequence => do
      let (_, soFar) ← addBackward tally.states sequence soFar
      return soFar)
    ((∅ : SharedStates), ← tally.addPlain 1)
  return tally

/-- The tally with the states of a set. -/
def tallySet (backward : Bool) (set : CharSet) (tally : Tally) : Option Tally :=
  if set.isAscii then (tally.addPlain 1).bind (·.addEdges set.ranges.length)
  else if backward then tallyBackward (byteSequences set) tally
  else tallyForward (byteSequences set) tally

/-- The stretches into which the literals that end among some literals cut the others. A
literal that ends before any stretch has begun makes a cut only once. -/
def stretches (literals : List (List Nat)) : List (List (List Nat)) :=
  let (done, current) := literals.foldl
    (fun (done, current) literal =>
      if !literal.isEmpty then (done, literal :: current)
      else if done = [[]] ∧ current.isEmpty then (done, current)
      else (current.reverse :: done, []))
    (([], []) : List (List (List Nat)) × List (List Nat))
  (current.reverse :: done).reverse

/-- The different first bytes of literals, each with what follows it. -/
def byFirstByte (literals : List (List Nat)) : List (List (List Nat)) :=
  let bytes := (literals.filterMap List.head?).eraseDups
  bytes.map fun byte =>
    (literals.filter (·.head? = some byte)).map (·.drop 1)

/-- The tally with the states for literals that share what they begin with. Every place where
literals part or end has a fork to its stretches and to the end. -/
def tallyLiterals : Nat → List (List Nat) → Tally → Option Tally
  | 0, _, tally => some tally
  | depth + 1, literals, tally => do
    let cuts := stretches literals
    let tally ← cuts.foldlM
      (fun tally stretch => do
        let groups := byFirstByte stretch
        let tally ← groups.foldlM
          (fun tally rests =>
            if rests.all List.isEmpty then some tally else tallyLiterals depth rests tally)
          tally
        if groups.isEmpty then return tally
        else if groups.length = 1 then tally.addPlain 1
        else tally.addEdges groups.length)
      tally
    tally.addFork ((cuts.filter (!·.isEmpty)).length + (cuts.length - 1))

namespace Plan

/-- The bytes of a literal. -/
def bytes? : Plan → Option (List Nat)
  | literal codes => some (codes.flatMap utf8)
  | _ => none

mutual

/-- The tally with the states of a plan. Groups that capture have states of their own forwards
only. What may be repeated for ever is followed by a fork, or entered by one if no round is
needed; a fork more is needed if a round may be empty. Further rounds of a bounded repetition
begin with a fork each. -/
def tally (backward : Bool) : Plan → Tally → Option Tally
  | empty, tally => tally.addPlain 1
  | literal codes, tally => tally.addPlain (codes.flatMap utf8).length
  | set s, tally => tallySet backward s tally
  | look _, tally => tally.addPlain 1
  | repetition least none _ part, tally =>
    if least ≠ 0 then do
      (← Tally.times (part.tally backward) least tally).addFork 2
    else if part.shortest?.any (0 < ·) then do
      part.tally backward (← tally.addFork 2)
    else do
      let tally ← (← part.tally backward tally).addFork 2
      (← tally.addFork 2).addPlain 1
  | repetition least (some most) _ part, tally =>
    if least = 0 ∧ most = 1 then do
      (← part.tally backward (← tally.addFork 2)).addPlain 1
    else if least = most then
      Tally.times (part.tally backward) least tally
    else do
      let tally ←
        if least = 0 then tally.addPlain 1
        else Tally.times (part.tally backward) least tally
      let round (tally : Tally) : Option Tally := do part.tally backward (← tally.addFork 2)
      Tally.times round (most - least) (← tally.addPlain 1)
  | capture part, tally =>
    if backward then part.tally backward tally
    else do (← part.tally backward (← tally.addPlain 1)).addPlain 1
  | sequence parts, tally => tallyParts backward parts tally
  | alternatives branches, tally =>
    match branches.mapM bytes? with
    | some literals => do
      let literals := if backward then literals.map List.reverse else literals
      let depth := (literals.map List.length).foldl max 0
      tallyLiterals (depth + 1) literals (← tally.addPlain 1)
    | none => tallyBranches backward branches.length 0 branches tally

/-- The tally with the states of a sequence. The part that is read first comes first. -/
def tallyParts (backward : Bool) : List Plan → Tally → Option Tally
  | [], tally => some tally
  | part :: parts, tally =>
    if backward then do part.tally backward (← tallyParts backward parts tally)
    else do tallyParts backward parts (← part.tally backward tally)

/-- The tally with the states of some of so many alternatives, of which others have been
tallied. The fork to them all and the state in which they end come behind the second one. -/
def tallyBranches (backward : Bool) (count : Nat) (before : Nat) :
    List Plan → Tally → Option Tally
  | [], tally => some tally
  | branch :: branches, tally => do
    let tally ← branch.tally backward tally
    let tally ← if before = 1 then (← tally.addFork count).addPlain 1 else some tally
    tallyBranches backward count (before + 1) branches tally

end

/-- The tally of a whole automaton: the states that let a match start anywhere, the states of
the plan as those of a group, and the one that ends a match. -/
def automaton (backward : Bool) (plan : Plan) : Option Tally := do
  let tally ←
    if plan.isAnchored backward then Tally.zero.addPlain 1
    else (← (← Tally.zero.addFork 2).addPlain 1).addEdges 1
  let tally ← (capture plan).tally backward tally
  tally.addPlain 1

end Plan

/-- Whether a pattern is refused because of its size. -/
def Expr.isTooLarge (expr : Expr) : Bool :=
  let plan := expr.plan
  (plan.automaton false).isNone || (plan.automaton true).isNone

end InputMask.Pattern
