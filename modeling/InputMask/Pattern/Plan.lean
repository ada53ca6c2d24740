import InputMask.Pattern.Expr

/-!
# Plans

The plan of an expression is the simpler form in which it is compiled. Characters that
follow one another become one literal, empty parts are left out of sequences, alternatives
that are sets or single characters become one set, and what all alternatives begin with is
taken out of them. A repetition of what only matches nothing makes at most one round.

## Main definitions

* `Plan`: a simplified expression
* `Plan.shortest?`, `Plan.longest?`: bounds for the number of characters of a match
* `Plan.repeated`, `Plan.append`, `Plan.among`: repetitions, sequences and alternatives in
  simple form
* `Expr.plan`: the plan of an expression
-/

namespace InputMask.Pattern

open Unicode (CharSet)

/-- A simplified expression. A literal has a character at least, and a set is not that of a
single character. -/
inductive Plan where
  | empty
  | literal (codes : List Nat)
  | set (set : CharSet)
  | look (look : Look)
  | repetition (least : Nat) (most : Option Nat) (greedy : Bool) (part : Plan)
  | capture (part : Plan)
  | sequence (parts : List Plan)
  | alternatives (branches : List Plan)

namespace Plan

mutual

/-- Whether two parts of a pattern have the same plan. Groups that capture are told apart, even
where they have the same content. -/
def isSame : Plan → Plan → Bool
  | empty, empty => true
  | literal a, literal b => a = b
  | set a, set b => a = b
  | look a, look b => a = b
  | repetition least most greedy part, repetition least' most' greedy' part' =>
    least = least' && most = most' && greedy = greedy' && part.isSame part'
  | sequence a, sequence b => areSame a b
  | alternatives a, alternatives b => areSame a b
  | _, _ => false

/-- Whether the plans of two lists are the same, one by one. -/
def areSame : List Plan → List Plan → Bool
  | [], [] => true
  | a :: as, b :: bs => a.isSame b && areSame as bs
  | _, _ => false

end

mutual

/-- A lower bound for the number of characters of a match, if there can be a match. -/
def shortest? : Plan → Option Nat
  | empty => some 0
  | literal codes => some codes.length
  | set s => if s.isEmpty then none else some 1
  | look _ => some 0
  | repetition least _ _ part => part.shortest?.map (least * ·)
  | capture part => part.shortest?
  | sequence parts => shortestSum? parts
  | alternatives branches => shortestMin? branches

/-- The bound for a sequence. -/
def shortestSum? : List Plan → Option Nat
  | [] => some 0
  | part :: parts =>
    match part.shortest?, shortestSum? parts with
    | some a, some b => some (a + b)
    | _, _ => none

/-- The bound for alternatives; there is none if one of them cannot match. -/
def shortestMin? : List Plan → Option Nat
  | [] => none
  | [branch] => branch.shortest?
  | branch :: branches =>
    match branch.shortest?, shortestMin? branches with
    | some a, some b => some (min a b)
    | _, _ => none

end

mutual

/-- An upper bound for the number of characters of a match, if there is one and there can be a
match. -/
def longest? : Plan → Option Nat
  | empty => some 0
  | literal codes => some codes.length
  | set s => if s.isEmpty then none else some 1
  | look _ => some 0
  | repetition _ most _ part =>
    match most, part.longest? with
    | some most, some longest => some (most * longest)
    | _, _ => none
  | capture part => part.longest?
  | sequence parts => longestSum? parts
  | alternatives branches => longestMax? branches

/-- The bound for a sequence. -/
def longestSum? : List Plan → Option Nat
  | [] => some 0
  | part :: parts =>
    match part.longest?, longestSum? parts with
    | some a, some b => some (a + b)
    | _, _ => none

/-- The bound for alternatives. -/
def longestMax? : List Plan → Option Nat
  | [] => none
  | [branch] => branch.longest?
  | branch :: branches =>
    match branch.longest?, longestMax? branches with
    | some a, some b => some (max a b)
    | _, _ => none

end

mutual

/-- Whether every match begins at the start of the text (or ends at its end, if read
backwards), as far as conditions that come first tell. -/
def isAnchored (backward : Bool) : Plan → Bool
  | look l => l = if backward then .textEnd else .textStart
  | repetition least _ _ part => least ≠ 0 && part.isAnchored backward
  | capture part => part.isAnchored backward
  | sequence parts => (anchoring backward parts).1
  | alternatives branches => areAnchored backward branches
  | _ => false

/-- Whether a sequence is anchored, and whether all of it matches nothing but the empty text,
so that what comes behind it may anchor as well. -/
def anchoring (backward : Bool) : List Plan → Bool × Bool
  | [] => (false, true)
  | part :: parts =>
    let here := part.isAnchored backward
    let isEmptyHere := part.longest? = some 0
    let (others, areEmpty) := anchoring backward parts
    if backward then (others || (areEmpty && here), areEmpty && isEmptyHere)
    else (here || (isEmptyHere && others), isEmptyHere && areEmpty)

/-- Whether all alternatives are anchored. -/
def areAnchored (backward : Bool) : List Plan → Bool
  | [] => true
  | branch :: branches => branch.isAnchored backward && areAnchored backward branches

end

/-- The plan of a set. -/
def ofSet (s : CharSet) : Plan :=
  match s.ranges with
  | [(first, last)] => if first = last then .literal [first] else .set s
  | _ => .set s

/-- The plan of a repetition. -/
def repeated (least : Nat) (most : Option Nat) (greedy : Bool) (part : Plan) : Plan :=
  let isEmptyOnly := part.longest? = some 0
  let least := if isEmptyOnly then min least 1 else least
  let most := if isEmptyOnly then some (min (most.getD 1) 1) else most
  if most = some 0 then .empty
  else if least = 1 ∧ most = some 1 then part
  else .repetition least most greedy part

/-- What a plan is a sequence of. -/
def parts : Plan → List Plan
  | empty => []
  | sequence parts => parts
  | part => [part]

/-- The plan of parts that follow one another. -/
def ofParts : List Plan → Plan
  | [] => .empty
  | [part] => part
  | parts => .sequence parts

/-- Two lists of parts in a row; literals that meet are joined. -/
def joinParts : List Plan → List Plan → List Plan
  | [], parts => parts
  | [literal a], literal b :: parts => .literal (a ++ b) :: parts
  | part :: before, parts => part :: joinParts before parts

/-- A plan and then another. -/
def append (first second : Plan) : Plan :=
  ofParts (joinParts first.parts second.parts)

/-- The alternatives of a plan. -/
def branches : Plan → List Plan
  | alternatives branches => branches
  | branch => [branch]

/-- The character of a literal of one character. -/
def code? : Plan → Option Nat
  | literal [code] => some code
  | _ => none

/-- The set of a plan that is one. -/
def set? : Plan → Option CharSet
  | set s => some s
  | _ => none

/-- The one plan for alternatives that are all single characters or all sets. -/
def unite? (branches : List Plan) : Option Plan :=
  match branches.mapM code?, branches.mapM set? with
  | some codes, _ => some (ofSet (.ofRanges (codes.map fun code => (code, code))))
  | none, some sets => some (ofSet (.unions sets))
  | none, none => none

/-- The alternatives of several plans. -/
def flattened (plans : List Plan) : List Plan :=
  plans.flatMap branches

/-- The number of parts that two lists begin with alike. -/
def commonLength : List Plan → List Plan → Nat
  | a :: as, b :: bs => if a.isSame b then commonLength as bs + 1 else 0
  | _, _ => 0

/-- The number of parts that several plans begin with alike; only sequences have parts. -/
def sharedLength : List Plan → Nat
  | sequence first :: others =>
    others.foldl
      (fun shared other =>
        match other with
        | sequence parts => min shared (commonLength first parts)
        | _ => 0)
      first.length
  | _ => 0

/-- The plan of alternatives. -/
def among (plans : List Plan) : Plan :=
  match plans with
  | [only] => only
  | _ =>
    let branches := flattened plans
    match unite? branches with
    | some plan => plan
    | none =>
      match sharedLength branches with
      | 0 => .alternatives branches
      | shared =>
        let first := ((branches.head?.map parts).getD []).take shared
        let rests := flattened (branches.map fun branch => ofParts (branch.parts.drop shared))
        (ofParts first).append ((unite? rests).getD (.alternatives rests))

end Plan

namespace Expr

/-- The plans of the alternatives that an expression consists of. Those of a group are kept
together. -/
def branchPlans : Expr → List Plan
  | empty => [.empty]
  | set s => [.ofSet s]
  | look l => [.look l]
  | sequence left right => [(Plan.among left.branchPlans).append (.among right.branchPlans)]
  | either left right => left.branchPlans ++ right.branchPlans
  | repetition least most greedy part => [.repeated least most greedy (.among part.branchPlans)]
  | group captures part =>
    let plan := Plan.among part.branchPlans
    [if captures then .capture plan else plan]

/-- The plan of an expression. -/
def plan (expr : Expr) : Plan :=
  .among expr.branchPlans

end Expr

end InputMask.Pattern
