/-!
# Sets of characters as ranges

A set of code points is a list of closed ranges in ascending order that neither overlap
nor touch, so that every set has one list.

## Main definitions

* `CharSet.contains`: membership
* `CharSet.ofRanges`: the set that any ranges cover
* union, complement, intersection, difference, symmetric difference
-/

namespace InputMask.Unicode

/-- The greatest code point. -/
def lastCodePoint : Nat := 0x10ffff

/-- A set of code points: ascending closed ranges with gaps between them. -/
structure CharSet where
  ranges : List (Nat × Nat)
  deriving DecidableEq, Repr

namespace CharSet

/-- The set without members. -/
def empty : CharSet :=
  ⟨[]⟩

/-- All code points. -/
def all : CharSet :=
  ⟨[(0, lastCodePoint)]⟩

/-- The code points from one to another. -/
def range (first last : Nat) : CharSet :=
  ⟨[(first, last)]⟩

/-- One code point. -/
def singleton (code : Nat) : CharSet :=
  range code code

/-- Whether a code point is in the set. -/
def contains (set : CharSet) (code : Nat) : Bool :=
  set.ranges.any fun (first, last) => first ≤ code && code ≤ last

/-- Whether the set has no members. -/
def isEmpty (set : CharSet) : Bool :=
  set.ranges.isEmpty

/-- Whether all members are ASCII. -/
def isAscii (set : CharSet) : Bool :=
  set.ranges.all fun (_, last) => last < 128

/-- Joins a range with those of a list that overlap or touch, in a list ordered by first code
point. -/
def joinOnto (first last : Nat) : List (Nat × Nat) → List (Nat × Nat)
  | [] => [(first, last)]
  | (first', last') :: rest =>
    if first' ≤ last + 1 then
      joinOnto first (max last last') rest
    else
      (first, last) :: joinOnto first' last' rest

/-- Joins the ranges of a list ordered by first code point. -/
def join : List (Nat × Nat) → List (Nat × Nat)
  | [] => []
  | (first, last) :: rest => joinOnto first last rest

/-- The set that ranges in any order cover. -/
def ofRanges (ranges : List (Nat × Nat)) : CharSet :=
  ⟨join (ranges.mergeSort fun a b => a.1 ≤ b.1)⟩

/-- The members of either set. -/
def union (a b : CharSet) : CharSet :=
  ofRanges (a.ranges ++ b.ranges)

/-- The members of any set of a list. -/
def unions (sets : List CharSet) : CharSet :=
  ofRanges (sets.flatMap ranges)

/-- The gaps that ascending ranges leave from a code point on. -/
def gaps (start : Nat) : List (Nat × Nat) → List (Nat × Nat)
  | [] => if start ≤ lastCodePoint then [(start, lastCodePoint)] else []
  | (first, last) :: rest =>
    if start < first then
      (start, first - 1) :: gaps (last + 1) rest
    else
      gaps (last + 1) rest

/-- The code points that are not in the set. -/
def complement (set : CharSet) : CharSet :=
  ⟨gaps 0 set.ranges⟩

/-- The members of both sets. -/
def inter (a b : CharSet) : CharSet :=
  (a.complement.union b.complement).complement

/-- The members of the first set that are not in the second. -/
def diff (a b : CharSet) : CharSet :=
  a.inter b.complement

/-- The members of exactly one of two sets. -/
def symmDiff (a b : CharSet) : CharSet :=
  (a.union b).diff (a.inter b)

end CharSet

end InputMask.Unicode
