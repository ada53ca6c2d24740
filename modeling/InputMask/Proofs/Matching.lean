import InputMask.Pattern.Expr
import Mathlib.Data.Nat.Bitwise
import Mathlib.Logic.Function.Iterate

/-!
# What patterns match

An expression matches a piece of a text between what stands before it and what stands behind it.
The search, which follows sets of places through the expression, finds exactly those pieces. It
takes no more rounds of a repetition than the text has places: a longer run has a round that
matches nothing, and such a round can be left out or made twice.

## Main definitions

* `Meaning`: which pieces of texts are matched, and what the groups capture in them
* `Expr.meaning`: what an expression matches
* `Meaning.Leads`: a meaning as a relation between the places of a text
* `Follows`: a step on sets of places does what a meaning says

## Main results

* `Meaning.leads_rounds_min`: further rounds lead nowhere else
* `Expr.follows_ends`: the search follows an expression from place to place
* `Expr.isFoundIn_eq_true_iff`: an expression is found in a text if it matches a piece of it
-/

namespace InputMask.Pattern

open Unicode (CharSet)

/-- Which pieces of texts are matched between what stands before and behind them. The captures are
the pieces that the groups have matched on the way, in the order in which the groups were closed. -/
abbrev Meaning := (before middle behind : List Char) → (captures : List (List Char)) → Prop

namespace Meaning

/-- The empty piece is matched everywhere. -/
def nothing : Meaning :=
  fun _ middle _ captures => middle = [] ∧ captures = []

/-- A single character is matched if it is in a set. -/
def character (set : CharSet) : Meaning :=
  fun _ middle _ captures => captures = [] ∧ ∃ c, middle = [c] ∧ set.contains c.toNat = true

/-- The empty piece is matched where a condition holds. -/
def condition (look : Look) : Meaning :=
  fun before middle behind captures =>
    middle = [] ∧ captures = [] ∧ look.holds before.getLast? behind.head? = true

/-- Two pieces are matched one behind the other. -/
def andThen (first second : Meaning) : Meaning :=
  fun before middle behind captures =>
    ∃ left right inLeft inRight, middle = left ++ right ∧ captures = inLeft ++ inRight ∧
      first before left (right ++ behind) inLeft ∧ second (before ++ left) right behind inRight

/-- A piece is matched in one way or the other. -/
def or (first second : Meaning) : Meaning :=
  fun before middle behind captures =>
    first before middle behind captures ∨ second before middle behind captures

/-- So many pieces are matched one behind the other. -/
def rounds (part : Meaning) : Nat → Meaning
  | 0 => nothing
  | count + 1 => part.andThen (rounds part count)

/-- A number of pieces within bounds are matched one behind the other. An upper bound that is below
the lower one stands for it. -/
def repeated (part : Meaning) (least : Nat) (most : Option Nat) : Meaning :=
  fun before middle behind captures =>
    ∃ count, least ≤ count ∧ (∀ bound, most = some bound → count ≤ max least bound) ∧
      part.rounds count before middle behind captures

/-- A piece is matched and captured. -/
def captured (part : Meaning) : Meaning :=
  fun before middle behind captures =>
    ∃ inner, part before middle behind inner ∧ captures = inner ++ [middle]

end Meaning

/-- What an expression matches. -/
def Expr.meaning : Expr → Meaning
  | empty => .nothing
  | set s => .character s
  | look l => .condition l
  | sequence left right => left.meaning.andThen right.meaning
  | either left right => left.meaning.or right.meaning
  | repetition least most _ part => part.meaning.repeated least most
  | group true part => part.meaning.captured
  | group false part => part.meaning

/-! ### From place to place -/

namespace Meaning

/-- A meaning leads from one place of a text to another if it matches what stands between them. -/
def Leads (meaning : Meaning) (text : List Char) (i j : Nat) : Prop :=
  ∃ before middle behind captures, text = before ++ (middle ++ behind) ∧ before.length = i ∧
    i + middle.length = j ∧ meaning before middle behind captures

variable {first second part : Meaning} {text : List Char} {set : CharSet} {look : Look}
  {i j n : Nat}

theorem Leads.le (leads : part.Leads text i j) : i ≤ j := by
  obtain ⟨before, middle, behind, captures, -, -, rfl, -⟩ := leads
  exact Nat.le_add_right i _

theorem Leads.le_length (leads : part.Leads text i j) : j ≤ text.length := by
  obtain ⟨before, middle, behind, captures, rfl, rfl, rfl, -⟩ := leads
  simp only [List.length_append]
  omega

theorem Leads.start_le_length (leads : part.Leads text i j) : i ≤ text.length :=
  leads.le.trans leads.le_length

theorem leads_nothing : nothing.Leads text i j ↔ i = j ∧ i ≤ text.length := by
  constructor
  · intro leads
    refine ⟨?_, leads.start_le_length⟩
    obtain ⟨before, middle, behind, captures, -, -, rfl, rfl, -⟩ := leads
    rfl
  · rintro ⟨rfl, within⟩
    exact ⟨text.take i, [], text.drop i, [], (List.take_append_drop i text).symm,
      List.length_take_of_le within, rfl, rfl, rfl⟩

theorem leads_character :
    (character set).Leads text i j ↔
      j = i + 1 ∧ ∃ c, text[i]? = some c ∧ set.contains c.toNat = true := by
  constructor
  · rintro ⟨before, middle, behind, captures, rfl, rfl, rfl, -, c, rfl, contained⟩
    exact ⟨rfl, c, by simp, contained⟩
  · rintro ⟨rfl, c, at_i, contained⟩
    obtain ⟨within, rfl⟩ := List.getElem?_eq_some_iff.mp at_i
    refine ⟨text.take i, [text[i]], text.drop (i + 1), [], ?_, List.length_take_of_le within.le,
      rfl, rfl, text[i], rfl, contained⟩
    rw [List.singleton_append, List.getElem_cons_drop, List.take_append_drop]

theorem leads_condition :
    (condition look).Leads text i j ↔ i = j ∧ i ≤ text.length ∧
      look.holds (text.take i).getLast? (text.drop i).head? = true := by
  constructor
  · rintro ⟨before, middle, behind, captures, rfl, rfl, rfl, rfl, -, holds⟩
    refine ⟨rfl, by simp, ?_⟩
    rwa [List.nil_append, List.take_left, List.drop_left]
  · rintro ⟨rfl, within, holds⟩
    exact ⟨text.take i, [], text.drop i, [], (List.take_append_drop i text).symm,
      List.length_take_of_le within, rfl, rfl, rfl, holds⟩

theorem leads_andThen :
    (first.andThen second).Leads text i j ↔
      ∃ k, first.Leads text i k ∧ second.Leads text k j := by
  constructor
  · rintro ⟨before, _, behind, _, rfl, rfl, rfl, left, right, inLeft, inRight, rfl, rfl, hfirst,
      hsecond⟩
    refine ⟨before.length + left.length,
      ⟨before, left, right ++ behind, inLeft, by simp, rfl, rfl, hfirst⟩,
      ⟨before ++ left, right, behind, inRight, by simp, by simp, ?_, hsecond⟩⟩
    rw [List.length_append, Nat.add_assoc]
  · rintro ⟨k, ⟨before, left, rest, inLeft, split, rfl, rfl, hfirst⟩,
      ⟨upTo, right, behind, inRight, split', at_k, rfl, hsecond⟩⟩
    have same : (before ++ left) ++ rest = upTo ++ (right ++ behind) := by
      rw [List.append_assoc, ← split, split']
    obtain ⟨rfl, rfl⟩ := List.append_inj same (by rw [List.length_append, at_k])
    refine ⟨before, left ++ right, behind, inLeft ++ inRight, ?_, rfl, ?_, left, right, inLeft,
      inRight, rfl, rfl, hfirst, hsecond⟩
    · rw [split, List.append_assoc]
    · rw [List.length_append, Nat.add_assoc]

theorem leads_or :
    (first.or second).Leads text i j ↔ first.Leads text i j ∨ second.Leads text i j := by
  constructor
  · rintro ⟨before, middle, behind, captures, split, at_i, at_j, hfirst | hsecond⟩
    · exact .inl ⟨before, middle, behind, captures, split, at_i, at_j, hfirst⟩
    · exact .inr ⟨before, middle, behind, captures, split, at_i, at_j, hsecond⟩
  · rintro (⟨before, middle, behind, captures, split, at_i, at_j, hfirst⟩ |
      ⟨before, middle, behind, captures, split, at_i, at_j, hsecond⟩)
    · exact ⟨before, middle, behind, captures, split, at_i, at_j, .inl hfirst⟩
    · exact ⟨before, middle, behind, captures, split, at_i, at_j, .inr hsecond⟩

/-- Capturing a piece does not change where it ends. -/
theorem leads_captured : part.captured.Leads text i j ↔ part.Leads text i j := by
  constructor
  · rintro ⟨before, middle, behind, _, split, at_i, at_j, inner, matched, rfl⟩
    exact ⟨before, middle, behind, inner, split, at_i, at_j, matched⟩
  · rintro ⟨before, middle, behind, inner, split, at_i, at_j, matched⟩
    exact ⟨before, middle, behind, _, split, at_i, at_j, inner, matched, rfl⟩

/-! ### Rounds -/

theorem leads_rounds_zero : (part.rounds 0).Leads text i j ↔ i = j ∧ i ≤ text.length :=
  leads_nothing

theorem leads_rounds_succ :
    (part.rounds (n + 1)).Leads text i j ↔
      ∃ k, part.Leads text i k ∧ (part.rounds n).Leads text k j :=
  leads_andThen

theorem leads_rounds_add {m : Nat} :
    (part.rounds (m + n)).Leads text i j ↔
      ∃ k, (part.rounds m).Leads text i k ∧ (part.rounds n).Leads text k j := by
  induction m generalizing i with
  | zero =>
    simp only [Nat.zero_add, leads_rounds_zero]
    constructor
    · intro leads
      exact ⟨i, ⟨rfl, leads.start_le_length⟩, leads⟩
    · rintro ⟨k, ⟨rfl, -⟩, leads⟩
      exact leads
  | succ m ih =>
    rw [Nat.succ_add, leads_rounds_succ]
    simp only [leads_rounds_succ, ih]
    constructor
    · rintro ⟨k, one, l, some, others⟩
      exact ⟨l, ⟨k, one, some⟩, others⟩
    · rintro ⟨l, ⟨k, one, some⟩, others⟩
      exact ⟨k, one, l, some, others⟩

/-- Of more rounds than characters one matches nothing, and can be left out. -/
theorem leads_rounds_of_succ (leads : (part.rounds (n + 1)).Leads text i j) (many : j ≤ i + n) :
    (part.rounds n).Leads text i j := by
  induction n generalizing i with
  | zero =>
    have same : i = j := Nat.le_antisymm leads.le many
    exact leads_rounds_zero.mpr ⟨same, leads.start_le_length⟩
  | succ n ih =>
    -- either the first round matches nothing, or it leaves fewer characters than rounds behind it
    obtain ⟨k, one, others⟩ := leads_rounds_succ.mp leads
    rcases Nat.eq_or_lt_of_le one.le with rfl | moved
    · exact others
    · exact leads_rounds_succ.mpr ⟨k, one, ih others (by omega)⟩

/-- Of more rounds than characters one matches nothing, and can be made twice. -/
theorem leads_rounds_succ_of_lt (leads : (part.rounds n).Leads text i j) (many : j < i + n) :
    (part.rounds (n + 1)).Leads text i j := by
  induction n generalizing i with
  | zero => exact absurd leads.le (Nat.not_le.mpr many)
  | succ n ih =>
    obtain ⟨k, one, others⟩ := leads_rounds_succ.mp leads
    rcases Nat.eq_or_lt_of_le one.le with rfl | moved
    · exact leads_rounds_succ.mpr ⟨i, one, leads⟩
    · exact leads_rounds_succ.mpr ⟨k, one, ih others (by omega)⟩

/-- As many rounds as the text has places lead wherever more of them lead. -/
theorem leads_rounds_of_length_lt (many : text.length + 1 ≤ n) :
    (part.rounds n).Leads text i j ↔ (part.rounds (text.length + 1)).Leads text i j := by
  induction n, many using Nat.le_induction with
  | base => rfl
  | succ n many ih =>
    rw [← ih]
    constructor
    · intro leads
      exact leads_rounds_of_succ leads (by have := leads.le_length; omega)
    · intro leads
      exact leads_rounds_succ_of_lt leads (by have := leads.le_length; omega)

/-- Rounds beyond the number of places lead nowhere else. -/
theorem leads_rounds_min :
    (part.rounds (min n (text.length + 1))).Leads text i j ↔ (part.rounds n).Leads text i j := by
  rcases Nat.le_total n (text.length + 1) with few | many
  · rw [Nat.min_eq_left few]
  · rw [Nat.min_eq_right many, leads_rounds_of_length_lt many]

/-- With nothing as a choice in each round, any smaller number of rounds is made. -/
theorem leads_rounds_or_nothing :
    ((part.or nothing).rounds n).Leads text i j ↔
      ∃ count ≤ n, (part.rounds count).Leads text i j := by
  induction n generalizing i with
  | zero =>
    simp only [Nat.le_zero_eq, exists_eq_left]
    rfl
  | succ n ih =>
    simp only [leads_rounds_succ, leads_or, leads_nothing, ih]
    constructor
    · rintro ⟨k, one | ⟨rfl, -⟩, count, few, others⟩
      · exact ⟨count + 1, Nat.succ_le_succ few, leads_rounds_succ.mpr ⟨k, one, others⟩⟩
      · exact ⟨count, Nat.le_succ_of_le few, others⟩
    · rintro ⟨_ | count, few, leads⟩
      · exact ⟨i, .inr ⟨rfl, leads.start_le_length⟩, 0, Nat.zero_le n, leads⟩
      · obtain ⟨k, one, others⟩ := leads_rounds_succ.mp leads
        exact ⟨k, .inl one, count, Nat.le_of_succ_le_succ few, others⟩

theorem leads_repeated {least : Nat} {most : Option Nat} :
    (part.repeated least most).Leads text i j ↔
      ∃ further, (∀ bound, most = some bound → further ≤ bound - least) ∧
        (part.rounds (least + further)).Leads text i j := by
  constructor
  · rintro ⟨before, middle, behind, captures, split, at_i, at_j, count, enough, few, matched⟩
    obtain ⟨further, rfl⟩ := Nat.exists_eq_add_of_le enough
    refine ⟨further, fun bound given => ?_, before, middle, behind, captures, split, at_i, at_j,
      matched⟩
    have := few bound given
    omega
  · rintro ⟨further, few, before, middle, behind, captures, split, at_i, at_j, matched⟩
    refine ⟨before, middle, behind, captures, split, at_i, at_j, least + further,
      Nat.le_add_right least further, fun bound given => ?_, matched⟩
    have := few bound given
    omega

/-- Rounds that a bound lets, but that lie beyond the number of places, have nothing to add. -/
theorem exists_leads_rounds_iff {least further : Nat} {most : Option Nat}
    (bounded : further = match most with
      | none => text.length + 1
      | some most => min (most - least) (text.length + 1)) :
    (∃ count ≤ further, (part.rounds count).Leads text i j) ↔
      ∃ count, (∀ bound, most = some bound → count ≤ bound - least) ∧
        (part.rounds count).Leads text i j := by
  constructor
  · rintro ⟨count, few, leads⟩
    refine ⟨count, fun bound given => ?_, leads⟩
    rw [bounded, given] at few
    exact few.trans (Nat.min_le_left _ _)
  · rintro ⟨count, few, leads⟩
    refine ⟨min count (text.length + 1), ?_, leads_rounds_min.mpr leads⟩
    rw [bounded]
    cases most with
    | none => exact Nat.min_le_right _ _
    | some bound =>
      exact Nat.le_min.mpr ⟨(Nat.min_le_left _ _).trans (few bound rfl), Nat.min_le_right _ _⟩

end Meaning

/-! ### Sets of places -/

section Search

variable {text : List Char} {first second : Places → Places} {left right : Meaning}
  {places : Places} {i j : Nat}

theorem Places.testBit_ofList (answers : List Bool) (i : Nat) :
    (ofList answers).testBit i = true ↔ answers[i]? = some true := by
  induction answers generalizing i with
  | nil => simp [ofList]
  | cons b answers ih =>
    have half : (b.toNat + 2 * ofList answers) / 2 = ofList answers := by
      have := b.toNat_le
      omega
    cases i with
    | zero => cases b <;> simp [ofList, Nat.testBit_zero]
    | succ i => rw [ofList, Nat.testBit_succ, half, ih, List.getElem?_cons_succ]

theorem Places.testBit_before {set : CharSet} :
    (before text set).testBit i = true ↔
      ∃ c, text[i]? = some c ∧ set.contains c.toNat = true := by
  rw [before, testBit_ofList, List.getElem?_map, Option.map_eq_some_iff]

theorem Places.testBit_atLook {look : Look} :
    (atLook text look).testBit i = true ↔
      i ≤ text.length ∧ look.holds (text.take i).getLast? (text.drop i).head? = true := by
  have before_i : i ≤ text.length →
      (none :: text.map some)[i]? = some (text.take i).getLast? := by
    intro within
    cases i with
    | zero => rfl
    | succ i =>
      rw [List.getElem?_cons_succ, List.getElem?_map, List.getLast?_take, if_neg i.succ_ne_zero,
        Nat.add_sub_cancel, List.getElem?_eq_getElem within]
      rfl
  have behind_i : i ≤ text.length →
      (text.map some ++ [none])[i]? = some (text.drop i).head? := by
    intro within
    rw [List.head?_drop]
    rcases Nat.lt_or_eq_of_le within with inside | rfl
    · rw [List.getElem?_append_left (by simpa), List.getElem?_map, List.getElem?_eq_getElem inside]
      rfl
    · rw [List.getElem?_append_right (by simp)]
      simp
  rw [atLook, testBit_ofList, List.getElem?_zipWith_eq_some]
  constructor
  · rintro ⟨x, y, at_x, at_y, holds⟩
    have within : i ≤ text.length := by
      obtain ⟨inside, -⟩ := List.getElem?_eq_some_iff.mp at_x
      simpa [Nat.lt_succ_iff] using inside
    cases (before_i within).symm.trans at_x
    cases (behind_i within).symm.trans at_y
    exact ⟨within, holds⟩
  · rintro ⟨within, holds⟩
    exact ⟨_, _, before_i within, behind_i within, holds⟩

theorem Places.testBit_all : (all text).testBit i = true ↔ i ≤ text.length := by
  have all_eq : all text = 2 ^ (text.length + 1) - 1 := rfl
  rw [all_eq, Nat.testBit_two_pow_sub_one, decide_eq_true_iff, Nat.lt_succ_iff]

/-! ### The search -/

/-- The places are places of the text. -/
def Within (text : List Char) (places : Places) : Prop :=
  ∀ i, places.testBit i = true → i ≤ text.length

/-- A step goes from places of a text to all places that a meaning leads to from one of them. -/
def Follows (text : List Char) (step : Places → Places) (meaning : Meaning) : Prop :=
  ∀ places, Within text places → ∀ j, (step places).testBit j = true ↔
    ∃ i, places.testBit i = true ∧ meaning.Leads text i j

theorem Follows.within (follows : Follows text first left) (within : Within text places) :
    Within text (first places) := by
  intro j reached
  obtain ⟨i, -, leads⟩ := (follows places within j).mp reached
  exact leads.le_length

theorem Follows.congr (follows : Follows text first left)
    (same : ∀ i j, left.Leads text i j ↔ right.Leads text i j) : Follows text first right := by
  intro places within j
  simp only [follows places within j, same]

theorem follows_nothing : Follows text id .nothing := by
  intro places within j
  simp only [id_eq, Meaning.leads_nothing]
  constructor
  · intro held
    exact ⟨j, held, rfl, within j held⟩
  · rintro ⟨i, held, rfl, -⟩
    exact held

theorem Follows.andThen (hfirst : Follows text first left) (hsecond : Follows text second right) :
    Follows text (second ∘ first) (left.andThen right) := by
  intro places within j
  simp only [Function.comp_apply, hsecond _ (hfirst.within within), hfirst _ within,
    Meaning.leads_andThen]
  constructor
  · rintro ⟨k, ⟨i, held, one⟩, other⟩
    exact ⟨i, held, k, one, other⟩
  · rintro ⟨i, held, k, one, other⟩
    exact ⟨k, ⟨i, held, one⟩, other⟩

theorem Follows.or (hfirst : Follows text first left) (hsecond : Follows text second right) :
    Follows text (fun places => first places ||| second places) (left.or right) := by
  intro places within j
  simp only [Nat.testBit_or, Bool.or_eq_true, hfirst _ within, hsecond _ within, Meaning.leads_or,
    and_or_left, exists_or]

theorem Follows.rounds (follows : Follows text first left) (n : Nat) :
    Follows text first^[n] (left.rounds n) := by
  induction n with
  | zero => exact follows_nothing
  | succ n ih => exact follows.andThen ih

/-- Stopping where nothing changes makes no difference. -/
theorem applySteps_eq_iterate (step : Places → Places) (n : Nat) :
    applySteps step n = step^[n] := by
  funext places
  induction n generalizing places with
  | zero => rfl
  | succ n ih =>
    rw [applySteps, Function.iterate_succ_apply]
    split_ifs with settled
    · rw [settled, Function.iterate_fixed settled]
    · exact ih (step places)

theorem follows_character (set : CharSet) :
    Follows text (fun places => (places &&& .before text set) <<< 1) (.character set) := by
  intro places _ j
  simp only [Nat.testBit_shiftLeft, Nat.testBit_and, Bool.and_eq_true, decide_eq_true_iff,
    Places.testBit_before, Meaning.leads_character]
  constructor
  · rintro ⟨positive, held, contained⟩
    exact ⟨j - 1, held, (Nat.sub_add_cancel positive).symm, contained⟩
  · rintro ⟨i, held, rfl, contained⟩
    exact ⟨Nat.succ_pos i, held, contained⟩

theorem follows_condition (look : Look) :
    Follows text (fun places => places &&& .atLook text look) (.condition look) := by
  intro places _ j
  simp only [Nat.testBit_and, Bool.and_eq_true, Places.testBit_atLook, Meaning.leads_condition]
  constructor
  · rintro ⟨held, holds⟩
    exact ⟨j, held, rfl, holds⟩
  · rintro ⟨i, held, rfl, holds⟩
    exact ⟨held, holds⟩

/-- The least number of rounds, and then as many further rounds as are let, but none beyond the
number of places. -/
theorem Follows.repeated (follows : Follows text first left) (least : Nat) (most : Option Nat)
    (further : Nat)
    (bounded : further = match most with
      | none => text.length + 1
      | some most => min (most - least) (text.length + 1)) :
    Follows text
      (applySteps (fun reached => reached ||| first reached) further ∘
        applySteps first (min least (text.length + 1)))
      (left.repeated least most) := by
  -- a further round may also be left out, since what is reached is kept
  have inflate : Follows text (fun reached => reached ||| first reached) (left.or .nothing) :=
    (follows_nothing.or follows).congr fun i j => by
      rw [Meaning.leads_or, Meaning.leads_or, or_comm]
  rw [applySteps_eq_iterate, applySteps_eq_iterate]
  refine ((follows.rounds _).andThen (inflate.rounds further)).congr fun i j => ?_
  simp only [Meaning.leads_andThen, Meaning.leads_rounds_min, Meaning.leads_rounds_or_nothing,
    Meaning.leads_repeated, Meaning.leads_rounds_add, Meaning.exists_leads_rounds_iff bounded]
  constructor
  · rintro ⟨k, some, count, few, others⟩
    exact ⟨count, few, k, some, others⟩
  · rintro ⟨count, few, k, some, others⟩
    exact ⟨k, some, count, few, others⟩

/-- The search follows an expression from place to place. -/
theorem Expr.follows_ends (expr : Expr) (text : List Char) :
    Follows text (expr.ends text) expr.meaning := by
  induction expr with
  | empty => exact follows_nothing
  | set s => exact follows_character s
  | look l => exact follows_condition l
  | sequence left right hleft hright => exact hleft.andThen hright
  | either left right hleft hright => exact hleft.or hright
  | repetition least most greedy part hpart => exact hpart.repeated least most _ rfl
  | group captures part hpart =>
    cases captures with
    | true => exact hpart.congr fun i j => Meaning.leads_captured.symm
    | false => exact hpart

/-- An expression is found in a text exactly if it matches a piece of it. -/
theorem Expr.isFoundIn_eq_true_iff (expr : Expr) (text : List Char) :
    expr.isFoundIn text = true ↔
      ∃ before middle behind captures, text = before ++ (middle ++ behind) ∧
        expr.meaning before middle behind captures := by
  have within : Within text (.all text) := fun i held => Places.testBit_all.mp held
  have reached : expr.ends text (.all text) ≠ 0 ↔
      ∃ j, (expr.ends text (.all text)).testBit j = true := by
    refine ⟨Nat.exists_testBit_of_ne_zero, ?_⟩
    rintro ⟨j, held⟩ none_left
    rw [none_left, Nat.zero_testBit] at held
    cases held
  rw [isFoundIn, decide_eq_true_iff, reached]
  simp only [expr.follows_ends text _ within, Places.testBit_all]
  constructor
  · rintro ⟨j, i, -, before, middle, behind, captures, split, -, -, matched⟩
    exact ⟨before, middle, behind, captures, split, matched⟩
  · rintro ⟨before, middle, behind, captures, rfl, matched⟩
    exact ⟨_, before.length, by simp, before, middle, behind, captures, rfl, rfl, rfl, matched⟩

end Search

end InputMask.Pattern
