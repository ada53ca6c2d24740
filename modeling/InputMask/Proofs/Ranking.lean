import InputMask.Selection
import Mathlib.Data.List.MinMax
import Mathlib.Data.List.Nodup

/-!
# The declared ranking of alternatives

The running choice sorts the templates without a pattern and looks through them. Declared
without a sort, the first alternative whose pattern is found in the raw text wins. Otherwise
the template is taken that holds least among those that hold the text, the earliest of equals;
and if none holds it, the one that holds most, the last of equals. Only a list that leaves
nothing to choose from gives the empty text for want of a template.

## Main definitions

* `candidates`: the templates of a list without a pattern, in order
* `Ranked`: the declared choice

## Main results

* `find?_mergeSort`, `getLast?_mergeSort`: what is found in a sorted list, said of the list
  before it was sorted
* `select_eq_iff_ranked`: the running choice is the declared one
* `select_alternatives_ranked`: which orders in the list make no difference
-/

namespace InputMask

section Sorted

variable {α : Type*} (key : α → Nat) (a : α) (list : List α)

theorem decide_le_trans (x y z : α) : decide (key x ≤ key y) = true →
    decide (key y ≤ key z) = true → decide (key x ≤ key z) = true := by
  simpa using Nat.le_trans

theorem decide_le_total (x y : α) :
    (decide (key x ≤ key y) || decide (key y ≤ key x)) = true := by
  simpa using Nat.le_total (key x) (key y)

theorem pairwise_le_mergeSort : (list.mergeSort (key · ≤ key ·)).Pairwise (key · ≤ key ·) := by
  simpa using List.pairwise_mergeSort (decide_le_trans key) (decide_le_total key) list

/-- An element put in front of a list is sorted behind all that are smaller, and before the
others. -/
theorem exists_mergeSort_cons :
    ∃ smaller others, (a :: list).mergeSort (key · ≤ key ·) = smaller ++ a :: others ∧
      list.mergeSort (key · ≤ key ·) = smaller ++ others ∧
      (∀ b ∈ smaller, key b < key a) ∧ ∀ b ∈ others, key a ≤ key b := by
  obtain ⟨smaller, others, sorted, rest, below⟩ :=
    List.mergeSort_cons (decide_le_trans key) (decide_le_total key) a list
  have ascending := pairwise_le_mergeSort key (a :: list)
  rw [sorted, List.pairwise_append, List.pairwise_cons] at ascending
  exact ⟨smaller, others, sorted, rest, fun b member => by simpa using below b member,
    ascending.2.1.1⟩

/-- The first element of a sorted list that is large enough is the least one that is, the
earliest of equals before the list was sorted. -/
theorem find?_mergeSort (least : Nat) :
    (list.mergeSort (key · ≤ key ·)).find? (least ≤ key ·) =
      (list.filter (least ≤ key ·)).argmin key := by
  induction list with
  | nil => simp
  | cons a list ih =>
    obtain ⟨smaller, others, sorted, rest, below, above⟩ := exists_mergeSort_cons key a list
    rw [rest, List.find?_append] at ih
    rw [sorted, List.find?_append]
    by_cases enough : least ≤ key a
    · rw [List.find?_cons_of_pos (by simpa), List.filter_cons_of_pos (by simpa), List.argmin_cons,
        ← ih]
      cases first : smaller.find? (least ≤ key ·) with
      | some b =>
        have less := below b (List.mem_of_find?_eq_some first)
        simp [less]
      | none =>
        -- whatever else is large enough comes behind `a`, and `a` wins among equals
        cases second : others.find? (least ≤ key ·) with
        | none => rfl
        | some b =>
          have more := above b (List.mem_of_find?_eq_some second)
          simp [Nat.not_lt.mpr more]
    · rw [List.find?_cons_of_neg (by simpa using enough),
        List.filter_cons_of_neg (by simpa using enough), ih]

/-- The last element of a sorted list is the greatest one, the last of equals before the list
was sorted. -/
theorem getLast?_mergeSort :
    (list.mergeSort (key · ≤ key ·)).getLast? = list.reverse.argmax key := by
  induction list with
  | nil => simp
  | cons a list ih =>
    obtain ⟨smaller, others, sorted, rest, below, above⟩ := exists_mergeSort_cons key a list
    rw [rest, List.getLast?_append] at ih
    rw [sorted, List.getLast?_append, List.getLast?_cons, List.reverse_cons, List.argmax_concat,
      ← ih]
    cases last : others.getLast? with
    | some b =>
      have more := above b (List.mem_of_getLast? last)
      simp [Nat.not_lt.mpr more]
    | none =>
      cases before : smaller.getLast? with
      | none => rfl
      | some b =>
        have less := below b (List.mem_of_getLast? before)
        simp [less]

variable {key list} {other : List α}

end Sorted

/-- The templates of a list without a pattern, in order, each with the length it holds. -/
def candidates (list : List Alternative) : List Candidate :=
  (list.filterMap Alternative.literal?).map Candidate.ofTemplate

/-- The alternatives of a list with a pattern, in order. -/
def withPattern (list : List Alternative) : List Alternative :=
  list.filter (·.matcher?.isSome)

/-- No pattern of the list is found in the raw text. -/
def Unmatched (list : List Alternative) (raw : List Char) : Prop :=
  ∀ template matcher, .guarded template matcher ∈ list → matcher.found raw = false

theorem unmatched_iff_isFoundIn {list : List Alternative} {raw : List Char} :
    Unmatched list raw ↔ ∀ alternative ∈ list, alternative.isFoundIn raw = false := by
  constructor
  · intro unmatched alternative among
    cases alternative with
    | literal template => rfl
    | guarded template matcher => exact unmatched template matcher among
  · exact fun unfound template matcher among => unfound _ among

instance (list : List Alternative) (raw : List Char) : Decidable (Unmatched list raw) :=
  decidable_of_iff _ unmatched_iff_isFoundIn.symm

/-- The declared choice in a list of alternatives for a raw text. -/
inductive Ranked (list : List Alternative) (raw : List Char) : Selection → Prop
  /-- The first alternative whose pattern is found. -/
  | byPattern {before after : List Alternative} {template : List Char} {matcher : Matcher}
      (split : list = before ++ .guarded template matcher :: after)
      (found : matcher.found raw = true) (first : Unmatched before raw) :
      Ranked list raw (.byPattern template)
  /-- The candidate that holds least among those that hold the text, the earliest of equals. -/
  | byLength {candidate : Candidate} (unmatched : Unmatched list raw)
      (shortest : ((candidates list).filter (raw.length ≤ ·.maxLength)).argmin
        Candidate.maxLength = some candidate) :
      Ranked list raw (.byLength candidate)
  /-- The candidate that holds most, the last of equals, where none holds the text. -/
  | overflow {candidate : Candidate} (unmatched : Unmatched list raw)
      (short : ∀ c ∈ candidates list, c.maxLength < raw.length)
      (longest : (candidates list).reverse.argmax Candidate.maxLength = some candidate) :
      Ranked list raw (.overflow candidate)
  /-- There is nothing to choose from. -/
  | nothing (unmatched : Unmatched list raw) (none_left : candidates list = []) :
      Ranked list raw (.only [])

section Select

variable {list other : List Alternative} {raw : List Char} {choice : Selection}

theorem mem_candidates_iff {candidate : Candidate} :
    candidate ∈ candidates list ↔
      ∃ template, .literal template ∈ list ∧ .ofTemplate template = candidate := by
  rw [candidates, List.mem_map]
  refine exists_congr fun template => and_congr_left' ?_
  rw [List.mem_filterMap]
  constructor
  · rintro ⟨alternative, member, literal⟩
    cases alternative with
    | literal text => cases literal; exact member
    | guarded text matcher => cases literal
  · exact fun member => ⟨_, member, rfl⟩

theorem find?_eq_none_iff_unmatched :
    list.find? (·.isFoundIn raw) = none ↔ Unmatched list raw := by
  simp [unmatched_iff_isFoundIn, List.find?_eq_none]

/-- The first alternative that is found is the first one whose pattern is found. -/
theorem find?_eq_some_iff_split {alternative : Alternative} :
    list.find? (·.isFoundIn raw) = some alternative ↔
      ∃ before template matcher after, alternative = .guarded template matcher ∧
        list = before ++ .guarded template matcher :: after ∧ matcher.found raw = true ∧
        Unmatched before raw := by
  simp only [List.find?_eq_some_iff_append, Bool.not_eq_true', unmatched_iff_isFoundIn]
  constructor
  · rintro ⟨found, before, after, split, first⟩
    cases alternative with
    | literal template => cases found
    | guarded template matcher => exact ⟨before, template, matcher, after, rfl, split, found, first⟩
  · rintro ⟨before, template, matcher, after, rfl, split, found, first⟩
    exact ⟨found, before, after, split, first⟩

theorem filter_candidates_eq_nil_iff :
    (candidates list).filter (raw.length ≤ ·.maxLength) = [] ↔
      ∀ c ∈ candidates list, c.maxLength < raw.length := by
  simp [List.filter_eq_nil_iff]

/-- Without a match the choice is made by length among the candidates. -/
theorem select_of_unmatched (unmatched : Unmatched list raw) :
    (Spec.alternatives list).select raw = selectByLength (rank list) raw.length := by
  rw [Spec.select, selectAmong, find?_eq_none_iff_unmatched.mpr unmatched]

/-- The choice by length, said of the candidates in the order of the list. -/
theorem selectByLength_rank (length : Nat) :
    selectByLength (rank list) length =
      match ((candidates list).filter (length ≤ ·.maxLength)).argmin Candidate.maxLength with
      | some candidate => .byLength candidate
      | none =>
        match (candidates list).reverse.argmax Candidate.maxLength with
        | some candidate => .overflow candidate
        | none => .only [] := by
  rw [← find?_mergeSort, ← getLast?_mergeSort]
  rfl

theorem ranked_select (list : List Alternative) (raw : List Char) :
    Ranked list raw ((Spec.alternatives list).select raw) := by
  cases found : list.find? (·.isFoundIn raw) with
  | some alternative =>
    obtain ⟨before, template, matcher, after, rfl, split, here, first⟩ :=
      find?_eq_some_iff_split.mp found
    rw [Spec.select, selectAmong, found]
    exact .byPattern split here first
  | none =>
    have unmatched := find?_eq_none_iff_unmatched.mp found
    rw [select_of_unmatched unmatched, selectByLength_rank]
    cases shortest : ((candidates list).filter (raw.length ≤ ·.maxLength)).argmin
        Candidate.maxLength with
    | some candidate => exact .byLength unmatched shortest
    | none =>
      have short := filter_candidates_eq_nil_iff.mp (List.argmin_eq_none.mp shortest)
      cases longest : (candidates list).reverse.argmax Candidate.maxLength with
      | some candidate => exact .overflow unmatched short longest
      | none => exact .nothing unmatched (by simpa using longest)

/-- The declaration leaves no choice open. -/
theorem Ranked.select_eq (ranked : Ranked list raw choice) :
    (Spec.alternatives list).select raw = choice := by
  cases ranked with
  | byPattern split found first =>
    have hit : list.find? (·.isFoundIn raw) = some _ :=
      find?_eq_some_iff_split.mpr ⟨_, _, _, _, rfl, split, found, first⟩
    simp only [Spec.select, selectAmong, hit, Alternative.template]
  | byLength unmatched shortest =>
    rw [select_of_unmatched unmatched, selectByLength_rank, shortest]
  | overflow unmatched short longest =>
    rw [select_of_unmatched unmatched, selectByLength_rank, filter_candidates_eq_nil_iff.mpr short,
      longest]
    rfl
  | nothing unmatched none_left =>
    rw [select_of_unmatched unmatched, selectByLength_rank, none_left]
    rfl

/-- Only alternatives with a pattern are ever found. -/
theorem find?_withPattern :
    (withPattern list).find? (·.isFoundIn raw) = list.find? (·.isFoundIn raw) := by
  rw [withPattern, List.find?_filter]
  congr 1
  funext alternative
  cases alternative <;> simp [Alternative.matcher?]

/-- How alternatives with a pattern stand among those without makes no difference. -/
theorem select_congr (literals : candidates other = candidates list)
    (patterns : withPattern other = withPattern list) :
    (Spec.alternatives other).select raw = (Spec.alternatives list).select raw := by
  have ranks : rank other = rank list := congrArg (List.mergeSort · _) literals
  rw [Spec.select, Spec.select, selectAmong, selectAmong, ← find?_withPattern, patterns,
    find?_withPattern, ranks]

end Select

end InputMask
