import InputMask.Event
import InputMask.Spec
import InputMask.Template

/-!
# Choosing a template

In a list of alternatives the first one whose pattern is found in the raw text wins.
Otherwise the templates without a pattern are ranked by the length they hold: the
shortest that holds the text is taken, and the longest when none does.

## Main definitions

* `Candidate`: a template without a pattern and the length it holds
* `rank`: the candidates of a list, shortest first
* `Selection`, `Spec.select`: the chosen template and the reason for it
-/

namespace InputMask

/-- A template without a pattern, with the length it holds. -/
structure Candidate where
  template : List Char
  maxLength : Nat
  deriving DecidableEq, Repr

/-- The candidate that a template is. -/
def Candidate.ofTemplate (template : List Char) : Candidate :=
  ⟨template, (Template.ofText template).maxLength⟩

/-- The candidates of a list of alternatives, shortest first; those of one length keep their
order. -/
def rank (alternatives : List Alternative) : List Candidate :=
  ((alternatives.filterMap Alternative.literal?).map Candidate.ofTemplate).mergeSort
    (·.maxLength ≤ ·.maxLength)

/-- Why a template was chosen. -/
inductive Selection where
  /-- The specification leaves no choice. -/
  | only (template : List Char)
  | byPattern (template : List Char)
  | byLength (candidate : Candidate)
  | overflow (candidate : Candidate)
  deriving DecidableEq, Repr

namespace Selection

/-- The chosen template. -/
def template : Selection → List Char
  | only t => t
  | byPattern t => t
  | byLength c => c.template
  | overflow c => c.template

/-- The event that reports the choice, for an input of the given length. -/
def event? (inputLength : Nat) : Selection → Option Event
  | only _ => none
  | byPattern t => some (.chosenByPattern t)
  | byLength c => some (.chosenByLength c.template c.maxLength inputLength)
  | overflow c => some (.overflowing c.template c.maxLength inputLength)

end Selection

/-- The choice among ranked candidates for an input of the given length. -/
def selectByLength (ranked : List Candidate) (inputLength : Nat) : Selection :=
  match ranked.find? (inputLength ≤ ·.maxLength) with
  | some candidate => .byLength candidate
  | none =>
    match ranked.getLast? with
    | some candidate => .overflow candidate
    | none => .only []

/-- The choice in a list of alternatives for a raw text. -/
def selectAmong (alternatives : List Alternative) (raw : List Char) : Selection :=
  match alternatives.find? (·.isFoundIn raw) with
  | some alternative => .byPattern alternative.template
  | none => selectByLength (rank alternatives) raw.length

/-- The choice that a specification makes for a raw text; a numeric one has no template. -/
def Spec.select (spec : Spec) (raw : List Char) : Selection :=
  match spec with
  | single alternative => .only alternative.template
  | numeric _ => .only []
  | alternatives list => selectAmong list raw

end InputMask
