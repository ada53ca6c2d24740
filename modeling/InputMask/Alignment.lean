import InputMask.Output
import InputMask.Template

/-!
# Aligning raw text with a template

Tokens and raw characters are walked side by side. A mandatory placeholder takes the
first character its class accepts and drops those before it. A group is written whole
or not at all: every item needs a raw character to be left, its placeholders must
accept the characters in order, and each of them may only be taken while more
characters are left than mandatory placeholders follow the group. The walk ends with
the tokens or with the raw text, whichever ends first.

The result is a list of steps, from which both output texts are read off.

## Main definitions

* `Cell`, `Step`: what is written
* `fill?`: the cells of one group
* `align`: the steps of a template
* `Template.apply`: the output of a template on raw text
-/

namespace InputMask

/-- One written character: a literal of the template, or a character taken from the raw text. -/
inductive Cell where
  | literal (c : Char)
  | taken (c : Char)
  deriving DecidableEq, Repr

namespace Cell

/-- The character as shown. -/
def char : Cell → Char
  | literal c => c
  | taken c => c

/-- The character if it came from the raw text. -/
def taken? : Cell → Option Char
  | literal _ => none
  | taken c => some c

end Cell

/-- What one token has written. A group writes all its cells in one step, which may have none. -/
inductive Step where
  | literal (c : Char)
  | taken (c : Char)
  | group (cells : List Cell)
  deriving DecidableEq, Repr

/-- The characters a step has written, in order. -/
def Step.cells : Step → List Cell
  | literal c => [.literal c]
  | taken c => [.taken c]
  | group cells => cells

/-- Writes the items of a group against the start of the raw text, when every item finds a
character left and each placeholder one that it accepts and that `ahead` later mandatory
placeholders can spare. Gives the cells and the raw text behind them. -/
def fill? (ahead : Nat) : List Slot → List Char → Option (List Cell × List Char)
  | [], raw => some ([], raw)
  | _ :: _, [] => none
  | .literal c :: items, x :: raw =>
    (fill? ahead items (x :: raw)).map fun (cells, rest) => (.literal c :: cells, rest)
  | .placeholder k :: items, x :: raw =>
    if k.accepts x && decide (ahead < (x :: raw).length) then
      (fill? ahead items raw).map fun (cells, rest) => (.taken x :: cells, rest)
    else
      none

/-- The steps that tokens write while raw characters are left. -/
def align : List Token → List Char → List Step
  | [], _ => []
  | _ :: _, [] => []
  | .literal c :: tokens, x :: raw => .literal c :: align tokens (x :: raw)
  | .placeholder k :: tokens, x :: raw =>
    match (x :: raw).dropWhile (!k.accepts ·) with
    | [] => []
    | y :: rest => .taken y :: align tokens rest
  | .group items :: tokens, x :: raw =>
    match fill? (Template.mandatory tokens) items (x :: raw) with
    | some (cells, rest) => .group cells :: align tokens rest
    | none => align tokens (x :: raw)

/-- The steps that are shown. A literal at the head of the template is withheld until another
step is made. -/
def shown (tokens : List Token) (steps : List Step) : List Step :=
  match tokens, steps with
  | .literal _ :: _, [_] => []
  | _, steps => steps

/-- The output that steps amount to. -/
def Output.ofSteps (steps : List Step) : Output :=
  let cells := steps.flatMap Step.cells
  ⟨cells.map Cell.char, cells.filterMap Cell.taken?⟩

/-- The output of a list of tokens on raw text. -/
def applyTokens (tokens : List Token) (raw : List Char) : Output :=
  .ofSteps (shown tokens (align tokens raw))

/-- The output of a template on raw text. -/
def Template.apply (template : Template) (raw : List Char) : Output :=
  applyTokens template.tokens raw

@[simp]
theorem align_nil_right (tokens : List Token) : align tokens [] = [] := by
  cases tokens <;> rfl

end InputMask
