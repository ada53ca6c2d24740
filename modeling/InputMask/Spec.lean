import InputMask.Numeric.Config

/-!
# Mask specifications

A specification is a single template, the settings of a numeric mask, or a list of
alternatives, each of them a template that is ranked by its length or one that is
guarded by a pattern.

## Main definitions

* `Matcher`: a compiled pattern, as the predicate it stands for
* `Alternative`: one candidate template
* `Spec`: a whole specification
-/

namespace InputMask

/-- A compiled pattern: the text it was compiled from and the texts it is found in. -/
structure Matcher where
  body : List Char
  found : List Char → Bool

/-- A candidate template. -/
inductive Alternative where
  /-- A template ranked by the length it holds. -/
  | literal (template : List Char)
  /-- A template chosen whenever its pattern is found in the value. -/
  | guarded (template : List Char) (matcher : Matcher)

namespace Alternative

/-- The template of an alternative. -/
def template : Alternative → List Char
  | literal t => t
  | guarded t _ => t

/-- The pattern of an alternative, if it has one. -/
def matcher? : Alternative → Option Matcher
  | literal _ => none
  | guarded _ m => some m

/-- The template of an alternative without a pattern. -/
def literal? : Alternative → Option (List Char)
  | literal t => some t
  | guarded _ _ => none

/-- Whether the alternative has a pattern that is found in the text. -/
def isFoundIn (alternative : Alternative) (raw : List Char) : Bool :=
  match alternative with
  | literal _ => false
  | guarded _ m => m.found raw

@[simp]
theorem isFoundIn_literal (t raw : List Char) : (literal t).isFoundIn raw = false := rfl

@[simp]
theorem isFoundIn_guarded (t raw : List Char) (m : Matcher) :
    (guarded t m).isFoundIn raw = m.found raw := rfl

end Alternative

/-- A mask specification. -/
inductive Spec where
  /-- One template; a pattern it carries is not asked. -/
  | single (alternative : Alternative)
  | numeric (config : NumericConfig)
  | alternatives (list : List Alternative)

/-- Whether the specification formats numbers. -/
def Spec.isNumeric : Spec → Bool
  | numeric _ => true
  | _ => false

end InputMask
