import InputMask.Pattern.Resolve
import InputMask.Pattern.Size
import InputMask.Spec

/-!
# Compiling patterns

A pattern is compiled under a few options. Compilation fails when the pattern is at fault
or too large; the reason is a text.

## Main definitions

* `Options`: the switches that are on from the start
* `Failure`, `Failure.reason`
* `compile`: the matcher of a pattern
-/

namespace InputMask.Pattern

/-- The switches that can be on from the start of a pattern. -/
structure Options where
  ignoreCase : Bool := false
  multiLine : Bool := false
  dotAll : Bool := false
  deriving DecidableEq, Repr

/-- The switches in force at the start of a pattern. -/
def Options.switches (options : Options) : Switches :=
  { ignoreCase := options.ignoreCase, multiLine := options.multiLine, dotAll := options.dotAll }

/-- Why a pattern could not be compiled. -/
inductive Failure where
  | invalid (pattern : List Char) (fault : Fault)
  | tooLarge
  deriving DecidableEq, Repr

/-- The text that gives the reason of a failure. -/
def Failure.reason : Failure → List Char
  | invalid pattern fault => fault.report pattern
  | tooLarge =>
    ("Compiled regex exceeds size limit of " ++ toString sizeLimit ++ " bytes.").toList

/-- The expression of a pattern under some options. -/
def expression (options : Options) (pattern : List Char) : Except Failure Expr :=
  match Tree.ofPattern pattern with
  | .error fault => .error (.invalid pattern fault)
  | .ok tree =>
    match tree.expr options.switches with
    | .error fault => .error (.invalid pattern fault)
    | .ok (expr, _) => if expr.isTooLarge then .error .tooLarge else .ok expr

/-- The matcher of a pattern under some options. -/
def compile (options : Options) (pattern : List Char) : Except Failure Matcher :=
  (expression options pattern).map fun expr => ⟨pattern, expr.isFoundIn⟩

end InputMask.Pattern
