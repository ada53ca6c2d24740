import InputMask.CommandLine.Count
import InputMask.CommandLine.Opt

/-!
# Refused command lines

Why a command line is not understood, and the line that says so.
-/

namespace InputMask.CommandLine

/-- Why a command line is refused. -/
inductive Refusal where
  /-- There is no option of the name. -/
  | unexpectedArgument (argument : List Char)
  /-- A value was attached to an option that takes none. -/
  | unexpectedValue (opt : Opt) (value : List Char)
  /-- An option has no value, or an empty one where that counts as none. -/
  | missingValue (opt : Opt)
  /-- An option has fewer values than it takes. -/
  | wrongCount (opt : Opt) (given : Nat)
  | repeated (opt : Opt)
  /-- An option stands beside others that it excludes. -/
  | conflict (opt : Opt) (others : List Opt)
  | invalidValue (opt : Opt) (value : List Char) (fault : CountFault)
  | unknownSubcommand (name : List Char)
  deriving DecidableEq, Repr

namespace Refusal

/-- A text in single quotes. -/
def quoted (text : List Char) : List Char :=
  '\'' :: text ++ ['\'']

/-- A list of options, one below the other. -/
def listed (options : List Opt) : List Char :=
  ':' :: options.flatMap fun opt => "\n  ".toList ++ opt.shown

/-- The text that describes the refusal. -/
def message : Refusal → List Char
  | unexpectedArgument argument =>
    "unexpected argument ".toList ++ quoted argument ++ " found".toList
  | unexpectedValue opt value =>
    "unexpected value ".toList ++ quoted value ++ " for ".toList ++
      quoted ("--" ++ opt.long).toList ++ " found; no more were expected".toList
  | missingValue opt =>
    "a value is required for ".toList ++ quoted opt.shown ++ " but none was supplied".toList
  | wrongCount opt given =>
    (toString opt.arity ++ " values required for ").toList ++ quoted opt.shown ++
      (" but " ++ toString given ++ (if given = 1 then " was" else " were") ++
        " provided").toList
  | repeated opt =>
    "the argument ".toList ++ quoted opt.shown ++ " cannot be used multiple times".toList
  | conflict opt others =>
    "the argument ".toList ++ quoted opt.shown ++ " cannot be used with".toList ++
      match others with
      | [other] => ' ' :: quoted other.shown
      | _ => listed others
  | invalidValue opt value fault =>
    "invalid value ".toList ++ quoted value ++ " for ".toList ++ quoted opt.shown ++
      (": " ++ fault.message).toList
  | unknownSubcommand name =>
    "unrecognized subcommand ".toList ++ quoted name

/-- The report on the refusal. -/
def report (refusal : Refusal) : List Char :=
  "error: ".toList ++ refusal.message

end Refusal

end InputMask.CommandLine
