import InputMask.SpecText.Load

/-!
# Failures of a run

A failure is reported by what was being done and the causes that it has, one per line. The
further lines of a text are indented like its first one.

## Main definitions

* `FileFault`: why a file cannot be read
* `Failure`, `Failure.context`, `Failure.causes`
* `Failure.report`
-/

namespace InputMask.CommandLine

/-- Why a file cannot be read. -/
inductive FileFault where
  | notFound
  | denied
  | notDirectory
  | isDirectory
  /-- Another reason, in the words of the system. -/
  | other (reason : List Char)
  deriving DecidableEq, Repr

/-- The text that describes the fault. -/
def FileFault.message : FileFault → List Char
  | notFound => "No such file or directory (os error 2)".toList
  | denied => "Permission denied (os error 13)".toList
  | notDirectory => "Not a directory (os error 20)".toList
  | isDirectory => "Is a directory (os error 21)".toList
  | other reason => reason

/-- The words for bytes that are no text. -/
def notText : List Char :=
  "stream did not contain valid UTF-8".toList

/-- Why a run fails. -/
inductive Failure where
  /-- Nothing says how to mask. -/
  | noMask
  /-- A template on the command line has an invalid pattern. -/
  | invalidOption (invalid : Pattern.InvalidPattern)
  | unreadableFile (path : List Char) (fault : FileFault)
  /-- A file holds bytes that are no text. -/
  | undecodableFile (path : List Char)
  | invalidFile (path : List Char) (error : LoadError)
  /-- A line of the input is no text. -/
  | undecodableInput
  deriving DecidableEq, Repr

namespace Failure

/-- What was being done. -/
def context : Failure → List Char
  | noMask => "No mask specified. Use --mask, --regex-mask, --spec, or 'numeric'.".toList
  | invalidOption invalid => "Invalid --regex-mask for '".toList ++ invalid.template ++ ['\'']
  | unreadableFile path _ => "Failed to read spec file ".toList ++ path
  | undecodableFile path => "Failed to read spec file ".toList ++ path
  | invalidFile path _ => "Invalid spec file ".toList ++ path
  | undecodableInput => "Failed to read from stdin".toList

/-- The causes, each of them the cause of the one before. -/
def causes : Failure → List (List Char)
  | noMask => []
  | invalidOption invalid => [invalid.message]
  | unreadableFile _ fault => [fault.message]
  | undecodableFile _ => [notText]
  | invalidFile _ (.invalidSpec reason) => [(LoadError.invalidSpec reason).message, reason]
  | invalidFile _ (.invalidPattern invalid) => [invalid.message]
  | undecodableInput => [notText]

/-- A text that starts behind a mark, its further lines indented. -/
def indented (mark indent text : List Char) : List Char :=
  mark ++ text.flatMap fun c => if c = '\n' then '\n' :: indent else [c]

/-- A number in a field of five characters. -/
def numbered (n : Nat) : List Char :=
  let digits := (toString n).toList
  List.replicate (5 - digits.length) ' ' ++ digits ++ [':', ' ']

/-- The lines for the causes: a single one is indented, several are numbered. -/
def causeLines : List (List Char) → List (List Char)
  | [] => []
  | [cause] => [indented (List.replicate 4 ' ') (List.replicate 4 ' ') cause]
  | causes => causes.mapIdx fun n cause => indented (numbered n) (List.replicate 7 ' ') cause

/-- The report on the failure. -/
def report (failure : Failure) : List Char :=
  let lines := causeLines failure.causes
  let header := if lines.isEmpty then [] else "\n\nCaused by:".toList
  "Error: ".toList ++ failure.context ++ header ++ lines.flatMap ('\n' :: ·) ++ ['\n']

end Failure

end InputMask.CommandLine
