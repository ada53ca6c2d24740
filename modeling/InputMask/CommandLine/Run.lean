import InputMask.CommandLine.Failure
import InputMask.CommandLine.Request
import InputMask.Masking

/-!
# Running a command line

A run is a function of the arguments, of the bytes of the input and of the file that the
specification is read from. Every result is a line of its own. A line of the input that is
no text ends the run; the results of the lines before it have been printed.

## Main definitions

* `cutLines`, `decode?`: the lines of the input and their texts
* `pairs`, `specOfTemplates`: the specification of templates
* `Source.spec`: the specification of a source
* `Outcome`, `Job.run`, `run`
-/

namespace InputMask.CommandLine

/-- The text that bytes encode in UTF-8. -/
def decode? (bytes : List UInt8) : Option (List Char) :=
  (String.fromUTF8? bytes.toByteArray).map String.toList

/-- A line without the carriage return at its end; its bytes are given last one first. -/
def withoutReturn : List UInt8 → List UInt8
  | 13 :: line => line
  | line => line

/-- Cuts bytes into lines, behind the lines that are `done` and what has been read of the next
`line`, both given last one first. A line ends at a line feed, which is dropped together with a
carriage return in front of it. There is no line behind the last line feed. -/
def cutLines (done : List (List UInt8)) (line : List UInt8) : List UInt8 → List (List UInt8)
  | [] => (if line.isEmpty then done else line.reverse :: done).reverse
  | byte :: rest =>
    if byte = 10 then cutLines ((withoutReturn line).reverse :: done) [] rest
    else cutLines done (byte :: line) rest

/-- The texts of the lines in front of the first that is no text, and whether there is one. -/
def readLines (input : List UInt8) : List (List Char) × Bool :=
  let texts := (cutLines [] [] input).map decode?
  ((texts.takeWhile Option.isSome).filterMap id, texts.any Option.isNone)

/-- The elements of a list two by two. One that is left at the end belongs to no pair. -/
def pairs {α : Type} : List α → List (α × α)
  | a :: b :: rest => (a, b) :: pairs rest
  | _ => []

/-- The specification of templates, those with patterns first. Each of these is followed by the
source of its pattern. A single template leaves no choice if there are no patterns. -/
def specOfTemplates (compiler : Pattern.Compiler) (guarded literals : List (List Char)) :
    Except Failure Spec := do
  let first ← ((pairs guarded).mapM fun (template, source) =>
    Pattern.guarded compiler template source).mapError Failure.invalidOption
  match first ++ literals.map .literal with
  | [] => .error .noMask
  | [alternative] =>
    return if guarded.isEmpty then .single alternative else .alternatives [alternative]
  | list => return .alternatives list

/-- The specification that a file holds. -/
def specOfFile (compiler : Pattern.Compiler) (path : List Char)
    (content : Except FileFault (List UInt8)) : Except Failure Spec := do
  let bytes ← content.mapError (Failure.unreadableFile path)
  match decode? bytes with
  | none => .error (.undecodableFile path)
  | some text => (·.1) <$> (Spec.load compiler text).mapError (Failure.invalidFile path)

/-- Where the files are found that a command line names. -/
abbrev Files := List Char → Except FileFault (List UInt8)

/-- The specification of a source. -/
def Source.spec (compiler : Pattern.Compiler) (files : Files) : Source → Except Failure Spec
  | numeric config => .ok (.numeric config)
  | file path => specOfFile compiler path (files path)
  | templates guarded literals => specOfTemplates compiler guarded literals

/-- The end of a run. -/
structure Outcome where
  exitCode : Nat
  stdout : List Char
  stderr : List Char
  deriving DecidableEq, Repr

namespace Outcome

/-- A run that succeeds. -/
def success (stdout : List Char) : Outcome :=
  ⟨0, stdout, []⟩

/-- A run that fails after something has been printed. -/
def failure (stdout : List Char) (failure : Failure) : Outcome :=
  ⟨1, stdout, failure.report⟩

/-- A command line that is refused. -/
def refusal (refusal : Refusal) : Outcome :=
  ⟨2, [], refusal.report ++ ['\n']⟩

end Outcome

/-- The lines printed for some values. -/
def printed (spec : Spec) (format : Format) (values : List (List Char)) : List Char :=
  values.flatMap fun value => format.line (spec.mask value)

/-- A request whose specification has been found. -/
structure Job where
  spec : Spec
  format : Format
  values : List (List Char)

namespace Job

/-- Whether the lines of the input are masked. -/
def readsInput (job : Job) : Bool :=
  job.values.isEmpty

/-- Masks the lines of the input. -/
def runOnInput (job : Job) (input : List UInt8) : Outcome :=
  let (values, isCut) := readLines input
  if isCut then .failure (printed job.spec job.format values) .undecodableInput
  else .success (printed job.spec job.format values)

/-- Masks the values, or the lines of the input if there are none. -/
def run (job : Job) (input : List UInt8) : Outcome :=
  if job.readsInput then job.runOnInput input
  else .success (printed job.spec job.format job.values)

end Job

/-- The job of a request. -/
def Request.job (files : Files) (request : Request) : Except Failure Job := do
  return ⟨← request.source.spec Pattern.compiler files, request.format, request.values⟩

/-- The version as it is printed. -/
def versionLine : String :=
  "masker 0.2.1\n"

/-- The help as it is printed. -/
def helpText : String :=
  "Format phone numbers, documents, dates, plates and amounts with mask templates\n\n" ++
    "Usage: masker [OPTIONS] [VALUE]...\n" ++
    "       masker [OPTIONS] numeric [SETTINGS] [VALUE]...\n\n" ++
    "Values are read from standard input when none are given.\n\n" ++
    String.join (Level.top.options.map fun opt => "  " ++ String.ofList opt.shown ++ "\n") ++
    "\nSettings:\n" ++
    String.join (NumericField.inOrder.map fun field =>
      "  " ++ String.ofList (Opt.setting field).shown ++ "\n")

/-- The outcome of a command line that was not read to its end. -/
def Stop.outcome : Stop → Outcome
  | refused refusal => .refusal refusal
  | help => .success helpText.toList
  | version => .success versionLine.toList

/-- The request of a command line, or the outcome without one. -/
def requestOf (arguments : List (List Char)) : Except Outcome Request :=
  ((Arguments.read arguments).map Request.ofArguments).mapError Stop.outcome

/-- The job of a request, or the outcome without one. -/
def jobOf (files : Files) (request : Request) : Except Outcome Job :=
  (request.job files).mapError (Outcome.failure [])

/-- The outcome of a command line. -/
def run (arguments : List (List Char)) (files : Files) (input : List UInt8) : Outcome :=
  match requestOf arguments >>= jobOf files with
  | .error outcome => outcome
  | .ok job => job.run input

end InputMask.CommandLine
