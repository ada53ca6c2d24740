import InputMask.CommandLine.Run

/-!
# The command

Reads the arguments, the specification file that they name and, where no values are given,
standard input. Everything else is `CommandLine.run`.
-/

open InputMask.CommandLine

/-- The fault that an error of the system stands for. -/
def faultOf : IO.Error → FileFault
  | .noFileOrDirectory .. => .notFound
  | .permissionDenied .. => .denied
  | .inappropriateType _ 21 _ => .isDirectory
  | .inappropriateType .. => .notDirectory
  | fault => .other (toString fault).toList

/-- The bytes of a file. -/
def readFile (path : List Char) : IO (Except FileFault (List UInt8)) := do
  try
    return .ok (← IO.FS.readBinFile (String.ofList path)).toList
  catch fault =>
    return .error (faultOf fault)

/-- The bytes of standard input. -/
def readInput : IO (List UInt8) := do
  return (← (← IO.getStdin).readBinToEnd).toList

/-- The file that a request names, if it names one. -/
def filesFor (request : Request) : IO Files := do
  match request.source with
  | .file path =>
    let content ← readFile path
    return fun _ => content
  | _ => return fun _ => .error .notFound

/-- Runs a command line. Standard input is read only for a job that asks for it. -/
def perform (arguments : List (List Char)) : ExceptT Outcome IO Outcome := do
  let request ← ExceptT.mk (pure (requestOf arguments))
  let files ← filesFor request
  let job ← ExceptT.mk (pure (jobOf files request))
  let input ← if job.readsInput then readInput else pure []
  return job.run input

/-- Runs the command. -/
def main (arguments : List String) : IO UInt32 := do
  let outcome ←
    match ← (perform (arguments.map String.toList)).run with
    | .error outcome => pure outcome
    | .ok outcome => pure outcome
  IO.print (String.ofList outcome.stdout)
  IO.eprint (String.ofList outcome.stderr)
  return outcome.exitCode.toUInt32
