import InputMask.Json.Writer
import InputMask.Output

/-!
# Printing results

A result is printed as its masked text, as its unmasked text, or as a JSON object with both.
-/

namespace InputMask

/-- Both texts in a JSON object. -/
def Output.toJson (out : Output) : Json :=
  .ofMembers [("masked", .string out.masked), ("unmasked", .string out.unmasked)]

namespace CommandLine

/-- How results are printed. -/
inductive Format where
  | masked
  | unmasked
  | json
  deriving DecidableEq, Repr

namespace Format

/-- A result as it is printed. -/
def render (format : Format) (out : Output) : List Char :=
  match format with
  | masked => out.masked
  | unmasked => out.unmasked
  | json => out.toJson.write

/-- The line of a result. -/
def line (format : Format) (out : Output) : List Char :=
  format.render out ++ ['\n']

end Format

end CommandLine

end InputMask
