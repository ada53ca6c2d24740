import InputMask.CommandLine.Arguments
import InputMask.CommandLine.Format

/-!
# What a command line asks for

## Main definitions

* `Source`: where the specification comes from
* `Request`: a source, a format and the values to mask
* `Request.ofArguments`
-/

namespace InputMask.CommandLine

/-- Where the specification comes from. -/
inductive Source where
  /-- The settings of a numeric mask. -/
  | numeric (config : NumericConfig)
  | file (path : List Char)
  /-- Templates and the sources of their patterns in turn, and templates without a pattern. -/
  | templates (guarded literals : List (List Char))
  deriving DecidableEq, Repr

/-- What is to be done. Without values, the lines of the input are masked. -/
structure Request where
  source : Source
  format : Format
  values : List (List Char)
  deriving DecidableEq, Repr

namespace Use

/-- The file of a use. -/
def path? : Use → Option (List Char)
  | ⟨.spec, [path]⟩ => some path
  | _ => none

/-- The number that a text writes. -/
def count? (text : List Char) : Option Nat :=
  (readCount text).toOption

/-- The change to the numeric settings that a use makes. -/
def change? : Use → Option NumericConfig.Change
  | ⟨.setting .before, [text]⟩ => some (.before text)
  | ⟨.setting .after, [text]⟩ => some (.after text)
  | ⟨.setting .delimiter, [text]⟩ => some (.delimiter text)
  | ⟨.setting .separator, [text]⟩ => some (.separator text)
  | ⟨.setting .decimals, [text]⟩ => (count? text).map .decimals
  | ⟨.setting .maxLength, [text]⟩ => (count? text).map fun n => .maxLength (some n)
  | _ => none

end Use

/-- The values of an option in all its uses, one behind the other. -/
def Opt.valuesIn (opt : Opt) (uses : List Use) : List (List Char) :=
  (uses.filter (·.opt = opt)).flatMap Use.values

/-- The source that uses of options ask for. A file goes before templates. -/
def Source.ofUses (uses : List Use) : Source :=
  match uses.findSome? Use.path? with
  | some path => .file path
  | none => .templates (Opt.regexMask.valuesIn uses) (Opt.mask.valuesIn uses)

/-- The numeric settings that uses of options ask for. -/
def configOfUses (uses : List Use) : NumericConfig :=
  .ofChanges (uses.filterMap Use.change?)

/-- The format that uses of options ask for. JSON goes before the unmasked text. -/
def Format.ofUses (uses : List Use) : Format :=
  if uses.any (·.opt = .json) then .json
  else if uses.any (·.opt = .unmasked) then .unmasked
  else .masked

/-- The request of a command line. The format may be asked for at either level. -/
def Request.ofArguments : Arguments → Request
  | ⟨top, none⟩ => ⟨.ofUses top.uses, .ofUses top.uses, top.values⟩
  | ⟨top, some numeric⟩ =>
    ⟨.numeric (configOfUses numeric.uses), .ofUses (top.uses ++ numeric.uses), numeric.values⟩

end InputMask.CommandLine
