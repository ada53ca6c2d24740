import InputMask.Numeric.Setting

/-!
# Options of the command line

There are two levels: the command itself, which takes templates or a specification file,
and the subcommand for numbers, which takes the settings of a numeric mask. Some options
are known at both.

## Main definitions

* `Opt`, `Level`: the options and the levels
* `Level.ofLong?`, `Level.ofShort?`: the option of a name
* `Opt.shown`: an option as it is named in messages
* `Opt.excludes`: which options may not stand together
-/

namespace InputMask.CommandLine

/-- The options. -/
inductive Opt where
  /-- A template. -/
  | mask
  /-- A template and the pattern that guards it. -/
  | regexMask
  /-- A file that holds a specification. -/
  | spec
  | unmasked
  | json
  | verbose
  | help
  | version
  /-- A setting of a numeric mask. -/
  | setting (field : NumericField)
  deriving DecidableEq, Repr

/-- The levels at which options stand. -/
inductive Level where
  | top
  | numeric
  deriving DecidableEq, Repr

namespace Opt

/-- The long name. -/
def long : Opt → String
  | mask => "mask"
  | regexMask => "regex-mask"
  | spec => "spec"
  | unmasked => "unmasked"
  | json => "json"
  | verbose => "verbose"
  | help => "help"
  | version => "version"
  | setting .maxLength => "max-length"
  | setting field => field.name

/-- The short name, if there is one. -/
def short? : Opt → Option Char
  | mask => some 'm'
  | regexMask => some 'r'
  | spec => some 's'
  | unmasked => some 'u'
  | verbose => some 'v'
  | help => some 'h'
  | version => some 'V'
  | json => none
  | setting _ => none

/-- What the values of one use are called; there are as many as names. -/
def valueNames : Opt → List String
  | mask => ["TEMPLATE"]
  | regexMask => ["TEMPLATE", "REGEX"]
  | spec => ["FILE"]
  | setting .before => ["PREFIX"]
  | setting .after => ["SUFFIX"]
  | setting .delimiter => ["DELIMITER"]
  | setting .separator => ["SEPARATOR"]
  | setting .decimals => ["DECIMAL"]
  | setting .maxLength => ["DIGITS"]
  | unmasked => []
  | json => []
  | verbose => []
  | help => []
  | version => []

/-- The number of values of one use. -/
def arity (opt : Opt) : Nat :=
  opt.valueNames.length

/-- Whether the option may be used more than once. -/
def isRepeatable : Opt → Bool
  | mask => true
  | regexMask => true
  | _ => false

/-- The option as messages name it, with its values. -/
def shown (opt : Opt) : List Char :=
  ("--" ++ opt.long ++ String.join (opt.valueNames.map fun name => " <" ++ name ++ ">")).toList

/-- The pairs of options that may not stand together, one way round. -/
def conflicts : List (Opt × Opt) :=
  [(regexMask, spec), (spec, mask), (unmasked, json)]

/-- Whether two options may not stand together. -/
def excludes (a b : Opt) : Bool :=
  conflicts.contains (a, b) || conflicts.contains (b, a)

end Opt

namespace Level

/-- The options known at a level. -/
def options : Level → List Opt
  | top => [.mask, .regexMask, .spec, .unmasked, .json, .verbose, .help, .version]
  | numeric => NumericField.inOrder.map .setting ++ [.unmasked, .json, .verbose, .help]

/-- The option of a long name. -/
def ofLong? (level : Level) (name : List Char) : Option Opt :=
  level.options.find? (·.long.toList = name)

/-- The option of a short name. -/
def ofShort? (level : Level) (c : Char) : Option Opt :=
  level.options.find? (·.short? = some c)

end Level

/-- The word that starts the subcommand for numbers. -/
def numericWord : List Char :=
  "numeric".toList

/-- The word that asks for help on a subcommand. -/
def helpWord : List Char :=
  "help".toList

end InputMask.CommandLine
