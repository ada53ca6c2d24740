import InputMask.CommandLine.Refusal

/-!
# Reading arguments

The arguments of a level are options and values in any order.

* `--name` is an option, and `--name=value` one with a value attached to it.
* `-abc` is a cluster of short options. One that takes values ends the cluster: what is
  left of it is its value, without a leading `=`.
* An option without an attached value waits for its values among the next arguments. What
  looks like an option is never such a value.
* Behind `--` all arguments are values.
* The first other argument that names a subcommand starts it, and the rest belongs to it.

An option is checked when the next argument that is no value of it has been recognised, so
an unknown option is refused first.

## Main definitions

* `Use`: one use of an option
* `Reading`: the arguments of a level read so far
* `Arguments`: a command line that has been read
* `Arguments.read`
-/

namespace InputMask.CommandLine

/-- One use of an option, with its values. -/
structure Use where
  opt : Opt
  values : List (List Char)
  deriving DecidableEq, Repr

/-- Why reading ends early. -/
inductive Stop where
  | refused (refusal : Refusal)
  | help
  | version
  deriving DecidableEq, Repr

/-- The arguments of a level read so far. -/
structure Reading where
  /-- The options used, without the pending one. -/
  uses : List Use := []
  /-- The last option, as long as it has not been checked. -/
  pending : Option Use := none
  /-- The values that belong to no option. -/
  values : List (List Char) := []
  deriving DecidableEq, Repr

/-- Reading ends with a refusal. -/
def refuse {α : Type} (refusal : Refusal) : Except Stop α :=
  .error (.refused refusal)

namespace Use

/-- Checks one value of an option. -/
def checkValue (opt : Opt) (value : List Char) : Except Stop Unit :=
  match opt with
  | .spec => if value.isEmpty then refuse (.missingValue opt) else .ok ()
  | .setting .decimals => checkCount
  | .setting .maxLength => checkCount
  | _ => .ok ()
where
  /-- The value must be a number. -/
  checkCount : Except Stop Unit :=
    match readCount value with
    | .ok _ => .ok ()
    | .error fault => refuse (.invalidValue opt value fault)

/-- Checks the number of values. -/
def checkArity (use : Use) : Except Stop Unit :=
  if use.values.length = use.opt.arity then .ok ()
  else if use.values.isEmpty then refuse (.missingValue use.opt)
  else refuse (.wrongCount use.opt use.values.length)

/-- Whether more values may follow. -/
def isWaiting (use : Use) : Bool :=
  use.values.length < use.opt.arity

end Use

namespace Reading

/-- Whether an option has been used. -/
def uses? (reading : Reading) (opt : Opt) : Bool :=
  reading.uses.any (·.opt = opt)

/-- Checks a use of an option and adds it. -/
def accept (reading : Reading) (use : Use) : Except Stop Reading := do
  use.checkArity
  match use.opt with
  | .help => .error .help
  | .version => .error .version
  | opt =>
    if !opt.isRepeatable && reading.uses? opt then refuse (.repeated opt)
    use.values.forM (Use.checkValue opt)
    return { reading with uses := reading.uses ++ [use] }

/-- Checks the pending option. -/
def settle (reading : Reading) : Except Stop Reading :=
  match reading.pending with
  | none => .ok reading
  | some use => { reading with pending := none }.accept use

/-- Adds an option that is complete. -/
def use (reading : Reading) (opt : Opt) (values : List (List Char)) : Except Stop Reading := do
  (← reading.settle).accept ⟨opt, values⟩

/-- Adds an option whose values may follow. -/
def await (reading : Reading) (opt : Opt) : Except Stop Reading := do
  return { ← reading.settle with pending := some ⟨opt, []⟩ }

/-- Adds values that belong to no option. -/
def addValues (reading : Reading) (values : List (List Char)) : Except Stop Reading := do
  let reading ← reading.settle
  return { reading with values := reading.values ++ values }

/-- Whether the pending option waits for a value. -/
def isWaiting (reading : Reading) : Bool :=
  reading.pending.any Use.isWaiting

/-- Adds an argument that is no option: a value of the pending option, if that waits for one. -/
def addValue (reading : Reading) (value : List Char) : Except Stop Reading :=
  match reading.pending with
  | some use =>
    if use.isWaiting then
      .ok { reading with pending := some { use with values := use.values ++ [value] } }
    else reading.addValues [value]
  | none => reading.addValues [value]

/-- Adds an option by its long name. -/
def addLong (reading : Reading) (level : Level) (name : List Char)
    (attached : Option (List Char)) : Except Stop Reading :=
  match level.ofLong? name, attached with
  | none, _ => refuse (.unexpectedArgument ('-' :: '-' :: name))
  | some opt, none => if opt.arity = 0 then reading.use opt [] else reading.await opt
  | some opt, some value =>
    if opt.arity = 0 then refuse (.unexpectedValue opt value) else reading.use opt [value]

/-- Adds a cluster of short options. -/
def addCluster (reading : Reading) (level : Level) : List Char → Except Stop Reading
  | [] => .ok reading
  | c :: rest =>
    match level.ofShort? c with
    | none => refuse (.unexpectedArgument ['-', c])
    | some opt =>
      if opt.arity = 0 then do
        (← reading.use opt []).addCluster level rest
      else
        match rest with
        | [] => reading.await opt
        | '=' :: value => reading.use opt [value]
        | value => reading.use opt [value]

/-- Adds one argument in front of `--`. -/
def add (reading : Reading) (level : Level) (argument : List Char) : Except Stop Reading :=
  match argument with
  | '-' :: '-' :: text =>
    let (name, rest) := text.span (· ≠ '=')
    reading.addLong level name rest.tail?
  | '-' :: c :: text => reading.addCluster level (c :: text)
  | _ => reading.addValue argument

end Reading

/-- Refuses the first option that stands beside options it excludes. -/
def checkConflicts (uses : List Use) : Except Stop Unit :=
  let options := (uses.map Use.opt).eraseDups
  options.forM fun opt =>
    match options.filter opt.excludes with
    | [] => .ok ()
    | others => refuse (.conflict opt others)

/-- The end of the arguments of a level. -/
def Reading.finish (reading : Reading) : Except Stop Reading := do
  let reading ← reading.settle
  checkConflicts reading.uses
  return reading

/-- Reads the arguments of the subcommand for numbers. -/
def readNumeric (reading : Reading) : List (List Char) → Except Stop Reading
  | [] => reading.finish
  | ['-', '-'] :: values => do (← reading.addValues values).finish
  | argument :: rest => do readNumeric (← reading.add .numeric argument) rest

/-- A command line that has been read: the arguments of the command, and those of the
subcommand if there is one. -/
structure Arguments where
  top : Reading
  numeric : Option Reading
  deriving DecidableEq, Repr

namespace Arguments

/-- The end of a request for help: what follows must be the name of a subcommand. -/
def helpOn : List (List Char) → Stop
  | [] => .help
  | [name] => if name = numericWord || name = helpWord then .help else unknown name
  | name :: next :: _ =>
    if name = numericWord || name = helpWord then unknown next else unknown name
where
  /-- There is no subcommand of the name. -/
  unknown (name : List Char) : Stop :=
    .refused (.unknownSubcommand name)

/-- Reads the arguments of the command. Those of a subcommand are read before the ones in
front of it are checked to the end. -/
def readTop (reading : Reading) : List (List Char) → Except Stop Arguments
  | [] => do return ⟨← reading.finish, none⟩
  | ['-', '-'] :: values => do return ⟨← (← reading.addValues values).finish, none⟩
  | argument :: rest =>
    if !reading.isWaiting && argument = numericWord then do
      let numeric ← readNumeric {} rest
      return ⟨← reading.finish, some numeric⟩
    else if !reading.isWaiting && argument = helpWord then
      .error (helpOn rest)
    else do
      readTop (← reading.add .top argument) rest

/-- Reads a command line. -/
def read (arguments : List (List Char)) : Except Stop Arguments :=
  readTop {} arguments

end Arguments

end InputMask.CommandLine
