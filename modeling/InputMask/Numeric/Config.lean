/-!
# Settings of a numeric mask

How an amount is dressed: the texts around it, the mark between groups of three digits,
the mark before the decimals, and how many digits and decimals are kept.
-/

namespace InputMask

/-- The settings of a numeric mask. -/
structure NumericConfig where
  /-- Written in front of the amount. -/
  before : List Char := []
  /-- Written behind the amount. -/
  after : List Char := []
  /-- Written between groups of three digits. -/
  delimiter : List Char := ['.']
  /-- Written between the whole part and the decimals. -/
  separator : List Char := [',']
  /-- The number of decimals. -/
  decimals : Nat := 0
  /-- The most digits that are kept; absent or zero keeps them all. -/
  maxLength : Option Nat := none
  deriving DecidableEq, Repr

namespace NumericConfig

/-- The settings in force where nothing is said. -/
def standard : NumericConfig := {}

/-- One change to the settings. -/
inductive Change where
  | before (text : List Char)
  | after (text : List Char)
  | delimiter (text : List Char)
  | separator (text : List Char)
  | decimals (count : Nat)
  | maxLength (limit : Option Nat)
  deriving DecidableEq, Repr

/-- The settings after one change. -/
def change (config : NumericConfig) : Change → NumericConfig
  | .before text => { config with before := text }
  | .after text => { config with after := text }
  | .delimiter text => { config with delimiter := text }
  | .separator text => { config with separator := text }
  | .decimals count => { config with decimals := count }
  | .maxLength limit => { config with maxLength := limit }

/-- The standard settings with changes made in order, so the last one of a kind holds. -/
def ofChanges (changes : List Change) : NumericConfig :=
  changes.foldl change standard

end NumericConfig

end InputMask
