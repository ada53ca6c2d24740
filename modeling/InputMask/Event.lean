/-!
# Events

What is reported while a specification is read and a value is masked, in the order in
which it happens.
-/

namespace InputMask

/-- One reported event. -/
inductive Event where
  /-- A numeric entry of a list of alternatives was dropped. -/
  | numericIgnored
  /-- The template was chosen because its pattern was found. -/
  | chosenByPattern (template : List Char)
  /-- The template was chosen as the shortest that holds the input. -/
  | chosenByLength (template : List Char) (maxLength inputLength : Nat)
  /-- No template holds the input, and the longest was chosen. -/
  | overflowing (template : List Char) (maxLength inputLength : Nat)
  /-- The template is applied to the cleaned value. -/
  | applying (template raw : List Char)
  /-- A canonical number was malformed. -/
  | numberRejected (canonical : List Char)
  deriving DecidableEq, Repr

namespace Event

/-- How much detail an event belongs to. -/
inductive Level where
  | debug
  | trace
  deriving DecidableEq, Repr

/-- The name of a level in reports. -/
def Level.name : Level → String
  | debug => "DEBUG"
  | trace => "TRACE"

/-- The level an event is reported at. -/
def level : Event → Level
  | applying _ _ => .trace
  | _ => .debug

/-- The text an event is reported with. -/
def message : Event → String
  | numericIgnored => "ignoring numeric config inside alternative list"
  | chosenByPattern _ => "alternative selected by regex"
  | chosenByLength .. => "alternative selected by length"
  | overflowing .. => "input overflows every alternative, using the largest"
  | applying _ _ => "applying pattern mask"
  | numberRejected _ => "rejected malformed numeric value"

end Event

end InputMask
