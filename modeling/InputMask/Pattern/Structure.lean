import InputMask.Pattern.Bracketed

/-!
# Reading a pattern

Characters, escapes and classes follow one another; bars divide alternatives, parentheses
group, and repetition marks apply to what stands before them.

## Main definitions

* `Opening`: what an opening parenthesis begins
* `Level`: an open group with what has been read in it
* `Tree.ofPattern`: reads a pattern
-/

namespace InputMask.Pattern

/-- The switch of a letter. -/
def Switch.ofLetter? : Char → Option Switch
  | 'i' => some .ignoreCase
  | 'm' => some .multiLine
  | 's' => some .dotAll
  | 'U' => some .swapGreed
  | 'u' => some .unicode
  | 'R' => some .crlf
  | 'x' => some .verbose
  | _ => none

/-- One item in a list of switches: a switch, or the hyphen that turns off those behind it. -/
structure FlagItem where
  span : Span
  switch : Option Switch
  deriving DecidableEq

/-- The settings that a list of items amounts to. -/
def settingsOf (items : List FlagItem) : List Setting :=
  (items.foldl
    (fun (state : Bool × List Setting) item =>
      match item.switch with
      | none => (false, state.2)
      | some switch => (state.1, ⟨switch, state.1⟩ :: state.2))
    (true, [])).2.reverse

/-- What a list of settings does to one switch; the first one that names it counts. -/
def settingOf? (settings : List Setting) (switch : Switch) : Option Bool :=
  (settings.find? (·.switch = switch)).map (·.on)

/-- What an opening parenthesis begins: settings for what follows, or a group. -/
inductive Opening where
  | settings (span : Span) (settings : List Setting)
  | group (span : Span) (captures : Bool) (settings : List Setting)

/-- Whether a character may stand in a group name. -/
def isNameChar (isFirst : Bool) (c : Char) : Bool :=
  let isLetter := c = '_' || Unicode.alphabetic.contains c.toNat
  if isFirst then isLetter
  else isLetter || c = '.' || c = '[' || c = ']' || Unicode.numbers.contains c.toNat

/-- An open level: what has been read of the current alternative, the last part first, and the
alternatives before it, the last one first. -/
structure Level where
  /-- Where the level starts. -/
  first : Nat
  /-- Where the current alternative starts. -/
  start : Nat
  parts : List Tree
  branches : List Tree

namespace Level

/-- A level that starts at an offset. -/
def blank (offset : Nat) : Level :=
  ⟨offset, offset, [], []⟩

/-- The level with another part. -/
def push (level : Level) (part : Tree) : Level :=
  { level with parts := part :: level.parts }

/-- The current alternative, up to an offset. -/
def branch (level : Level) (stop : Nat) : Tree :=
  match level.parts with
  | [] => .empty ⟨level.start, stop⟩
  | [part] => part
  | parts => .sequence ⟨level.start, stop⟩ parts.reverse

/-- Everything in the level, up to an offset. -/
def tree (level : Level) (stop : Nat) : Tree :=
  match level.branches with
  | [] => level.branch stop
  | branches => .alternation ⟨level.first, stop⟩ (level.branch stop :: branches).reverse

end Level

/-- An open group: its opening, whether blanks were skipped before it, and the level that it
will be a part of. -/
structure OpenGroup where
  span : Span
  captures : Bool
  settings : List Setting
  verboseBefore : Bool
  outer : Level

namespace Reader

/-- Reads the name of a group, behind the angle bracket that opens it. -/
def groupName : Reader Unit := do
  let start ← offset
  let rec letters (isFirst : Bool) : Nat → Reader (List Char)
    | 0 => return []
    | fuel + 1 => do
      match ← peek? with
      | none => fail .groupNameUnclosed (← here)
      | some c =>
        if c = '>' then
          return []
        else if isNameChar isFirst c then
          advance
          return c :: (← letters false fuel)
        else
          fail .groupNameInvalid (← nextSpan)
  let name ← letters true ((← rest).length + 1)
  let span ← since start
  advance
  if name.isEmpty then
    fail .groupNameEmpty (.at start)
  match (← get).names.find? (·.1 = name) with
  | some (_, earlier) => failAgain .groupNameDuplicate span earlier
  | none => modify fun c => { c with names := (name, span) :: c.names }

/-- Reads switches up to a colon or a closing parenthesis; the items come last one first. -/
def flagItems (items : List FlagItem) : Nat → Reader (List FlagItem)
  | 0 => return items
  | fuel + 1 => do
    match ← peek? with
    | none => fail .flagMissing (← here)
    | some c =>
      if c = ':' || c = ')' then
        match items with
        | ⟨span, none⟩ :: _ => fail .flagDanglingNegation span
        | _ => return items
      else
        let span ← nextSpan
        let switch := Switch.ofLetter? c
        if c ≠ '-' && switch.isNone then
          fail .flagUnrecognized span
        match items.reverse.find? (·.switch = switch) with
        | some earlier =>
          failAgain (if switch.isNone then .flagRepeatedNegation else .flagDuplicate)
            span earlier.span
        | none =>
          advance
          flagItems (⟨span, switch⟩ :: items) fuel

/-- Reads what an opening parenthesis begins. -/
def opening : Reader Opening := do
  let start ← offset
  let span ← nextSpan
  advance
  skipBlanks
  if (← accept ['?', '=']) || (← accept ['?', '!']) || (← accept ['?', '<', '=']) ||
      (← accept ['?', '<', '!']) then
    fail .lookAround (← since start)
  let inner ← here
  if (← accept ['?', 'P', '<']) || (← accept ['?', '<']) then
    groupName
    return .group span true []
  else if ← accept ['?'] then
    if (← peek?).isNone then
      fail .groupUnclosed span
    let items ← flagItems [] ((← rest).length + 1)
    let settings := settingsOf items.reverse
    let closing ← peek?
    advance
    if closing = some ')' then
      if items.isEmpty then
        fail .repetitionMissing inner
      return .settings (← since start) settings
    else
      return .group span false settings
  else
    return .group span true []

/-- Takes the part that a repetition mark applies to off the level. -/
def repeated (level : Level) : Reader (Tree × Level) := do
  match level.parts with
  | [] | .empty _ :: _ | .settings _ _ :: _ => fail .repetitionMissing (← here)
  | part :: parts => return (part, { level with parts := parts })

/-- The level with a repetition of a part that was taken off it. -/
def pushRepetition (level : Level) (part : Tree) (least : Nat) (most : Option Nat)
    (greedy : Bool) : Reader Level := do
  return level.push (.repetition ⟨part.span.start, ← offset⟩ least most greedy part)

/-- Reads a one-character repetition mark, with the mark for laziness behind it. -/
def shortRepetition (level : Level) (least : Nat) (most : Option Nat) : Reader Level := do
  let (part, level) ← repeated level
  advance
  let lazy ← accept ['?']
  pushRepetition level part least most !lazy

/-- Steps over white space of any kind, which may surround a count. -/
def skipWhitespace : Reader Unit :=
  modify fun c =>
    let rest := c.rest.dropWhile isBlank
    { c with rest := rest, offset := c.offset + (c.rest.length - rest.length) }

/-- Reads digits as far as they go. -/
def countDigits : Nat → Reader (List Char)
  | 0 => return []
  | fuel + 1 => do
    match ← peek? with
    | none => return []
    | some c =>
      if c.isDigit then
        advanceOverBlanks
        return c :: (← countDigits fuel)
      else
        return []

/-- Reads a count; a fault in it is handed back, since it may not be the one to report. -/
def count : Reader (Except Fault Nat) := do
  skipWhitespace
  let start ← offset
  let digits ← countDigits (← rest).length
  let span ← since start
  let number := digits.foldl (fun n c => 10 * n + (c.toNat - '0'.toNat)) 0
  skipWhitespace
  if digits.isEmpty then
    return .error ⟨.repetitionCountMissing, span, none⟩
  else if number < Nat.pow 2 32 then
    return .ok number
  else
    return .error ⟨.decimalInvalid, span, none⟩

/-- Reads the bounds of a counted repetition, behind the opening brace and up to the closing
one. -/
def countBounds (start : Nat) : Reader (Nat × Option Nat) := do
  let least ← count
  match ← peek? with
  | none => fail .repetitionCountUnclosed (← since start)
  | some ',' =>
    advanceOverBlanks
    match ← peek? with
    | none => fail .repetitionCountUnclosed (← since start)
    | some '\x7d' => return (← least, none)
    | some _ =>
      let least ← least
      let most ← (← count)
      return (least, some most)
  | some _ =>
    let exact ← least
    return (exact, some exact)

/-- Reads a counted repetition, whose opening brace comes next. -/
def countedRepetition (level : Level) : Reader Level := do
  let start ← offset
  let (part, level) ← repeated level
  advanceOverBlanks
  if (← peek?).isNone then
    fail .repetitionCountUnclosed (← since start)
  let (least, most) ← countBounds start
  if (← peek?) ≠ some '\x7d' then
    fail .repetitionCountUnclosed (← since start)
  advanceOverBlanks
  let lazy ← accept ['?']
  if most.any (· < least) then
    fail .repetitionCountInvalid (← since start)
  pushRepetition level part least most !lazy

/-- Reads one character that stands for itself or for a condition. -/
def plain (c : Char) : Reader Tree := do
  let span ← nextSpan
  advance
  match c with
  | '.' => return .dot span
  | '^' => return .assertion span .lineStart
  | '$' => return .assertion span .lineEnd
  | c => return .literal ⟨span, c, false⟩

/-- Reads on until the pattern ends. -/
def branches (level : Level) (groups : List OpenGroup) : Nat → Reader Tree
  | 0 => return level.tree (← offset)
  | fuel + 1 => do
    skipBlanks
    match ← peek? with
    | none =>
      match groups with
      | [] => return level.tree (← offset)
      | group :: _ => fail .groupUnclosed group.span
    | some '(' =>
      match ← opening with
      | .settings span settings =>
        modify fun c => { c with verbose := (settingOf? settings .verbose).getD c.verbose }
        branches (level.push (.settings span settings)) groups fuel
      | .group span captures settings =>
        let before := (← get).verbose
        modify fun c => { c with verbose := (settingOf? settings .verbose).getD before }
        branches (.blank (← offset)) (⟨span, captures, settings, before, level⟩ :: groups) fuel
    | some ')' =>
      match groups with
      | [] => fail .groupUnopened (← nextSpan)
      | group :: groups =>
        modify fun c => { c with verbose := group.verboseBefore }
        let content := level.tree (← offset)
        advance
        let span : Span := ⟨group.span.start, ← offset⟩
        branches (group.outer.push (.group span group.captures group.settings content)) groups fuel
    | some '|' =>
      let branch := level.branch (← offset)
      advance
      branches
        { level with start := ← offset, parts := [], branches := branch :: level.branches }
        groups fuel
    | some '[' => branches (level.push (← bracketed)) groups fuel
    | some '?' => branches (← shortRepetition level 0 (some 1)) groups fuel
    | some '*' => branches (← shortRepetition level 0 none) groups fuel
    | some '+' => branches (← shortRepetition level 1 none) groups fuel
    | some '\x7b' => branches (← countedRepetition level) groups fuel
    | some '\\' => branches (level.push (← escape).tree) groups fuel
    | some c => branches (level.push (← plain c)) groups fuel

end Reader

/-- The deepest nesting that a pattern may have. -/
def nestLimit : Nat := 250

mutual

/-- The first part of a class that is nested too deeply, for a class inside so many others. -/
def ClassTree.tooDeep? (depth : Nat) : ClassTree → Option Span
  | bracketed span _ content =>
    if nestLimit ≤ depth then some span else content.tooDeep? (depth + 1)
  | union span items => if nestLimit ≤ depth then some span else tooDeepAny? (depth + 1) items
  | operation span _ left right =>
    if nestLimit ≤ depth then some span
    else (left.tooDeep? (depth + 1)).or (right.tooDeep? (depth + 1))
  | _ => none

/-- The first part that is nested too deeply in a list of classes. -/
def ClassTree.tooDeepAny? (depth : Nat) : List ClassTree → Option Span
  | [] => none
  | item :: items => (item.tooDeep? depth).or (tooDeepAny? depth items)

end

mutual

/-- The first part of a pattern that is nested too deeply, for a pattern inside so many others. -/
def Tree.tooDeep? (depth : Nat) : Tree → Option Span
  | bracketed span _ content =>
    if nestLimit ≤ depth then some span else content.tooDeep? (depth + 1)
  | repetition span _ _ _ part =>
    if nestLimit ≤ depth then some span else part.tooDeep? (depth + 1)
  | group span _ _ part => if nestLimit ≤ depth then some span else part.tooDeep? (depth + 1)
  | sequence span parts => if nestLimit ≤ depth then some span else tooDeepAny? (depth + 1) parts
  | alternation span branches =>
    if nestLimit ≤ depth then some span else tooDeepAny? (depth + 1) branches
  | _ => none

/-- The first part that is nested too deeply in a list of patterns. -/
def Tree.tooDeepAny? (depth : Nat) : List Tree → Option Span
  | [] => none
  | tree :: trees => (tree.tooDeep? depth).or (tooDeepAny? depth trees)

end

/-- Reads a pattern. -/
def Tree.ofPattern (pattern : List Char) : Except Fault Tree := do
  let (tree, _) ← (Reader.branches (.blank 0) [] (pattern.length + 1)).run (.ofPattern pattern)
  match tree.tooDeep? 0 with
  | some span => throw ⟨.nestLimitExceeded nestLimit, span, none⟩
  | none => return tree

end InputMask.Pattern
