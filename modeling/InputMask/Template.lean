import InputMask.CharClass

/-!
# Mask templates

A template such as `(99) [9 ]9999-9999` is read once into a list of tokens together
with two counts: the characters its mandatory placeholders need, and the most that it
may hold.

* `9`, `A` and `*` are mandatory placeholders;
* `\x` is the literal `x`, and a `\` at the very end is dropped;
* `[...]` is an optional group, every character of which is an item: a placeholder or
  a literal, with no escapes inside;
* a `[` that is never closed is an empty group, and reading goes on right after it;
* any other character is a literal.

## Main definitions

* `Slot`, `Token`, `Template`
* `Template.ofText`: reads a template
* `Template.mandatoryAfter`: for each token, the mandatory placeholders behind it
* `Template.write`: writes tokens back as template text
-/

namespace InputMask

/-- One item of an optional group. -/
inductive Slot where
  | literal (c : Char)
  | placeholder (k : CharClass)
  deriving DecidableEq, Repr

/-- A template character inside a group. -/
def Slot.ofChar (c : Char) : Slot :=
  match CharClass.ofPlaceholder? c with
  | some k => placeholder k
  | none => literal c

/-- The character an item is written with inside a group. -/
def Slot.char : Slot → Char
  | literal c => c
  | placeholder k => k.placeholder

/-- One unit of a template. -/
inductive Token where
  | literal (c : Char)
  | placeholder (k : CharClass)
  | group (items : List Slot)
  deriving DecidableEq, Repr

namespace Token

/-- A template character outside groups and escapes. -/
def ofChar (c : Char) : Token :=
  match CharClass.ofPlaceholder? c with
  | some k => placeholder k
  | none => literal c

/-- Whether the token is a mandatory placeholder. -/
def isPlaceholder : Token → Bool
  | placeholder _ => true
  | _ => false

/-- Whether the token is a literal. -/
def isLiteral : Token → Bool
  | literal _ => true
  | _ => false

/-- The raw characters the token must have. -/
def minWidth : Token → Nat
  | literal _ => 0
  | placeholder _ => 1
  | group _ => 0

/-- The raw characters the token is counted to hold; a group counts every item. -/
def maxWidth : Token → Nat
  | literal _ => 0
  | placeholder _ => 1
  | group items => items.length

/-- The template text of a token; literals are always escaped. -/
def write : Token → List Char
  | literal c => ['\\', c]
  | placeholder k => [k.placeholder]
  | group items => '[' :: items.map Slot.char ++ [']']

/-- A group can be written unless an item's character would end it or be read as a placeholder. -/
def Writable : Token → Prop
  | group items =>
    ∀ c, Slot.literal c ∈ items → c ≠ ']' ∧ CharClass.ofPlaceholder? c = none
  | _ => True

end Token

/-- A template that has been read: its tokens, the length its mandatory placeholders need
and the length it can hold. -/
structure Template where
  tokens : List Token
  minLength : Nat
  maxLength : Nat
  deriving DecidableEq, Repr

namespace Template

/-- The template without tokens. -/
def empty : Template :=
  ⟨[], 0, 0⟩

/-- A token put in front of a template. -/
def cons (token : Token) (template : Template) : Template :=
  ⟨token :: template.tokens, token.minWidth + template.minLength,
    token.maxWidth + template.maxLength⟩

/-- Cuts a text at its first closing bracket: what stands before it, and what behind. -/
def cutGroup? (text : List Char) : Option (List Char × List Char) :=
  match text.dropWhile (· ≠ ']') with
  | [] => none
  | _ :: rest => some (text.takeWhile (· ≠ ']'), rest)

theorem length_of_cutGroup? {text body rest : List Char} (h : cutGroup? text = some (body, rest)) :
    rest.length < text.length := by
  unfold cutGroup? at h
  split at h
  · simp at h
  · next c rest' hd =>
    obtain ⟨-, rfl⟩ := by simpa using h
    have hle := (List.dropWhile_sublist (· ≠ ']') (l := text)).length_le
    rw [hd, List.length_cons] at hle
    omega

/-- Reads a template. -/
def ofText (text : List Char) : Template :=
  match text with
  | [] => empty
  | '\\' :: [] => empty
  | '\\' :: c :: rest => cons (.literal c) (ofText rest)
  | '[' :: rest =>
    match _cut : cutGroup? rest with
    | some (body, rest') => cons (.group (body.map Slot.ofChar)) (ofText rest')
    | none => cons (.group []) (ofText rest)
  | c :: rest => cons (.ofChar c) (ofText rest)
termination_by text.length
decreasing_by
  · simp only [List.length_cons]
    omega
  · have := length_of_cutGroup? _cut
    simp only [List.length_cons]
    omega
  · simp
  · simp

/-- The mandatory placeholders among some tokens. -/
def mandatory (tokens : List Token) : Nat :=
  tokens.countP Token.isPlaceholder

/-- For each token, the mandatory placeholders strictly behind it, counted in one pass from
the end. -/
def mandatoryAfter (template : Template) : List Nat :=
  (template.tokens.foldr
    (fun token (seen, counts) => (token.minWidth + seen, seen :: counts)) (0, [])).2

/-- The template text of a list of tokens. -/
def write (tokens : List Token) : List Char :=
  tokens.flatMap Token.write

@[simp]
theorem tokens_empty : empty.tokens = [] := rfl

@[simp]
theorem tokens_cons (token : Token) (t : Template) :
    (cons token t).tokens = token :: t.tokens := rfl

@[simp]
theorem minLength_cons (token : Token) (t : Template) :
    (cons token t).minLength = token.minWidth + t.minLength := rfl

@[simp]
theorem maxLength_cons (token : Token) (t : Template) :
    (cons token t).maxLength = token.maxWidth + t.maxLength := rfl

end Template

end InputMask
