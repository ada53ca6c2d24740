/-!
# Character classes of placeholders

A mask template marks the places to be filled with one of three placeholder
characters, each standing for a fixed class of ASCII characters. Text outside the
ASCII letters and digits is noise: `clean` drops it before a template is applied.

## Main definitions

* `CharClass`: the three classes
* `CharClass.ofPlaceholder?`, `CharClass.placeholder`: the characters that stand for them
* `CharClass.accepts`: membership in a class
* `clean`: the ASCII letters and digits of a text
-/

namespace InputMask

/-- The classes of characters a placeholder can ask for. -/
inductive CharClass where
  | digit
  | letter
  | alphanumeric
  deriving DecidableEq, Repr

/-- An ASCII decimal digit. -/
def isDigit (c : Char) : Bool :=
  '0' ≤ c && c ≤ '9'

/-- An ASCII letter of either case. -/
def isLetter (c : Char) : Bool :=
  ('A' ≤ c && c ≤ 'Z') || ('a' ≤ c && c ≤ 'z')

/-- An ASCII letter or digit. -/
def isAlphanumeric (c : Char) : Bool :=
  isDigit c || isLetter c

namespace CharClass

/-- The class a template character stands for, if it is a placeholder at all. -/
def ofPlaceholder? : Char → Option CharClass
  | '9' => some digit
  | 'A' => some letter
  | '*' => some alphanumeric
  | _ => none

/-- The template character that stands for the class. -/
def placeholder : CharClass → Char
  | digit => '9'
  | letter => 'A'
  | alphanumeric => '*'

@[simp]
theorem ofPlaceholder?_placeholder (k : CharClass) : ofPlaceholder? k.placeholder = some k := by
  cases k <;> rfl

/-- The characters a placeholder of this class may be filled with. -/
def accepts : CharClass → Char → Bool
  | digit => isDigit
  | letter => isLetter
  | alphanumeric => isAlphanumeric

/-- Every class accepts ASCII letters and digits only. -/
theorem isAlphanumeric_of_accepts {k : CharClass} {c : Char} (h : k.accepts c = true) :
    isAlphanumeric c = true := by
  cases k <;> simp_all [accepts, isAlphanumeric]

end CharClass

/-- The ASCII letters and digits of a text, in order. -/
def clean (text : List Char) : List Char :=
  text.filter isAlphanumeric

@[simp]
theorem mem_clean {c : Char} {text : List Char} :
    c ∈ clean text ↔ c ∈ text ∧ isAlphanumeric c = true :=
  List.mem_filter

@[simp]
theorem clean_clean (text : List Char) : clean (clean text) = clean text := by
  simp [clean]

@[simp]
theorem clean_append (a b : List Char) : clean (a ++ b) = clean a ++ clean b :=
  List.filter_append ..

end InputMask
