import InputMask.Pattern.Compile

/-!
# Patterns as they are written in specifications

The source of a pattern is either the pattern itself or, between slashes and followed by
flags, a pattern with options.

## Main definitions

* `splitLiteral?`: the body and the flags between and behind slashes
* `Source.ofText`: the pattern and its options
* `guarded`: an alternative with a pattern
-/

namespace InputMask.Pattern

/-- The letters that may stand behind the closing slash. -/
def isFlag (c : Char) : Bool :=
  ['g', 'i', 'm', 's', 'u', 'y'].contains c

/-- The body and the flags of a text that is a slash, a body without line feeds, a slash and
flags. The closing slash is the last one of the text. -/
def splitLiteral? (text : List Char) : Option (List Char × List Char) :=
  match text with
  | '/' :: rest =>
    match rest.reverse.dropWhile isFlag with
    | '/' :: body =>
      if body.contains '\n' then none
      else some (body.reverse, (rest.reverse.takeWhile isFlag).reverse)
    | _ => none
  | _ => none

/-- A pattern with the options it is compiled under. -/
structure Source where
  body : List Char
  options : Options
  deriving DecidableEq, Repr

/-- Reads the source of a pattern: of the flags `i`, `m` and `s` count. -/
def Source.ofText (text : List Char) : Source :=
  match splitLiteral? text with
  | some (body, flags) =>
    ⟨body, { ignoreCase := flags.contains 'i', multiLine := flags.contains 'm',
             dotAll := flags.contains 's' }⟩
  | none => ⟨text, {}⟩

/-- Why an alternative with a pattern could not be built. -/
structure InvalidPattern where
  template : List Char
  source : List Char
  reason : List Char
  deriving DecidableEq, Repr

/-- The text that describes the failure. -/
def InvalidPattern.message (invalid : InvalidPattern) : List Char :=
  "Invalid regex for mask '".toList ++ invalid.template ++ "' ('".toList ++ invalid.source ++
    "'): ".toList ++ invalid.reason

/-- A way to compile patterns, which may give a reason to refuse one. -/
abbrev Compiler := Options → List Char → Except (List Char) Matcher

/-- The compiler for the syntax of this library. -/
def compiler : Compiler :=
  fun options body => (compile options body).mapError Failure.reason

/-- The alternative with a template and the source of its pattern. -/
def guarded (compiler : Compiler) (template source : List Char) :
    Except InvalidPattern Alternative :=
  let parsed := Source.ofText source
  match compiler parsed.options parsed.body with
  | .ok matcher => .ok (.guarded template matcher)
  | .error reason => .error ⟨template, source, reason⟩

end InputMask.Pattern
