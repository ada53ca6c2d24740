import InputMask.Pattern.Source
import InputMask.Proofs.Matching
import Mathlib.Data.List.Permutation
import Mathlib.Data.List.TakeWhile

/-!
# Patterns between slashes

A source that stands between slashes, with flags behind them, is a pattern with options. Such a
source can be divided in one way only: no flag is a slash, so that the closing slash is the last
one. The division is the one that a pattern of its own describes, and that pattern is among those
that can be compiled here. Of the flags `i`, `m` and `s` count, in any order and however often.

## Main definitions

* `IsLiteral`: a source between slashes, its body and its flags
* `literalTree`, `literalForm`: the pattern that describes such sources as it is read, and its
  expression
* `Reads`: the body and the flags of any source

## Main results

* `meaning_literalForm_iff`: the pattern matches whole sources between slashes, and captures their
  bodies and flags
* `splitLiteral?_eq_some_iff`: the division of a source
* `pattern_literals_split`: what becomes of a source
-/

namespace InputMask.Pattern

open Unicode (CharSet)

/-- A source is a slash, a body without line feeds, a slash and flags. -/
structure IsLiteral (source body flags : List Char) : Prop where
  split : source = '/' :: (body ++ '/' :: flags)
  one_line : '\n' ∉ body
  are_flags : ∀ c ∈ flags, c ∈ "gimsuy".toList

/-- The expression of the pattern of sources between slashes. -/
def literalForm : Expr :=
  .sequence (.look .textStart) <|
  .sequence (.set (.singleton 0x2f)) <|
  .sequence (.group true (.repetition 0 none true
    (.set ⟨[(0, 9), (11, 0xd7ff), (0xe000, 0x10ffff)]⟩))) <|
  .sequence (.set (.singleton 0x2f)) <|
  .sequence (.group true (.repetition 0 none true
    (.set ⟨[(0x67, 0x67), (0x69, 0x69), (0x6d, 0x6d), (0x73, 0x73), (0x75, 0x75),
      (0x79, 0x79)]⟩))) <|
  .look .textEnd

/-- A source has the body and the flags between and behind its slashes. If it does not stand between
slashes, all of it is the body, and there are no flags. -/
inductive Reads (source : List Char) : (body flags : List Char) → Prop
  | literal {body flags : List Char} (isLiteral : IsLiteral source body flags) :
      Reads source body flags
  | bare (not_literal : ∀ body flags, ¬ IsLiteral source body flags) : Reads source source []

/-! ### The pattern -/

/-- The pattern as it is read. -/
def literalTree : Tree :=
  .sequence ⟨0, 19⟩
    [.assertion ⟨0, 1⟩ .lineStart, .literal ⟨⟨1, 2⟩, '/', false⟩,
      .group ⟨2, 6⟩ true [] (.repetition ⟨3, 5⟩ 0 none true (.dot ⟨3, 4⟩)),
      .literal ⟨⟨6, 7⟩, '/', false⟩,
      .group ⟨7, 18⟩ true [] (.repetition ⟨8, 17⟩ 0 none true (.bracketed ⟨8, 16⟩ false
        (.union ⟨9, 15⟩ [.literal ⟨⟨9, 10⟩, 'g', false⟩, .literal ⟨⟨10, 11⟩, 'i', false⟩,
          .literal ⟨⟨11, 12⟩, 'm', false⟩, .literal ⟨⟨12, 13⟩, 's', false⟩,
          .literal ⟨⟨13, 14⟩, 'u', false⟩, .literal ⟨⟨14, 15⟩, 'y', false⟩]))),
      .assertion ⟨18, 19⟩ .lineEnd]

theorem ofPattern_eq_literalTree :
    Tree.ofPattern "^/(.*)/([gimsuy]*)$".toList = .ok literalTree := by
  rfl

theorem expr_literalTree : literalTree.expr {} = .ok (literalForm, {}) := by
  -- `decide` would stop at the sets of characters, whose ranges are sorted
  cbv

theorem isTooLarge_literalForm : literalForm.isTooLarge = false := by
  have forward : literalForm.plan.automaton false = some ⟨25, 1000⟩ := by cbv
  have backward : literalForm.plan.automaton true = some ⟨40, 1384⟩ := by cbv
  rw [Expr.isTooLarge, forward, backward]
  rfl

theorem expression_eq_literalForm :
    expression {} "^/(.*)/([gimsuy]*)$".toList = .ok literalForm := by
  have resolved : literalTree.expr (Options.switches {}) = .ok (literalForm, {}) :=
    expr_literalTree
  rw [expression, ofPattern_eq_literalTree]
  dsimp only
  rw [resolved]
  dsimp only
  rw [isTooLarge_literalForm, if_neg Bool.false_ne_true]

section Meaning

variable {before middle behind : List Char} {captures : List (List Char)} {set : CharSet}
  {rest : Meaning}

theorem condition_andThen_iff {look : Look} :
    ((Meaning.condition look).andThen rest) before middle behind captures ↔
      look.holds before.getLast? (middle ++ behind).head? = true ∧
        rest before middle behind captures := by
  constructor
  · rintro ⟨_, _, _, _, rfl, rfl, ⟨rfl, rfl, holds⟩, others⟩
    rw [List.append_nil] at others
    exact ⟨holds, others⟩
  · rintro ⟨holds, others⟩
    refine ⟨[], middle, [], captures, rfl, rfl, ⟨rfl, rfl, holds⟩, ?_⟩
    rwa [List.append_nil]

theorem character_andThen_iff :
    ((Meaning.character set).andThen rest) before middle behind captures ↔
      ∃ c others, middle = c :: others ∧ set.contains c.toNat = true ∧
        rest (before ++ [c]) others behind captures := by
  constructor
  · rintro ⟨_, others, _, _, rfl, rfl, ⟨rfl, c, rfl, contained⟩, matched⟩
    exact ⟨c, others, rfl, contained, matched⟩
  · rintro ⟨c, others, rfl, contained, matched⟩
    exact ⟨[c], others, [], captures, rfl, rfl, ⟨rfl, c, rfl, contained⟩, matched⟩

theorem rounds_character_iff {n : Nat} :
    (Meaning.character set).rounds n before middle behind captures ↔
      middle.length = n ∧ captures = [] ∧ ∀ c ∈ middle, set.contains c.toNat = true := by
  induction n generalizing before middle captures with
  | zero =>
    rw [List.length_eq_zero_iff]
    constructor
    · rintro ⟨rfl, rfl⟩
      exact ⟨rfl, rfl, nofun⟩
    · rintro ⟨rfl, rfl, -⟩
      exact ⟨rfl, rfl⟩
  | succ n ih =>
    constructor
    · rintro ⟨_, rest, _, inRest, rfl, rfl, ⟨rfl, c, rfl, contained⟩, others⟩
      obtain ⟨rfl, rfl, all⟩ := ih.mp others
      exact ⟨rfl, rfl, List.forall_mem_cons.mpr ⟨contained, all⟩⟩
    · rintro ⟨count, rfl, all⟩
      obtain ⟨c, rest, rfl⟩ := List.exists_cons_of_length_eq_add_one count
      obtain ⟨contained, all⟩ := List.forall_mem_cons.mp all
      exact ⟨[c], rest, [], [], rfl, rfl, ⟨rfl, c, rfl, contained⟩,
        ih.mpr ⟨Nat.succ.inj count, rfl, all⟩⟩

/-- A run of characters of a set is captured as it stands. -/
theorem run_andThen_iff :
    (((Meaning.character set).repeated 0 none).captured.andThen rest)
        before middle behind captures ↔
      ∃ run others inOthers, middle = run ++ others ∧ captures = run :: inOthers ∧
        (∀ c ∈ run, set.contains c.toNat = true) ∧
        rest (before ++ run) others behind inOthers := by
  constructor
  · rintro ⟨run, others, _, inOthers, rfl, rfl, ⟨_, ⟨count, -, -, rounds⟩, rfl⟩, matched⟩
    obtain ⟨-, rfl, all⟩ := rounds_character_iff.mp rounds
    exact ⟨run, others, inOthers, rfl, rfl, all, matched⟩
  · rintro ⟨run, others, inOthers, rfl, rfl, all, matched⟩
    have rounds : (Meaning.character set).rounds run.length before run (others ++ behind) [] :=
      rounds_character_iff.mpr ⟨rfl, rfl, all⟩
    exact ⟨run, others, [run], inOthers, rfl, rfl,
      ⟨[], ⟨run.length, Nat.zero_le _, nofun, rounds⟩, rfl⟩, matched⟩

theorem contains_slash_iff {c : Char} :
    (CharSet.singleton 0x2f).contains c.toNat = true ↔ c = '/' := by
  have code : c = '/' ↔ c.toNat = 0x2f := Char.toNat_inj.symm
  simp only [CharSet.contains, CharSet.singleton, CharSet.range, List.any_cons, List.any_nil,
    Bool.or_false, Bool.and_eq_true, decide_eq_true_iff, code]
  omega

theorem contains_others_iff {c : Char} :
    CharSet.contains ⟨[(0, 9), (11, 0xd7ff), (0xe000, 0x10ffff)]⟩ c.toNat = true ↔ c ≠ '\n' := by
  have code : c = '\n' ↔ c.toNat = 10 := Char.toNat_inj.symm
  have valid : c.toNat < 0xd800 ∨ 0xdfff < c.toNat ∧ c.toNat < 0x110000 := c.valid
  simp only [CharSet.contains, List.any_cons, List.any_nil, Bool.or_false, Bool.or_eq_true,
    Bool.and_eq_true, decide_eq_true_iff, ne_eq, code]
  omega

theorem contains_flags_iff {c : Char} :
    CharSet.contains ⟨[(0x67, 0x67), (0x69, 0x69), (0x6d, 0x6d), (0x73, 0x73), (0x75, 0x75),
      (0x79, 0x79)]⟩ c.toNat = true ↔ c ∈ "gimsuy".toList := by
  have codes : c ∈ "gimsuy".toList ↔ c.toNat = 0x67 ∨ c.toNat = 0x69 ∨ c.toNat = 0x6d ∨
      c.toNat = 0x73 ∨ c.toNat = 0x75 ∨ c.toNat = 0x79 := by
    simp [← Char.toNat_inj]
  simp only [CharSet.contains, List.any_cons, List.any_nil, Bool.or_false, Bool.or_eq_true,
    Bool.and_eq_true, decide_eq_true_iff, codes]
  omega

/-- The pattern matches nothing less than a whole source between slashes, and its captures are the
body and the flags. -/
theorem meaning_literalForm_iff :
    literalForm.meaning before middle behind captures ↔
      before = [] ∧ behind = [] ∧
        ∃ body flags, IsLiteral middle body flags ∧ captures = [body, flags] := by
  simp only [literalForm, Expr.meaning, condition_andThen_iff, character_andThen_iff,
    run_andThen_iff, contains_slash_iff, contains_others_iff, contains_flags_iff]
  constructor
  · rintro ⟨start, _, _, rfl, rfl, body, _, _, rfl, rfl, in_body, _, _, rfl, rfl, flags, _, _, rfl,
      rfl, in_flags, rfl, rfl, ending⟩
    obtain rfl : before = [] :=
      List.getLast?_eq_none_iff.mp (Option.isNone_iff_eq_none.mp start)
    obtain rfl : behind = [] := List.head?_eq_none_iff.mp (Option.isNone_iff_eq_none.mp ending)
    rw [List.append_nil]
    exact ⟨rfl, rfl, body, flags, ⟨rfl, fun member => in_body _ member rfl, in_flags⟩, rfl⟩
  · rintro ⟨rfl, rfl, body, flags, ⟨rfl, one_line, are_flags⟩, rfl⟩
    have in_body (c : Char) (member : c ∈ body) : c ≠ '\n' := fun same => one_line (same ▸ member)
    exact ⟨rfl, '/', _, rfl, rfl, body, _, _, rfl, rfl, in_body, '/', _, rfl, rfl, flags, [], [],
      (List.append_nil flags).symm, rfl, are_flags, rfl, rfl, rfl⟩

end Meaning

/-! ### The division of a source -/

section Source

variable {source body flags : List Char} {c : Char}

theorem isFlag_iff : isFlag c = true ↔ c ∈ "gimsuy".toList := by
  rw [isFlag, List.contains_iff_mem]
  rfl

theorem IsLiteral.slash_not_mem (isLiteral : IsLiteral source body flags) : '/' ∉ flags := by
  intro member
  exact absurd (isLiteral.are_flags '/' member) (by decide)

theorem IsLiteral.splitLiteral?_eq (isLiteral : IsLiteral source body flags) :
    splitLiteral? source = some (body, flags) := by
  obtain ⟨rfl, one_line, are_flags⟩ := isLiteral
  have all_flags : ∀ c ∈ flags.reverse, isFlag c = true :=
    fun c member => isFlag_iff.mpr (are_flags c (List.mem_reverse.mp member))
  -- from the end: the flags, the closing slash, and the body
  have reversed : (body ++ '/' :: flags).reverse = flags.reverse ++ '/' :: body.reverse := by simp
  have no_flag : ¬ isFlag '/' = true := by decide
  have rest_of : (body ++ '/' :: flags).reverse.dropWhile isFlag = '/' :: body.reverse := by
    rw [reversed, List.dropWhile_append_of_pos all_flags, List.dropWhile_cons_of_neg no_flag]
  have flags_of : (body ++ '/' :: flags).reverse.takeWhile isFlag = flags.reverse := by
    rw [reversed, List.takeWhile_append_of_pos all_flags, List.takeWhile_cons_of_neg no_flag,
      List.append_nil]
  rw [splitLiteral?, rest_of, flags_of]
  simp [one_line]

theorem IsLiteral.of_splitLiteral? (divided : splitLiteral? source = some (body, flags)) :
    IsLiteral source body flags := by
  unfold splitLiteral? at divided
  split at divided
  · next rest =>
    split at divided
    · next reversed_body reversed =>
      split_ifs at divided with one_line
      cases divided
      have whole := List.takeWhile_append_dropWhile (p := isFlag) (l := rest.reverse)
      have all_flags : ∀ c ∈ rest.reverse.takeWhile isFlag, isFlag c = true :=
        fun c member => List.mem_takeWhile_imp member
      rw [reversed] at whole
      generalize rest.reverse.takeWhile isFlag = flags at whole all_flags ⊢
      obtain rfl : rest = reversed_body.reverse ++ '/' :: flags.reverse := by
        calc rest = (flags ++ '/' :: reversed_body).reverse := by rw [whole, List.reverse_reverse]
          _ = reversed_body.reverse ++ '/' :: flags.reverse := by simp
      exact ⟨rfl, by simpa using one_line,
        fun c member => isFlag_iff.mp (all_flags c (List.mem_reverse.mp member))⟩
    · cases divided
  · cases divided

/-- A source is divided exactly if it is a source between slashes, and in no other way. -/
theorem splitLiteral?_eq_some_iff :
    splitLiteral? source = some (body, flags) ↔ IsLiteral source body flags :=
  ⟨.of_splitLiteral?, IsLiteral.splitLiteral?_eq⟩

theorem splitLiteral?_eq_none_iff :
    splitLiteral? source = none ↔ ∀ body flags, ¬ IsLiteral source body flags := by
  simp only [Option.eq_none_iff_forall_ne_some, Prod.forall, ne_eq, splitLiteral?_eq_some_iff]

theorem IsLiteral.unique {body' flags' : List Char} (isLiteral : IsLiteral source body flags)
    (other : IsLiteral source body' flags') : body' = body ∧ flags' = flags := by
  have same := other.splitLiteral?_eq.symm.trans isLiteral.splitLiteral?_eq
  exact Prod.mk.inj (Option.some.inj same)

/-! ### Compilation -/

/-- The options are those that are among the flags. -/
theorem Reads.ofText_eq (reads : Reads source body flags) :
    Source.ofText source =
      ⟨body, { ignoreCase := decide ('i' ∈ flags), multiLine := decide ('m' ∈ flags),
               dotAll := decide ('s' ∈ flags) }⟩ := by
  cases reads with
  | literal isLiteral =>
    simp only [Source.ofText, isLiteral.splitLiteral?_eq, List.contains_eq_mem]
  | bare not_literal =>
    simp only [Source.ofText, splitLiteral?_eq_none_iff.mpr not_literal]
    rfl

theorem guarded_of_ofText_eq {options : Options} (compiler : Compiler) (template : List Char)
    (parsed : Source.ofText source = ⟨body, options⟩) :
    guarded compiler template source =
      ((compiler options body).map (.guarded template)).mapError (.mk template source) := by
  rw [guarded, parsed]
  cases compiler options body <;> rfl

end Source

/-- The pattern of sources between slashes is found in these sources only, and captures the two
parts that they are divided into, which are the only ones there are. The body is compiled with the
options that are among the flags, and a source that cannot be divided is compiled without options.
Sources with the same body are compiled alike if the same of `i`, `m` and `s` are among their flags:
both are refused for the same reason, or their patterns are found in the same texts. -/
theorem pattern_literals_split (compiler : Compiler) :
    (∃ expr, expression {} "^/(.*)/([gimsuy]*)$".toList = .ok expr ∧
      (∀ text, expr.isFoundIn text = true ↔ ∃ body flags, IsLiteral text body flags) ∧
      ∀ before middle behind captures, expr.meaning before middle behind captures ↔
        before = [] ∧ behind = [] ∧
          ∃ body flags, IsLiteral middle body flags ∧ captures = [body, flags]) ∧
    (∀ source body flags,
      splitLiteral? source = some (body, flags) ↔ IsLiteral source body flags) ∧
    (∀ source body flags, IsLiteral source body flags → '/' ∉ flags ∧
      ∀ body' flags', IsLiteral source body' flags' → body' = body ∧ flags' = flags) ∧
    (∀ template source body flags, IsLiteral source body flags →
      guarded compiler template source =
        ((compiler { ignoreCase := decide ('i' ∈ flags), multiLine := decide ('m' ∈ flags),
                     dotAll := decide ('s' ∈ flags) } body).map (.guarded template)).mapError
          (.mk template source)) ∧
    (∀ template source, (∀ body flags, ¬ IsLiteral source body flags) →
      guarded compiler template source =
        ((compiler {} source).map (.guarded template)).mapError (.mk template source)) ∧
    ∀ template template' source source' body flags flags',
      Reads source body flags → Reads source' body flags' →
      ('i' ∈ flags ↔ 'i' ∈ flags') → ('m' ∈ flags ↔ 'm' ∈ flags') →
      ('s' ∈ flags ↔ 's' ∈ flags') →
        (∃ reason, guarded compiler template source = .error ⟨template, source, reason⟩ ∧
          guarded compiler template' source' = .error ⟨template', source', reason⟩) ∨
        ∃ found found', guarded compiler template source = .ok found ∧
          guarded compiler template' source' = .ok found' ∧
          ∀ text, found.isFoundIn text = found'.isFoundIn text := by
  refine ⟨⟨literalForm, expression_eq_literalForm, fun text => ?_,
      fun before middle behind captures => meaning_literalForm_iff⟩,
    fun source body flags => splitLiteral?_eq_some_iff,
    fun source body flags isLiteral => ⟨isLiteral.slash_not_mem, fun _ _ => isLiteral.unique⟩,
    fun template source body flags isLiteral =>
      guarded_of_ofText_eq compiler template (Reads.literal isLiteral).ofText_eq,
    fun template source not_literal =>
      guarded_of_ofText_eq compiler template (Reads.bare not_literal).ofText_eq,
    ?_⟩
  · rw [Expr.isFoundIn_eq_true_iff]
    simp only [meaning_literalForm_iff]
    constructor
    · rintro ⟨_, middle, _, _, rfl, rfl, rfl, body, flags, isLiteral, rfl⟩
      rw [List.nil_append, List.append_nil]
      exact ⟨body, flags, isLiteral⟩
    · rintro ⟨body, flags, isLiteral⟩
      exact ⟨[], text, [], _, (List.append_nil text).symm, rfl, rfl, body, flags, isLiteral, rfl⟩
  · intro template template' source source' body flags flags' reads reads' same_i same_m same_s
    have given := guarded_of_ofText_eq compiler template reads.ofText_eq
    have given' := guarded_of_ofText_eq compiler template' reads'.ofText_eq
    simp only [same_i, same_m, same_s] at given
    rw [given, given']
    cases compiler _ body with
    | error reason => exact .inl ⟨reason, rfl, rfl⟩
    | ok matcher => exact .inr ⟨_, _, rfl, rfl, fun text => rfl⟩

/-- The body keeps its slash, and of the flags the order and the numbers do not matter. A line feed
in the body leaves the slashes to the pattern. -/
theorem pattern_literals_split_flags_reordered :
    let body := "^a/b$".toList
    let source := "/^a/b$/gm".toList
    let source' := "/^a/b$/mym".toList
    let bare := "/a\nb/m".toList
    IsLiteral source body ['g', 'm'] ∧ IsLiteral source' body ['m', 'y', 'm'] ∧
      (∀ body flags, ¬ IsLiteral bare body flags) ∧
      splitLiteral? source = some (body, ['g', 'm']) ∧ '/' ∉ ['g', 'm'] ∧
      guarded compiler ['A'] source =
        ((compiler { multiLine := true } body).map (.guarded ['A'])).mapError (.mk ['A'] source) ∧
      guarded compiler ['A'] bare =
        ((compiler {} bare).map (.guarded ['A'])).mapError (.mk ['A'] bare) ∧
      ∃ found found', guarded compiler ['A'] source = .ok found ∧
        guarded compiler ['9'] source' = .ok found' ∧
        ∀ text, found.isFoundIn text = found'.isFoundIn text := by
  intro body source source' bare
  obtain ⟨-, divided, whole, with_flags, without, alike⟩ := pattern_literals_split compiler
  have isLiteral : IsLiteral source body ['g', 'm'] := ⟨rfl, by decide, by simp⟩
  have isLiteral' : IsLiteral source' body ['m', 'y', 'm'] := ⟨rfl, by decide, by simp⟩
  have not_literal : ∀ body flags, ¬ IsLiteral bare body flags :=
    splitLiteral?_eq_none_iff.mp (by decide)
  have given := with_flags ['A'] _ _ _ isLiteral
  have options :
      ({ ignoreCase := decide ('i' ∈ ['g', 'm']), multiLine := decide ('m' ∈ ['g', 'm']),
         dotAll := decide ('s' ∈ ['g', 'm']) } : Options) = { multiLine := true } := by
    decide
  rw [options] at given
  have succeeds : (guarded compiler ['A'] source).toOption.isSome = true := by decide +kernel
  refine ⟨isLiteral, isLiteral', not_literal, (divided _ _ _).mpr isLiteral,
    (whole _ _ _ isLiteral).1, given, without ['A'] _ not_literal, ?_⟩
  rcases alike ['A'] ['9'] source source' body _ _ (.literal isLiteral) (.literal isLiteral')
    (by decide) (by decide) (by decide) with ⟨reason, refused, -⟩ | both
  · rw [refused] at succeeds
    cases succeeds
  · exact both

end InputMask.Pattern
