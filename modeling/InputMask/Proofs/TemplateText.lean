import InputMask.Template
import Mathlib.Data.List.TakeWhile

/-!
# Templates written back

Reading a template forgets which literals were escaped, a backslash at the end and brackets that
were never closed. What is left are tokens, and these can be written back: literals always with a
backslash, groups in brackets and without escapes. The text written stands for its tokens alone,
whatever stands behind it, so reading it gives the tokens again and the same two lengths.

As a group has no escapes, a closing bracket in it would end it, and the characters of the
placeholders would not be read as literals. Nothing else is out of reach: every other list of
tokens is what some template is read as.

## Main definitions

* `Template.ofTokens`: tokens with the lengths that are counted for them

## Main results

* `ofText_write_append`: the text of a token is read as this token, in front of any text
* `ofTokens_tokens_ofText`: the lengths of a template that was read are those of its tokens
* `writable_of_mem_ofText`: the tokens of a template can be written
* `ofText_write_iff`: templates are read again as they were, and which tokens they have
-/

namespace InputMask

/-- Tokens with the lengths that are counted for them. -/
def Template.ofTokens (tokens : List Token) : Template :=
  tokens.foldr Template.cons Template.empty

section Items

variable {c d : Char} {item : Slot} {items : List Slot}

theorem ofPlaceholder?_eq_none_iff :
    CharClass.ofPlaceholder? c = none ↔ c ≠ '9' ∧ c ≠ 'A' ∧ c ≠ '*' := by
  unfold CharClass.ofPlaceholder?
  split <;> simp_all

/-- A character is read as a literal of a group if it stands for no class. -/
theorem Slot.ofChar_eq_literal_iff :
    Slot.ofChar d = .literal c ↔ d = c ∧ CharClass.ofPlaceholder? c = none := by
  unfold Slot.ofChar
  cases isClass : CharClass.ofPlaceholder? d with
  | none =>
    constructor
    · intro same
      cases same
      exact ⟨rfl, isClass⟩
    · rintro ⟨rfl, -⟩
      rfl
  | some k =>
    constructor
    · intro same
      cases same
    · rintro ⟨rfl, plain⟩
      rw [plain] at isClass
      cases isClass

/-- An item is read again from its character, unless it is a literal that stands for a class. -/
theorem Slot.ofChar_char (plain : ∀ c, item = .literal c → CharClass.ofPlaceholder? c = none) :
    Slot.ofChar item.char = item := by
  cases item with
  | literal c => exact Slot.ofChar_eq_literal_iff.mpr ⟨rfl, plain c rfl⟩
  | placeholder k => rw [Slot.char, Slot.ofChar, CharClass.ofPlaceholder?_placeholder]

/-- The literals that no group has. -/
theorem Token.writable_group_iff :
    (Token.group items).Writable ↔ ∀ c ∈ [']', '9', 'A', '*'], Slot.literal c ∉ items := by
  simp only [Token.Writable, ofPlaceholder?_eq_none_iff, List.forall_mem_cons]
  constructor
  · intro writable
    refine ⟨fun among => ?_, fun among => ?_, fun among => ?_, fun among => ?_, nofun⟩
    · exact (writable _ among).1 rfl
    · exact (writable _ among).2.1 rfl
    · exact (writable _ among).2.2.1 rfl
    · exact (writable _ among).2.2.2 rfl
  · rintro ⟨bracket, nine, letter, star, -⟩ c among
    refine ⟨?_, ?_, ?_, ?_⟩
    · rintro rfl
      exact bracket among
    · rintro rfl
      exact nine among
    · rintro rfl
      exact letter among
    · rintro rfl
      exact star among

/-- The items of a group that can be written are read again from their characters. -/
theorem Token.Writable.map_ofChar_map_char (writable : (Token.group items).Writable) :
    (items.map Slot.char).map Slot.ofChar = items := by
  rw [List.map_map]
  calc
    items.map (Slot.ofChar ∘ Slot.char) = items.map id := by
      apply List.map_congr_left
      intro item among
      exact Slot.ofChar_char fun c literal => (writable c (literal ▸ among)).2
    _ = items := List.map_id items

/-- No item of a group that can be written closes it. -/
theorem Token.Writable.not_mem_map_char (writable : (Token.group items).Writable) :
    ']' ∉ items.map Slot.char := by
  intro among
  obtain ⟨item, member, closing⟩ := List.mem_map.mp among
  cases item with
  | literal c => exact (writable c member).1 closing
  | placeholder k => cases k <;> cases closing

end Items

section Cut

variable {text body rest : List Char}

/-- A text is cut at its first closing bracket. -/
theorem cutGroup?_eq_some_iff :
    Template.cutGroup? text = some (body, rest) ↔ text = body ++ ']' :: rest ∧ ']' ∉ body := by
  constructor
  · intro cut
    have whole := List.takeWhile_append_dropWhile (p := (· ≠ ']')) (l := text)
    unfold Template.cutGroup? at cut
    split at cut
    · cases cut
    next c behind dropped =>
      cases cut
      have stops := List.head?_dropWhile_not (· ≠ ']') text
      rw [dropped] at whole stops
      obtain rfl : c = ']' := by simpa using stops
      refine ⟨whole.symm, fun among => ?_⟩
      simpa using List.mem_takeWhile_imp among
  · rintro ⟨rfl, inside⟩
    have before : ∀ c ∈ body, decide (c ≠ ']') = true := by
      intro c among
      exact decide_eq_true fun closing => inside (closing ▸ among)
    rw [Template.cutGroup?, List.dropWhile_append_of_pos before,
      List.takeWhile_append_of_pos before, List.dropWhile_cons_of_neg (by simp),
      List.takeWhile_cons_of_neg (by simp), List.append_nil]

theorem cutGroup?_eq_none_iff : Template.cutGroup? text = none ↔ ']' ∉ text := by
  constructor
  · rintro no_cut among
    obtain ⟨body, behind, rfl, inside⟩ := List.eq_append_cons_of_mem among
    rw [cutGroup?_eq_some_iff.mpr ⟨rfl, inside⟩] at no_cut
    cases no_cut
  · intro never
    rw [Option.eq_none_iff_forall_ne_some]
    rintro ⟨body, rest⟩ cut
    obtain ⟨rfl, -⟩ := cutGroup?_eq_some_iff.mp cut
    simp at never

/-- A character that starts neither an escape nor a group is a token. -/
theorem ofText_cons {c : Char} (noEscape : c ≠ '\\') (noGroup : c ≠ '[') (rest : List Char) :
    Template.ofText (c :: rest) = Template.cons (Token.ofChar c) (Template.ofText rest) := by
  rw [Template.ofText]
  · exact fun escape _ => noEscape escape
  · exact fun _ _ escape _ => noEscape escape
  · exact noGroup

theorem ofText_group (cut : Template.cutGroup? text = some (body, rest)) :
    Template.ofText ('[' :: text) =
      Template.cons (.group (body.map Slot.ofChar)) (Template.ofText rest) := by
  rw [Template.ofText]
  split
  next cut' =>
    rw [cut] at cut'
    cases cut'
    rfl
  next none_cut =>
    rw [cut] at none_cut
    cases none_cut

/-- A bracket that is never closed is a group without items. -/
theorem ofText_unclosed (no_cut : Template.cutGroup? text = none) :
    Template.ofText ('[' :: text) = Template.cons (.group []) (Template.ofText text) := by
  rw [Template.ofText]
  split
  next cut =>
    rw [no_cut] at cut
    cases cut
  next => rfl

end Cut

section Write

variable {token : Token} {tokens : List Token} {text : List Char}

/-- The text of a token is read as this token, in front of any text. -/
theorem ofText_write_append (writable : token.Writable) (rest : List Char) :
    Template.ofText (token.write ++ rest) = Template.cons token (Template.ofText rest) := by
  cases token with
  | literal c =>
    simp only [Token.write, List.cons_append, List.nil_append]
    rw [Template.ofText]
  | placeholder k =>
    have noEscape : k.placeholder ≠ '\\' := by cases k <;> decide
    have noGroup : k.placeholder ≠ '[' := by cases k <;> decide
    have whole := ofText_cons noEscape noGroup rest
    rwa [Token.ofChar, CharClass.ofPlaceholder?_placeholder] at whole
  | group items =>
    have cut := cutGroup?_eq_some_iff.mpr
      (And.intro (rfl : _ = items.map Slot.char ++ ']' :: rest) writable.not_mem_map_char)
    have whole : (Token.group items).write ++ rest =
        '[' :: (items.map Slot.char ++ ']' :: rest) := by
      simp [Token.write]
    rw [whole, ofText_group cut, writable.map_ofChar_map_char]

/-- What tokens are written as is read as these tokens. -/
theorem ofText_write (writable : ∀ token ∈ tokens, token.Writable) :
    Template.ofText (Template.write tokens) = Template.ofTokens tokens := by
  induction tokens with
  | nil =>
    rw [Template.write, List.flatMap_nil, Template.ofText]
    rfl
  | cons token tokens ih =>
    obtain ⟨first, others⟩ := List.forall_mem_cons.mp writable
    rw [Template.write, List.flatMap_cons, ofText_write_append first]
    exact congrArg (Template.cons token) (ih others)

@[simp]
theorem tokens_ofTokens (tokens : List Token) : (Template.ofTokens tokens).tokens = tokens := by
  induction tokens with
  | nil => rfl
  | cons token tokens ih => exact congrArg (token :: ·) ih

/-- The lengths of a template that was read are those that are counted for its tokens. -/
theorem ofTokens_tokens_ofText (text : List Char) :
    Template.ofTokens (Template.ofText text).tokens = Template.ofText text := by
  fun_induction Template.ofText text with
  | case1 => rfl
  | case2 => rfl
  | case3 c rest ih => exact congrArg (Template.cons _) ih
  | case4 rest body rest' cut ih => exact congrArg (Template.cons _) ih
  | case5 rest uncut ih => exact congrArg (Template.cons _) ih
  | case6 c rest _ _ _ ih => exact congrArg (Template.cons _) ih

/-- A token that is read outside groups can be written. -/
theorem writable_ofChar (c : Char) : (Token.ofChar c).Writable := by
  unfold Token.ofChar
  split <;> trivial

/-- A group that is read can be written. -/
theorem writable_group_of_cut {body rest : List Char}
    (cut : Template.cutGroup? text = some (body, rest)) :
    (Token.group (body.map Slot.ofChar)).Writable := by
  obtain ⟨-, inside⟩ := cutGroup?_eq_some_iff.mp cut
  intro c among
  obtain ⟨d, member, literal⟩ := List.mem_map.mp among
  obtain ⟨rfl, plain⟩ := Slot.ofChar_eq_literal_iff.mp literal
  exact ⟨fun closing => inside (closing ▸ member), plain⟩

/-- The tokens of a template can be written. -/
theorem writable_of_mem_ofText (text : List Char) :
    ∀ token ∈ (Template.ofText text).tokens, token.Writable := by
  fun_induction Template.ofText text with
  | case1 => exact nofun
  | case2 => exact nofun
  | case3 c rest ih => exact List.forall_mem_cons.mpr ⟨trivial, ih⟩
  | case4 rest body rest' cut ih =>
    exact List.forall_mem_cons.mpr ⟨writable_group_of_cut cut, ih⟩
  | case5 rest uncut ih =>
    exact List.forall_mem_cons.mpr ⟨nofun, ih⟩
  | case6 c rest _ _ _ ih =>
    exact List.forall_mem_cons.mpr ⟨writable_ofChar c, ih⟩

end Write

/-- What a template is read as is written back to a text that is read as the same template. The
lists of tokens that templates have are those in which no group has a closing bracket or one of
the characters of the placeholders as a literal. -/
theorem ofText_write_iff :
    (∀ text, Template.ofText (Template.write (Template.ofText text).tokens) =
      Template.ofText text) ∧
    ∀ tokens : List Token, (∃ text, (Template.ofText text).tokens = tokens) ↔
      ∀ items, Token.group items ∈ tokens → ∀ c ∈ [']', '9', 'A', '*'], Slot.literal c ∉ items := by
  refine ⟨fun text => ?_, fun tokens => ⟨?_, fun plain => ?_⟩⟩
  · rw [ofText_write (writable_of_mem_ofText text), ofTokens_tokens_ofText]
  · rintro ⟨text, rfl⟩ items among
    exact Token.writable_group_iff.mp (writable_of_mem_ofText text _ among)
  · have writable : ∀ token ∈ tokens, token.Writable := by
      intro token among
      cases token with
      | group items => exact Token.writable_group_iff.mpr (plain items among)
      | _ => trivial
    exact ⟨Template.write tokens, by rw [ofText_write writable, tokens_ofTokens]⟩

end InputMask
