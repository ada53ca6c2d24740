import InputMask.Proofs.Capacity
import InputMask.Proofs.TemplateText

/-!
# Templates one behind the other

A template is scanned from its start: an escape, a group or a single character is read at a time,
and the scan goes on behind it. With more text behind, the same is read at each place unless
something is left open there. A backslash at the end would escape the first character of that
text, and a bracket that is not closed would take all in front of the first closing bracket in it
as a group. So the tokens of two templates are those of their texts put together, for every second
one, exactly when the scan of the first never meets such a place.

## Main definitions

* `Scan`, `Scans`: the scan of a template as a transition system
* `IsOpen`: a text that starts with something left open
* `ScansClosed`: the scan never comes to such a text

## Main results

* `Scan.tokens_ofText`, `Scans.tokens_ofText`: what is read is what the template is read as
* `Scan.append`, `Scans.append`: a scan is made again in front of more text
* `ofText_append_iff`: when reading two templates together is reading each of them
-/

namespace InputMask

open Template (ofText)

/-- One step in scanning a template: the tokens read, and the text left behind them. -/
inductive Scan : List Char → List Token → List Char → Prop
  | escape (c : Char) (rest : List Char) : Scan ('\\' :: c :: rest) [.literal c] rest
  | loneEscape : Scan ['\\'] [] []
  | group {body : List Char} (rest : List Char) (inside : ']' ∉ body) :
      Scan ('[' :: (body ++ ']' :: rest)) [.group (body.map Slot.ofChar)] rest
  | unclosed {rest : List Char} (never : ']' ∉ rest) : Scan ('[' :: rest) [.group []] rest
  | plain {c : Char} (rest : List Char) (noEscape : c ≠ '\\') (noGroup : c ≠ '[') :
      Scan (c :: rest) [.ofChar c] rest

/-- Any number of steps, with all the tokens that they read. -/
inductive Scans : List Char → List Token → List Char → Prop
  | refl (text : List Char) : Scans text [] text
  | head {text between rest : List Char} {tokens behind : List Token} :
      Scan text tokens between → Scans between behind rest → Scans text (tokens ++ behind) rest

/-- The text starts with something that is left open: a backslash with nothing to escape, or a
bracket that is not closed. -/
def IsOpen (text : List Char) : Prop :=
  text = ['\\'] ∨ ∃ behind, text = '[' :: behind ∧ ']' ∉ behind

/-- Scanning the text never meets a backslash at its end with nothing to escape, nor a bracket
with no closing bracket after it. -/
def ScansClosed (text : List Char) : Prop :=
  ∀ tokens rest, Scans text tokens rest → ¬ IsOpen rest

variable {text between rest : List Char} {tokens behind : List Token}

/-! ### The scan and the tokens of a template -/

theorem Scan.tokens_ofText (scan : Scan text tokens rest) :
    (ofText text).tokens = tokens ++ (ofText rest).tokens := by
  cases scan with
  | escape c => rw [ofText, Template.tokens_cons, List.singleton_append]
  | loneEscape =>
    rw [ofText, ofText]
    rfl
  | group rest inside =>
    rw [ofText_group (cutGroup?_eq_some_iff.mpr ⟨rfl, inside⟩), Template.tokens_cons,
      List.singleton_append]
  | unclosed never =>
    rw [ofText_unclosed (cutGroup?_eq_none_iff.mpr never), Template.tokens_cons,
      List.singleton_append]
  | plain rest noEscape noGroup =>
    rw [ofText_cons noEscape noGroup, Template.tokens_cons, List.singleton_append]

theorem Scans.tokens_ofText (scans : Scans text tokens rest) :
    (ofText text).tokens = tokens ++ (ofText rest).tokens := by
  induction scans with
  | refl => rfl
  | head scan _ ih => rw [scan.tokens_ofText, ih, List.append_assoc]

theorem Scan.length_lt (scan : Scan text tokens rest) : rest.length < text.length := by
  cases scan <;> simp only [List.length_cons, List.length_append, List.length_nil] <;> omega

/-- As long as text is left the scan goes on. -/
theorem exists_scan (some_left : text ≠ []) : ∃ tokens rest, Scan text tokens rest := by
  obtain ⟨c, rest, rfl⟩ := List.exists_cons_of_ne_nil some_left
  by_cases escape : c = '\\'
  · subst escape
    cases rest with
    | nil => exact ⟨_, _, .loneEscape⟩
    | cons d rest => exact ⟨_, _, .escape d rest⟩
  · by_cases group : c = '['
    · subst group
      by_cases closed : ']' ∈ rest
      · obtain ⟨body, behind, rfl, inside⟩ := List.eq_append_cons_of_mem closed
        exact ⟨_, _, .group behind inside⟩
      · exact ⟨_, _, .unclosed closed⟩
    · exact ⟨_, _, .plain rest escape group⟩

/-- Every template is scanned to its end. -/
theorem exists_scans_to_nil (text : List Char) : ∃ tokens, Scans text tokens [] := by
  by_cases none_left : text = []
  · exact ⟨[], none_left ▸ .refl text⟩
  · obtain ⟨first, rest, scan⟩ := exists_scan none_left
    obtain ⟨behind, scans⟩ := exists_scans_to_nil rest
    exact ⟨_, .head scan scans⟩
termination_by text.length
decreasing_by exact scan.length_lt

/-! ### More text behind -/

/-- Where nothing is left open, the same is read in front of more text. -/
theorem Scan.append (scan : Scan text tokens rest) (closed : ¬ IsOpen text) (more : List Char) :
    Scan (text ++ more) tokens (rest ++ more) := by
  cases scan with
  | escape c => exact .escape c (rest ++ more)
  | loneEscape => exact absurd (Or.inl rfl) closed
  | group rest inside =>
    rw [List.cons_append, List.append_assoc, List.cons_append]
    exact .group (rest ++ more) inside
  | unclosed never => exact absurd (Or.inr ⟨_, rfl, never⟩) closed
  | plain rest noEscape noGroup => exact .plain (rest ++ more) noEscape noGroup

theorem ScansClosed.not_isOpen (closed : ScansClosed text) : ¬ IsOpen text :=
  closed _ _ (.refl text)

/-- Further on the scan meets nothing else. -/
theorem ScansClosed.of_scan (closed : ScansClosed text) (scan : Scan text tokens rest) :
    ScansClosed rest :=
  fun _ _ scans => closed _ _ (.head scan scans)

theorem Scans.append (scans : Scans text tokens rest) (closed : ScansClosed text)
    (more : List Char) : Scans (text ++ more) tokens (rest ++ more) := by
  induction scans with
  | refl => exact .refl _
  | head scan _ ih => exact .head (scan.append closed.not_isOpen more) (ih (closed.of_scan scan))

/-- A text that never leaves anything open keeps its tokens in front of more text. -/
theorem ScansClosed.tokens_ofText_append (closed : ScansClosed text) (more : List Char) :
    (ofText (text ++ more)).tokens = (ofText text).tokens ++ (ofText more).tokens := by
  obtain ⟨tokens, scans⟩ := exists_scans_to_nil text
  have alone := scans.tokens_ofText
  rw [ofText, Template.tokens_empty, List.append_nil] at alone
  rw [(scans.append closed more).tokens_ofText, alone, List.nil_append]

/-- Some text is read otherwise behind what is left open than it is alone. -/
theorem IsOpen.exists_tokens_ne (isOpen : IsOpen text) :
    ∃ more, (ofText (text ++ more)).tokens ≠ (ofText text).tokens ++ (ofText more).tokens := by
  obtain rfl | ⟨behind, rfl, never⟩ := isOpen
  · exact ⟨['9'], by decide +kernel⟩
  · -- with a closing bracket all that stood behind the open one becomes a single group
    refine ⟨[']'], fun same => ?_⟩
    have whole := (Scan.group [] never).tokens_ofText
    have apart := (Scan.unclosed never).tokens_ofText
    have bracket := (Scan.plain (c := ']') [] (by decide) (by decide)).tokens_ofText
    rw [List.cons_append, whole, apart, bracket] at same
    have lengths := congrArg List.length same
    simp at lengths
    omega

/-- Wherever something is left open, some text behind is not read as it is alone. -/
theorem Scans.exists_tokens_ne (scans : Scans text tokens rest) (isOpen : IsOpen rest) :
    ∃ more, (ofText (text ++ more)).tokens ≠ (ofText text).tokens ++ (ofText more).tokens := by
  induction scans with
  | refl => exact isOpen.exists_tokens_ne
  | @head text between rest tokens behind scan _ ih =>
    -- at the first such place, to which the scan comes with any text behind
    by_cases here : IsOpen text
    · exact here.exists_tokens_ne
    · obtain ⟨more, differ⟩ := ih isOpen
      refine ⟨more, fun same => differ ?_⟩
      rw [(scan.append here more).tokens_ofText, scan.tokens_ofText, List.append_assoc] at same
      exact List.append_cancel_left same

/-- Reading a template and any text behind it gives the tokens of the one followed by those of the
other, and the sums of their lengths, if and only if scanning the template never meets a bracket
that is not closed nor a backslash at the end. -/
theorem ofText_append_iff (text : List Char) :
    (∀ more,
      (ofText (text ++ more)).tokens = (ofText text).tokens ++ (ofText more).tokens ∧
      (ofText (text ++ more)).minLength = (ofText text).minLength + (ofText more).minLength ∧
      (ofText (text ++ more)).maxLength = (ofText text).maxLength + (ofText more).maxLength) ↔
    ScansClosed text := by
  constructor
  · intro together tokens rest scans isOpen
    obtain ⟨more, differ⟩ := scans.exists_tokens_ne isOpen
    exact differ (together more).1
  · intro closed more
    have tokens := closed.tokens_ofText_append more
    refine ⟨tokens, ?_, ?_⟩
    · rw [minLength_ofText, minLength_ofText, minLength_ofText, tokens, mandatory_append]
    · rw [maxLength_ofText, maxLength_ofText, maxLength_ofText, tokens, capacity_append]

/-- Behind an open bracket a closing one is not the literal that it is alone. -/
example :
    (ofText "[9".toList).tokens = [.group [], .placeholder .digit] ∧
      (ofText "]".toList).tokens = [.literal ']'] ∧
      (ofText "[9]".toList).tokens = [.group [.placeholder .digit]] := by
  decide +kernel

end InputMask
