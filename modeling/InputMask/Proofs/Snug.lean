import InputMask.Proofs.Capacity
import InputMask.Proofs.Ranking
import InputMask.Proofs.TemplateText

/-!
# Templates that hold what they count

Among alternatives the shortest is chosen that is counted to hold the value. Whether it does
hold it is another matter: literals of a group are counted and take nothing, and a group is
refused when too few characters are left for all of it. For values that every placeholder
accepts, this says which templates hold all that they are counted to hold, and so from which
lists the choice loses nothing.

## Main definitions

* `Position.Accepting`: no placeholder refuses a character
* `Spec.Keeps`: masking takes every character of a value
* `Snug`: groups hold no literal and are not much longer than the groups behind them

## Main results

* `fill?_isSome_iff_of_accepting`: when a group is written that refuses no character
* `takesAll_of_fits`: a snug template takes every text that it is counted to hold
* `exists_not_takesAll`: any other template loses a text that it is counted to hold
* `selection_keeps_of_snug`: the choice of a snug template loses nothing that an alternative
  keeps, and every other template is chosen for some value that it loses
-/

namespace InputMask

/-! ### Values that every placeholder accepts -/

/-- Every placeholder that is left accepts every raw character that is left. -/
def Position.Accepting (p : Position) : Prop :=
  ∀ k ∈ placeholders p.tokens, ∀ c ∈ p.raw, k.accepts c = true

instance (p : Position) : Decidable p.Accepting :=
  have (k : CharClass) : Decidable (∀ c ∈ p.raw, k.accepts c = true) :=
    List.decidableBAll (k.accepts · = true) p.raw
  inferInstanceAs (Decidable (∀ k ∈ placeholders p.tokens, ∀ c ∈ p.raw, k.accepts c = true))

/-- Every raw character that is left will be taken. -/
def Position.TakesAll (p : Position) : Prop :=
  takenBy (align p.tokens p.raw) = p.raw

instance (p : Position) : Decidable p.TakesAll :=
  inferInstanceAs (Decidable (_ = _))

section Accepting

variable {p q : Position} {steps : List Step} {tokens : List Token} {items : List Slot}
  {raw rest : List Char} {ahead : Nat} {cells : List Cell}

theorem forall₂_accepts_take {ks : List CharClass}
    (accepting : ∀ k ∈ ks, ∀ c ∈ raw, k.accepts c = true) (enough : ks.length ≤ raw.length) :
    List.Forall₂ (fun k x => k.accepts x = true) ks (raw.take ks.length) := by
  rw [List.forall₂_iff_zip, List.length_take]
  refine ⟨by omega, fun pair => ?_⟩
  have member := List.of_mem_zip pair
  exact accepting _ member.1 _ (List.mem_of_mem_take member.2)

/-- What a group leaves when it takes a character for each of its placeholders. -/
theorem length_of_fill? (filled : fill? ahead items raw = some (cells, rest)) :
    raw.length = (slotClasses items).length + rest.length := by
  obtain ⟨picked, rfl, -, suits, -, -⟩ := fill?_eq_some_iff.mp filled
  rw [List.length_append, suits.length_eq]

/-- A group that refuses no character is written exactly when the raw text has one for each of
its placeholders, can spare them, and goes on behind them if the group ends in a literal. -/
theorem fill?_isSome_iff_of_accepting
    (accepting : ∀ k ∈ slotClasses items, ∀ c ∈ raw, k.accepts c = true) :
    (fill? ahead items raw).isSome ↔
      (slotClasses items ≠ [] → (slotClasses items).length + ahead ≤ raw.length) ∧
        ∀ c, items.getLast? = some (.literal c) → (slotClasses items).length < raw.length := by
  constructor
  · intro written
    obtain ⟨⟨cells, rest⟩, filled⟩ := Option.isSome_iff_exists.mp written
    have length := length_of_fill? filled
    obtain ⟨picked, -, -, suits, spared, ends⟩ := fill?_eq_some_iff.mp filled
    refine ⟨fun some_class => ?_, fun c last => ?_⟩
    · have some_picked : picked ≠ [] := by
        rintro rfl
        exact some_class (List.forall₂_nil_right_iff.mp suits)
      have enough := spared some_picked
      omega
    · have left := List.length_pos_iff.mpr (ends c last)
      omega
  · rintro ⟨enough, ends⟩
    have within : (slotClasses items).length ≤ raw.length := by
      by_cases none : slotClasses items = []
      · simp [none]
      · exact Nat.le_of_add_right_le (enough none)
    refine Option.isSome_iff_exists.mpr ⟨_, fill?_eq_some_iff.mpr
      ⟨raw.take (slotClasses items).length, (List.take_append_drop _ _).symm, rfl,
        forall₂_accepts_take accepting within, fun some_picked => ?_, fun c last => ?_⟩⟩
    · have some_class : slotClasses items ≠ [] := by
        intro none
        simp [none] at some_picked
      have spared := enough some_class
      rw [List.length_drop]
      omega
    · have left := ends c last
      rw [← List.length_pos_iff, List.length_drop]
      omega

theorem placeholders_subset_of_suffix {others : List Token} (behind : others <:+ tokens) :
    placeholders others ⊆ placeholders tokens :=
  fun _ member => List.mem_flatMap.mpr
    ((List.mem_flatMap.mp member).imp fun _ among => ⟨behind.subset among.1, among.2⟩)

theorem Position.Accepting.of_move (accepting : p.Accepting) (move : Move p steps q) :
    q.Accepting :=
  fun k member c left => accepting k
    (placeholders_subset_of_suffix move.tokens_suffix member) c (move.raw_suffix.subset left)

theorem Position.Accepting.group
    (accepting : Position.Accepting ⟨.group items :: tokens, raw⟩) :
    ∀ k ∈ slotClasses items, ∀ c ∈ raw, k.accepts c = true :=
  fun k member => accepting k (List.mem_append_left _ member)

/-- Where no character is refused, none is dropped. -/
theorem Move.raw_eq (move : Move p steps q) (accepting : p.Accepting) :
    p.raw = takenBy steps ++ q.raw := by
  cases move with
  | drop rejected =>
    have accepted := accepting _ List.mem_cons_self _ List.mem_cons_self
    simp [rejected] at accepted
  | commit filled =>
    obtain ⟨picked, taken, rfl, suits, -, -⟩ := fill?_eq_some_iff.mp filled
    simp [taken, filterMap_taken?_cellsOf suits.length_eq]
  | _ => simp

/-- Whether everything is taken is not decided by a move that drops nothing. -/
theorem Move.takesAll_iff (move : Move p steps q) (accepting : p.Accepting) :
    p.TakesAll ↔ q.TakesAll := by
  rw [Position.TakesAll, Position.TakesAll, move.align_eq, takenBy_append, move.raw_eq accepting,
    List.append_cancel_left_eq]

theorem Position.Ended.takesAll_iff (ended : p.Ended) : p.TakesAll ↔ p.raw = [] := by
  rw [Position.TakesAll, ended.align_eq, takenBy_nil, eq_comm]

/-- A text with more characters than there are placeholders is not taken whole. -/
theorem not_takesAll_of_lt (more : (placeholders p.tokens).length < p.raw.length) :
    ¬ p.TakesAll := by
  intro all
  have bound := length_takenBy_align_le p.tokens p.raw
  rw [all] at bound
  omega

end Accepting

/-! ### Snug templates -/

/-- No group holds a literal, and none has more than one item more than all groups behind it
together. -/
def Snug : List Token → Prop
  | [] => True
  | .literal _ :: tokens => Snug tokens
  | .placeholder _ :: tokens => Snug tokens
  | .group items :: tokens =>
    (∀ item ∈ items, item.placeholder?.isSome) ∧ items.length ≤ groupItems tokens + 1 ∧ Snug tokens

instance Snug.decidable : DecidablePred Snug
  | [] => isTrue trivial
  | .literal _ :: tokens => Snug.decidable tokens
  | .placeholder _ :: tokens => Snug.decidable tokens
  | .group items :: tokens =>
    have : Decidable (Snug tokens) := Snug.decidable tokens
    inferInstanceAs (Decidable ((∀ item ∈ items, item.placeholder?.isSome) ∧
      items.length ≤ groupItems tokens + 1 ∧ Snug tokens))

theorem length_slotClasses_eq_iff {items : List Slot} :
    (slotClasses items).length = items.length ↔ ∀ item ∈ items, item.placeholder?.isSome :=
  List.filterMap_length_eq_length

/-- Items that are all placeholders do not end in a literal. -/
theorem getLast?_ne_literal {items : List Slot}
    (full : ∀ item ∈ items, item.placeholder?.isSome) (c : Char) :
    items.getLast? ≠ some (.literal c) := by
  intro last
  simpa [Slot.placeholder?] using full _ (List.mem_of_getLast? last)

/-- A snug template refuses no character and is counted to hold all that are left. -/
structure Position.Fits (p : Position) : Prop where
  accepting : p.Accepting
  snug : Snug p.tokens
  length_le : p.raw.length ≤ capacity p.tokens

section Snug

variable {p q : Position} {steps : List Step} {tokens : List Token} {items : List Slot}
  {raw : List Char} {ahead : Nat}

/-- A group without literals is written exactly when there is a character for each item and
enough behind them, unless it is empty. -/
theorem fill?_isSome_iff_of_full (full : ∀ item ∈ items, item.placeholder?.isSome)
    (accepting : ∀ k ∈ slotClasses items, ∀ c ∈ raw, k.accepts c = true) :
    (fill? ahead items raw).isSome ↔ items = [] ∨ items.length + ahead ≤ raw.length := by
  have length := length_slotClasses_eq_iff.mpr full
  have none : slotClasses items = [] ↔ items = [] := by
    rw [← List.length_eq_zero_iff, length, List.length_eq_zero_iff]
  rw [fill?_isSome_iff_of_accepting accepting, length, ne_eq, none, imp_iff_not_or, not_not]
  exact and_iff_left fun c last => absurd last (getLast?_ne_literal full c)

theorem Snug.of_move (snug : Snug p.tokens) (move : Move p steps q) : Snug q.tokens := by
  cases move with
  | commit filled => exact snug.2.2
  | skip refused => exact snug.2.2
  | _ => exact snug

/-- A snug template is counted to hold what is left after each move. -/
theorem Move.fits (move : Move p steps q) (fits : p.Fits) : q.Fits := by
  refine ⟨fits.accepting.of_move move, fits.snug.of_move move, ?_⟩
  have counted := fits.length_le
  cases move with
  | literal => simpa [capacity] using counted
  | take accepted =>
    simp only [capacity, mandatory_placeholder, groupItems_placeholder, List.length_cons]
      at counted ⊢
    omega
  | drop rejected =>
    rw [List.length_cons] at counted
    exact Nat.le_of_succ_le counted
  | commit filled =>
    have length := length_of_fill? filled
    rw [length_slotClasses_eq_iff.mpr fits.snug.1] at length
    simp only [capacity, mandatory_group, groupItems_group] at counted ⊢
    omega
  | skip refused =>
    -- too few are left for the whole group, so the groups behind it are large enough
    have short := (fill?_isSome_iff_of_full fits.snug.1 fits.accepting.group).not.mp
      (Option.not_isSome_iff_eq_none.mpr refused)
    have small := fits.snug.2.1
    simp only [not_or] at short
    simp only [capacity] at *
    omega

theorem Walk.fits (walk : Walk p steps q) (fits : p.Fits) : q.Fits := by
  induction walk with
  | refl => exact fits
  | head move _ ih => exact ih (move.fits fits)

theorem Walk.takesAll_iff (walk : Walk p steps q) (accepting : p.Accepting) :
    p.TakesAll ↔ q.TakesAll := by
  induction walk with
  | refl => rfl
  | head move _ ih => rw [move.takesAll_iff accepting, ih (accepting.of_move move)]

/-- A snug template takes every text that it is counted to hold and does not refuse. -/
theorem takesAll_of_fits (fits : p.Fits) : p.TakesAll := by
  obtain ⟨q, ended, walk⟩ := exists_walk_to_end p
  have counted := (walk.fits fits).length_le
  rw [walk.takesAll_iff fits.accepting, ended.takesAll_iff]
  obtain none | none : q.tokens = [] ∨ q.raw = [] := ended
  · simpa [none] using counted
  · exact none

/-- A group without literals that gets enough takes as many characters as it counts. -/
theorem exists_takesAll_group_iff (full : ∀ item ∈ items, item.placeholder?.isSome)
    (accepting : Position.Accepting ⟨.group items :: tokens, raw⟩) (left : raw ≠ [])
    (enough : items.length + Template.mandatory tokens ≤ raw.length) :
    ∃ rest, raw.length = items.length + rest.length ∧ Position.Accepting ⟨tokens, rest⟩ ∧
      (Position.TakesAll ⟨.group items :: tokens, raw⟩ ↔ Position.TakesAll ⟨tokens, rest⟩) := by
  have written := (fill?_isSome_iff_of_full full accepting.group).mpr (.inr enough)
  obtain ⟨⟨cells, rest⟩, filled⟩ := Option.isSome_iff_exists.mp written
  have move := Move.commit_of_fill? filled left
  have length := length_of_fill? filled
  rw [length_slotClasses_eq_iff.mpr full] at length
  exact ⟨rest, length, accepting.of_move move, move.takesAll_iff accepting⟩

/-- A group that is too long is refused when one character more is left than the tokens behind
it can take. -/
theorem not_takesAll_of_long (full : ∀ item ∈ items, item.placeholder?.isSome)
    (long : groupItems tokens + 1 < items.length)
    (accepting : Position.Accepting ⟨.group items :: tokens, raw⟩)
    (more : raw.length = capacity tokens + 1) :
    ¬ Position.TakesAll ⟨.group items :: tokens, raw⟩ := by
  have refused : fill? (Template.mandatory tokens) items raw = none := by
    rw [← Option.not_isSome_iff_eq_none, fill?_isSome_iff_of_full full accepting.group, not_or,
      more, capacity, ← List.length_eq_zero_iff]
    omega
  have few := length_placeholders_le tokens
  obtain ⟨x, raw, rfl⟩ := List.exists_cons_of_length_eq_add_one more
  exact ((Move.skip refused).takesAll_iff accepting).not.mpr
    (not_takesAll_of_lt (by simp only; omega))

/-- For a literal of a group nothing can be taken, although it is counted. -/
theorem not_takesAll_of_literal (literal : ¬ ∀ item ∈ items, item.placeholder?.isSome)
    (counted : raw.length = capacity (.group items :: tokens)) :
    ¬ Position.TakesAll ⟨.group items :: tokens, raw⟩ := by
  have some_literal : (slotClasses items).length < items.length :=
    Nat.lt_of_le_of_ne (length_slotClasses_le items)
      fun same => literal (length_slotClasses_eq_iff.mp same)
  have few := length_placeholders_le tokens
  refine not_takesAll_of_lt ?_
  rw [counted, capacity_cons, Token.maxWidth, placeholders_group, List.length_append]
  omega

/-- A template that is not snug loses every text of some length that it is counted to hold, even
if it refuses no character. -/
theorem exists_not_takesAll (loose : ¬ Snug tokens) :
    ∃ length, Template.mandatory tokens < length ∧ length ≤ capacity tokens ∧
      ∀ raw, raw.length = length → Position.Accepting ⟨tokens, raw⟩ →
        ¬ Position.TakesAll ⟨tokens, raw⟩ := by
  -- the length found behind a token, and what the token takes in front of it
  induction tokens with
  | nil => exact absurd trivial loose
  | cons token tokens ih =>
    cases token with
    | literal c =>
      obtain ⟨length, needed, counted, lost⟩ := ih loose
      refine ⟨length, needed, by simpa [capacity] using counted, fun raw size accepting => ?_⟩
      have left : raw ≠ [] := List.ne_nil_of_length_pos (by omega)
      have move : Move ⟨.literal c :: tokens, raw⟩ [.literal c] ⟨tokens, raw⟩ :=
        .literal_of_ne_nil left
      exact (move.takesAll_iff accepting).not.mpr (lost raw size (accepting.of_move move))
    | placeholder k =>
      obtain ⟨length, needed, counted, lost⟩ := ih loose
      refine ⟨length + 1, by simpa using needed, ?_, fun raw size accepting => ?_⟩
      · rw [capacity_cons, Token.maxWidth]
        omega
      · obtain ⟨x, raw, rfl⟩ := List.exists_cons_of_length_eq_add_one size
        have accepted := accepting k List.mem_cons_self x List.mem_cons_self
        have move : Move ⟨.placeholder k :: tokens, x :: raw⟩ [.taken x] ⟨tokens, raw⟩ :=
          .take accepted
        exact (move.takesAll_iff accepting).not.mpr
          (lost raw (by simpa using size) (accepting.of_move move))
    | group items =>
      by_cases full : ∀ item ∈ items, item.placeholder?.isSome
      · by_cases small : items.length ≤ groupItems tokens + 1
        · obtain ⟨length, needed, counted, lost⟩ := ih fun snug => loose ⟨full, small, snug⟩
          refine ⟨items.length + length, by simp only [mandatory_group]; omega, ?_,
            fun raw size accepting => ?_⟩
          · rw [capacity_cons, Token.maxWidth]
            omega
          · have left : raw ≠ [] := List.ne_nil_of_length_pos (by omega)
            obtain ⟨rest, size', accepting', same⟩ :=
              exists_takesAll_group_iff full accepting left (by omega)
            exact same.not.mpr (lost rest (by omega) accepting')
        · refine ⟨capacity tokens + 1, by simp only [mandatory_group, capacity]; omega, ?_,
            fun raw size accepting => not_takesAll_of_long full (by omega) accepting size⟩
          rw [capacity_cons, Token.maxWidth]
          omega
      · have some_item : 0 < items.length := by
          refine List.length_pos_iff.mpr fun none => full ?_
          simp [none]
        refine ⟨capacity (.group items :: tokens), ?_, le_rfl,
          fun raw size _ => not_takesAll_of_literal full size⟩
        rw [capacity, mandatory_group, groupItems_group]
        omega

end Snug

/-! ### Choosing among alternatives -/

/-- Masking takes every character of the value. -/
def Spec.Keeps (spec : Spec) (value : List Char) : Prop :=
  (spec.mask value).unmasked = value

instance (spec : Spec) (value : List Char) : Decidable (spec.Keeps value) :=
  inferInstanceAs (Decidable (_ = _))

/-- All placeholders, those of groups included, are for digits. -/
def DigitsOnly (tokens : List Token) : Prop :=
  ∀ k ∈ placeholders tokens, k = .digit

instance (tokens : List Token) : Decidable (DigitsOnly tokens) :=
  inferInstanceAs (Decidable (∀ k ∈ placeholders tokens, k = .digit))

section Choice

variable {spec : Spec} {text value : List Char} {texts : List (List Char)} {tokens : List Token}

theorem clean_eq_self_of_digits (numeral : ∀ c ∈ value, isDigit c = true) :
    clean value = value :=
  List.filter_eq_self.mpr fun c member => by simp [isAlphanumeric, numeral c member]

theorem accepting_of_digits (digits : DigitsOnly tokens)
    (numeral : ∀ c ∈ value, isDigit c = true) : Position.Accepting ⟨tokens, value⟩ := by
  intro k member c left
  obtain rfl := digits k member
  exact numeral c left

/-- A value is kept when the chosen template takes all of it. -/
theorem keeps_iff_takesAll (pattern : spec.isNumeric = false) (cleaned : clean value = value) :
    spec.Keeps value ↔
      Position.TakesAll ⟨(Template.ofText (spec.select value).template).tokens, value⟩ := by
  rw [Spec.Keeps, mask_of_isNumeric_eq_false pattern, cleaned, Template.apply,
    unmasked_applyTokens, Position.TakesAll]

/-- An alternative keeps no value that it is not counted to hold. -/
theorem length_le_of_keeps (cleaned : clean value = value)
    (kept : (Spec.single (.literal text)).Keeps value) :
    value.length ≤ (Template.ofText text).maxLength := by
  have all := (keeps_iff_takesAll rfl cleaned).mp kept
  have counted := length_placeholders_le (Template.ofText text).tokens
  rw [maxLength_ofText]
  exact (Nat.not_lt.mp fun more => not_takesAll_of_lt more all).trans counted

/-- A chosen template that is snug and counted to hold a value of digits keeps it. -/
theorem keeps_of_snug (pattern : spec.isNumeric = false)
    (chosen : (spec.select value).template = text)
    (digits : DigitsOnly (Template.ofText text).tokens)
    (numeral : ∀ c ∈ value, isDigit c = true) (snug : Snug (Template.ofText text).tokens)
    (counted : value.length ≤ (Template.ofText text).maxLength) : spec.Keeps value := by
  rw [keeps_iff_takesAll pattern (clean_eq_self_of_digits numeral), chosen]
  exact takesAll_of_fits
    ⟨accepting_of_digits digits numeral, snug, maxLength_ofText text ▸ counted⟩

theorem candidates_map_literal :
    candidates (texts.map .literal) = texts.map Candidate.ofTemplate := by
  simp [candidates, List.filterMap_map, Function.comp_def, Alternative.literal?]

theorem unmatched_map_literal (texts : List (List Char)) (value : List Char) :
    Unmatched (texts.map .literal) value := by
  simp [Unmatched]

/-- If one of some templates is counted to hold the value, so is the one that is chosen. -/
theorem exists_select_byLength (among : text ∈ texts)
    (counted : value.length ≤ (Template.ofText text).maxLength) :
    ∃ chosen ∈ texts, (Spec.alternatives (texts.map .literal)).select value =
      .byLength (.ofTemplate chosen) ∧ value.length ≤ (Template.ofText chosen).maxLength := by
  have holder : Candidate.ofTemplate text ∈ candidates (texts.map .literal) := by
    rw [candidates_map_literal]
    exact List.mem_map_of_mem among
  have ranked := ranked_select (texts.map .literal) value
  generalize (Spec.alternatives (texts.map .literal)).select value = choice at ranked ⊢
  cases ranked with
  | byPattern split found first =>
    have unfound := unmatched_map_literal texts value _ _
      (split ▸ List.mem_append_right _ List.mem_cons_self)
    rw [unfound] at found
    cases found
  | byLength unmatched shortest =>
    obtain ⟨member, counted'⟩ := List.mem_filter.mp (List.argmin_mem shortest)
    rw [candidates_map_literal] at member
    obtain ⟨chosen, here, rfl⟩ := List.mem_map.mp member
    exact ⟨chosen, here, rfl, of_decide_eq_true counted'⟩
  | overflow unmatched short longest =>
    exact absurd counted (Nat.not_le.mpr (short _ holder))
  | nothing unmatched none_left =>
    simp [none_left] at holder

/-- Of two templates the shorter one is chosen that is counted to hold the value. -/
theorem select_of_two (longer : List Char)
    (counted : value.length ≤ (Template.ofText text).maxLength)
    (shorter : (Template.ofText text).maxLength < (Template.ofText longer).maxLength) :
    (Spec.alternatives [.literal text, .literal longer]).select value =
      .byLength (.ofTemplate text) := by
  refine Ranked.select_eq (.byLength (unmatched_map_literal [text, longer] value) ?_)
  have both : candidates [.literal text, .literal longer] =
      [Candidate.ofTemplate text, Candidate.ofTemplate longer] := rfl
  have counted' := Nat.le_of_lt (Nat.lt_of_le_of_lt counted shorter)
  simp [both, Candidate.ofTemplate, counted, counted', List.argmin_cons, Nat.le_of_lt shorter]

theorem tokens_ofText_replicate (count : Nat) :
    (Template.ofText (List.replicate count '9')).tokens =
      List.replicate count (.placeholder .digit) := by
  induction count with
  | zero => simp [Template.ofText, Template.empty]
  | succ count ih =>
    rw [List.replicate_succ, List.replicate_succ, ← ih, ofText_cons (by decide) (by decide)]
    rfl

/-- A run of placeholders for digits is snug, and holds as many as it has. -/
theorem snug_replicate (count : Nat) :
    Snug (List.replicate count (.placeholder .digit)) ∧
      DigitsOnly (List.replicate count (.placeholder .digit)) ∧
      capacity (List.replicate count (.placeholder .digit)) = count := by
  induction count with
  | zero => simp [Snug, DigitsOnly]
  | succ count ih =>
    obtain ⟨snug, digits, counted⟩ := ih
    rw [List.replicate_succ]
    refine ⟨snug, ?_, ?_⟩
    · simpa [DigitsOnly] using digits
    · rw [capacity_cons, counted, Token.maxWidth, Nat.add_comm]

end Choice

/-- Among templates for digits, choosing one that is snug loses no digit of a value that some
alternative keeps whole. Every other template for digits is chosen, beside a run of placeholders,
for a value that the run keeps and the list does not. -/
theorem selection_keeps_of_snug :
    (∀ (texts : List (List Char)) (value : List Char),
      (∀ text ∈ texts, DigitsOnly (Template.ofText text).tokens) →
      (∀ c ∈ value, isDigit c = true) →
      Snug (Template.ofText
        ((Spec.alternatives (texts.map .literal)).select value).template).tokens →
      (∃ text ∈ texts, (Spec.single (.literal text)).Keeps value) →
      (Spec.alternatives (texts.map .literal)).Keeps value) ∧
    ∀ text, DigitsOnly (Template.ofText text).tokens → ¬ Snug (Template.ofText text).tokens →
      ∃ count value, (∀ c ∈ value, isDigit c = true) ∧
        (Spec.single (.literal (List.replicate count '9'))).Keeps value ∧
        ((Spec.alternatives [.literal text, .literal (List.replicate count '9')]).select
          value).template = text ∧
        ¬ (Spec.alternatives [.literal text, .literal (List.replicate count '9')]).Keeps value := by
  refine ⟨fun texts value digits numeral snug ⟨text, among, kept⟩ => ?_,
    fun text digits loose => ?_⟩
  · have counted := length_le_of_keeps (clean_eq_self_of_digits numeral) kept
    obtain ⟨chosen, here, byLength, counted'⟩ := exists_select_byLength among counted
    have template : ((Spec.alternatives (texts.map .literal)).select value).template = chosen := by
      rw [byLength]
      rfl
    exact keeps_of_snug rfl template (digits chosen here) numeral (template ▸ snug) counted'
  · obtain ⟨length, -, counted, lost⟩ := exists_not_takesAll loose
    -- one placeholder more than the template is counted to hold makes the run the longer one
    let count := (Template.ofText text).maxLength + 1
    obtain ⟨snug, digits', size⟩ := snug_replicate count
    rw [← tokens_ofText_replicate] at snug digits' size
    rw [← maxLength_ofText] at counted size
    have numeral : ∀ c ∈ List.replicate length '0', isDigit c = true := by
      intro c member
      rw [List.eq_of_mem_replicate member]
      rfl
    have short : (List.replicate length '0').length ≤ (Template.ofText text).maxLength := by simpa
    have chosen := congrArg Selection.template
      (select_of_two (List.replicate count '9') short (by omega))
    refine ⟨count, List.replicate length '0', numeral, ?_, chosen, fun kept => ?_⟩
    · have alone : ((Spec.single (.literal (List.replicate count '9'))).select
          (List.replicate length '0')).template = List.replicate count '9' := rfl
      exact keeps_of_snug rfl alone digits' numeral snug (by omega)
    · rw [keeps_iff_takesAll rfl (clean_eq_self_of_digits numeral), chosen] at kept
      exact lost _ (by simp) (accepting_of_digits digits numeral) kept

/-- Three digits that `9[9]99` would keep are kept by `[9]99`, which is shorter and snug; `[99]9`
is not snug, as it refuses two digits. -/
theorem selection_keeps_three_digits :
    (Spec.alternatives (["[9]99".toList, "9[9]99".toList].map .literal)).Keeps "123".toList ∧
      ∃ count value, (∀ c ∈ value, isDigit c = true) ∧
        (Spec.single (.literal (List.replicate count '9'))).Keeps value ∧
        ((Spec.alternatives [.literal "[99]9".toList, .literal (List.replicate count '9')]).select
          value).template = "[99]9".toList ∧
        ¬ (Spec.alternatives [.literal "[99]9".toList,
          .literal (List.replicate count '9')]).Keeps value := by
  have chosen : (Spec.alternatives (["[9]99".toList, "9[9]99".toList].map .literal)).select
      "123".toList = .byLength (.ofTemplate "[9]99".toList) :=
    select_of_two _ (by decide +kernel) (by decide +kernel)
  have snug : Snug (Template.ofText ((Spec.alternatives
      (["[9]99".toList, "9[9]99".toList].map .literal)).select "123".toList).template).tokens := by
    rw [chosen]
    decide +kernel
  have numeral : ∀ c ∈ "123".toList, isDigit c = true := List.all_eq_true.mp (by decide)
  exact ⟨selection_keeps_of_snug.1 ["[9]99".toList, "9[9]99".toList] "123".toList
      (by decide +kernel) numeral snug ⟨"9[9]99".toList, by simp, by decide +kernel⟩,
    selection_keeps_of_snug.2 "[99]9".toList (by decide +kernel) (by decide +kernel)⟩

/-- `[--]9` is counted to hold three digits and takes one, and yet is chosen over `9999`. -/
theorem shorter_template_loses_digit :
    (∀ text ∈ ["[--]9".toList, "9999".toList], DigitsOnly (Template.ofText text).tokens) ∧
      (∀ c ∈ "12".toList, isDigit c = true) ∧
      (∃ text ∈ ["[--]9".toList, "9999".toList], (Spec.single (.literal text)).Keeps "12".toList) ∧
      ¬ (Spec.alternatives (["[--]9".toList, "9999".toList].map .literal)).Keeps "12".toList := by
  have chosen : (Spec.alternatives (["[--]9".toList, "9999".toList].map .literal)).select
      "12".toList = .byLength (.ofTemplate "[--]9".toList) :=
    select_of_two _ (by decide +kernel) (by decide +kernel)
  have numeral : ∀ c ∈ "12".toList, isDigit c = true := List.all_eq_true.mp (by decide)
  refine ⟨by decide +kernel, numeral, by decide +kernel, ?_⟩
  rw [keeps_iff_takesAll rfl (by decide), chosen]
  decide +kernel

end InputMask
