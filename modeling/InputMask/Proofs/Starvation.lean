import InputMask.Proofs.Greedy
import InputMask.Proofs.Walk

/-!
# When groups starve mandatory placeholders

A group may take a character only while more characters are left than mandatory placeholders
follow. The guard counts characters and does not ask whether they suit those placeholders, so
a group can take the very character that a mandatory placeholder behind it needs: `[A]A9` on
`a12` gives its only letter to the group.

Whether that can happen shows in the template. Counting is enough exactly when each
placeholder of a group has only `*` placeholders behind it, which suit whatever is left, or
accepts nothing that the next mandatory placeholder accepts.

## Main definitions

* `ungrouped`: the tokens that are no groups
* `CountSuffices`: the templates on which the guard protects every mandatory placeholder

## Main results

* `fills_iff_embeds`: unless a committed group takes what is needed behind it, the walk fills
  every mandatory placeholder that some choice of characters can fill
* `fills_ungrouped_imp_fills_iff`: the exact condition, for one value and for a template
-/

namespace InputMask

/-- Whether the token is a group. -/
def Token.isGroup : Token → Bool
  | group _ => true
  | _ => false

/-- The tokens that are no groups. -/
def ungrouped (tokens : List Token) : List Token :=
  tokens.filter (!·.isGroup)

theorem not_mem_ungrouped (items : List Slot) (tokens : List Token) :
    .group items ∉ ungrouped tokens := by
  simp [ungrouped, Token.isGroup]

@[simp] theorem classes_ungrouped (tokens : List Token) :
    classes (ungrouped tokens) = classes tokens := by
  induction tokens with
  | nil => rfl
  | cons token tokens ih =>
    cases token with
    | literal c => exact ih
    | placeholder k => exact congrArg (k :: ·) ih
    | group items => exact ih

/-! ### Walks whose groups take nothing that is needed -/

/-- No group committed from the position on takes a character that the mandatory placeholders
behind it cannot do without. -/
def CommitsSpare (p : Position) : Prop :=
  ∀ steps items tokens before cells after, Walk p steps ⟨.group items :: tokens, before⟩ →
    Move ⟨.group items :: tokens, before⟩ [.group cells] ⟨tokens, after⟩ →
      Embeds (classes tokens) before → Embeds (classes tokens) after

section Walks

variable {p q : Position} {steps : List Step}

theorem CommitsSpare.of_move (spares : CommitsSpare p) (move : Move p steps q) :
    CommitsSpare q :=
  fun _ _ _ _ _ _ walk => spares _ _ _ _ _ _ (.head move walk)

/-- What can still be filled after a move could be filled before it. -/
theorem Move.embeds_of_embeds (move : Move p steps q)
    (fits : Embeds (classes q.tokens) q.raw) : Embeds (classes p.tokens) p.raw := by
  cases move with
  | literal => exact fits
  | take accepted => exact (Embeds.cons_iff_of_accepts accepted).mpr fits
  | drop rejected => exact (Embeds.cons_iff_of_rejects rejected).mpr fits
  | commit filled => exact fits.mono (suffix_of_fill? filled).sublist
  | skip refused => exact fits

/-- While groups take nothing that is needed, a move leaves what can be filled. -/
theorem Move.embeds (move : Move p steps q) (spares : CommitsSpare p)
    (fits : Embeds (classes p.tokens) p.raw) : Embeds (classes q.tokens) q.raw := by
  cases move with
  | literal => exact fits
  | take accepted => exact (Embeds.cons_iff_of_accepts accepted).mp fits
  | drop rejected => exact (Embeds.cons_iff_of_rejects rejected).mp fits
  | commit filled => exact spares _ _ _ _ _ _ (.refl _) (.commit filled) fits
  | skip refused => exact fits

theorem Walk.embeds_of_embeds (walk : Walk p steps q)
    (fits : Embeds (classes q.tokens) q.raw) : Embeds (classes p.tokens) p.raw := by
  induction walk with
  | refl => exact fits
  | head move _ ih => exact move.embeds_of_embeds (ih fits)

theorem Walk.embeds (walk : Walk p steps q) (spares : CommitsSpare p)
    (fits : Embeds (classes p.tokens) p.raw) : Embeds (classes q.tokens) q.raw := by
  induction walk with
  | refl => exact fits
  | head move _ ih => exact ih (spares.of_move move) (move.embeds spares fits)

/-- Where the walk ends, the placeholders that are left can be filled only if there are
none. -/
theorem Position.Ended.fills_iff_embeds (ended : p.Ended) :
    Fills p.tokens p.raw ↔ Embeds (classes p.tokens) p.raw := by
  rw [Fills, ended.align_eq, List.countP_nil, ← length_classes]
  obtain none | none : p.tokens = [] ∨ p.raw = [] := ended
  · simp [none]
  · rw [none]
    cases classes p.tokens <;> simp

/-- What the walk fills can be filled. -/
theorem embeds_of_fills (filled : Fills p.tokens p.raw) :
    Embeds (classes p.tokens) p.raw := by
  obtain ⟨q, ended, walk⟩ := exists_walk_to_end p
  have fits := ended.fills_iff_embeds.mp (walk.fills_iff.mp filled)
  exact walk.embeds_of_embeds fits

/-- While groups take nothing that is needed, every mandatory placeholder is filled that some
choice of characters can fill. -/
theorem fills_iff_embeds (spares : CommitsSpare p) :
    Fills p.tokens p.raw ↔ Embeds (classes p.tokens) p.raw := by
  refine ⟨embeds_of_fills, fun fits => ?_⟩
  obtain ⟨q, ended, walk⟩ := exists_walk_to_end p
  rw [walk.fills_iff, ended.fills_iff_embeds]
  exact walk.embeds spares fits

theorem commitsSpare_ungrouped (tokens : List Token) (raw : List Char) :
    CommitsSpare ⟨ungrouped tokens, raw⟩ := by
  intro steps items rest before cells after walk
  have among : .group items ∈ ungrouped tokens :=
    walk.tokens_suffix.subset (List.mem_cons_self)
  exact absurd among (not_mem_ungrouped items tokens)

theorem fills_ungrouped_iff {tokens : List Token} {raw : List Char} :
    Fills (ungrouped tokens) raw ↔ Embeds (classes tokens) raw := by
  simpa using fills_iff_embeds (commitsSpare_ungrouped tokens raw)

/-- Groups do no harm to one raw text exactly when each committed group leaves what the
mandatory placeholders behind it need. -/
theorem fills_iff_commits_leave {tokens : List Token} {raw : List Char} :
    Fills tokens raw ↔
      Fills (ungrouped tokens) raw ∧
        ∀ steps items rest before cells after,
          Walk ⟨tokens, raw⟩ steps ⟨.group items :: rest, before⟩ →
            Move ⟨.group items :: rest, before⟩ [.group cells] ⟨rest, after⟩ →
              Fills (ungrouped rest) after := by
  simp only [fills_ungrouped_iff]
  constructor
  · intro filled
    refine ⟨embeds_of_fills (p := ⟨tokens, raw⟩) filled, fun _ _ _ _ _ _ walk commit => ?_⟩
    exact embeds_of_fills ((walk.snoc commit).fills_iff.mp filled)
  · rintro ⟨fits, leaves⟩
    refine (fills_iff_embeds (p := ⟨tokens, raw⟩) ?_).mpr fits
    exact fun _ _ _ _ _ _ walk commit _ => leaves _ _ _ _ _ _ walk commit

end Walks

/-! ### Templates on which counting is enough -/

/-- Each placeholder of a group has only `*` placeholders behind it, or accepts nothing that
the next mandatory placeholder accepts. -/
def CountSuffices (tokens : List Token) : Prop :=
  ∀ before items after, tokens = before ++ .group items :: after →
    ∀ k, .placeholder k ∈ items →
      (∀ d ∈ classes after, d = .alphanumeric) ∨
        ∀ d ∈ (classes after).head?, ∀ c, k.accepts c = true → d.accepts c = false

/-- Enough ASCII letters and digits fill any row of `*` placeholders. -/
theorem embeds_of_forall_alphanumeric {ks : List CharClass} {text : List Char}
    (free : ∀ k ∈ ks, k = .alphanumeric) (plain : ∀ c ∈ text, isAlphanumeric c = true)
    (enough : ks.length ≤ text.length) : Embeds ks text := by
  induction ks generalizing text with
  | nil => exact .nil
  | cons k ks ih =>
    obtain rfl : k = .alphanumeric := free k (by simp)
    cases text with
    | nil => simp at enough
    | cons x text =>
      have accepted : CharClass.alphanumeric.accepts x = true := plain x (by simp)
      refine (Embeds.cons_iff_of_accepts accepted).mpr (ih ?_ ?_ ?_)
      · exact fun k member => free k (by simp [member])
      · exact fun c member => plain c (by simp [member])
      · simpa using enough

theorem CountSuffices.commitsSpare {tokens : List Token} {raw : List Char}
    (counts : CountSuffices tokens) (plain : ∀ c ∈ raw, isAlphanumeric c = true) :
    CommitsSpare ⟨tokens, raw⟩ := by
  intro steps items rest before cells after walk commit fits
  obtain ⟨passed, behind⟩ := walk.tokens_suffix
  have left := walk.raw_suffix
  cases commit with
  | commit filled =>
    obtain ⟨picked, eq, -, suits, spared, -⟩ := fill?_eq_some_iff.mp filled
    rw [eq] at fits left
    cases needed : classes rest with
    | nil => exact .nil
    | cons d ds =>
      rw [needed] at fits
      by_cases useless : ∀ x ∈ picked, d.accepts x = false
      · exact (Embeds.append_left_iff_of_rejects useless).mp fits
      · -- the group took something that the next placeholder accepts, so all behind it are `*`
        push Not at useless
        obtain ⟨x, member, accepted⟩ := useless
        obtain ⟨k, asks, suited⟩ := exists_accepts_of_mem suits member
        obtain free | apart := counts _ _ _ behind.symm k (mem_slotClasses.mp asks)
        · rw [← needed]
          refine embeds_of_forall_alphanumeric free (fun c remains => ?_) ?_
          · exact plain c (left.subset (List.mem_append_right _ remains))
          · rw [length_classes]
            exact spared (List.ne_nil_of_mem member)
        · exact absurd (apart d (by simp [needed]) x suited) (by simpa using accepted)

/-! ### A value that starves any other template -/

/-- A character for each class. -/
structure Samples where
  char : CharClass → Char
  accepted : ∀ k : CharClass, k.accepts (char k) = true

namespace Samples

/-- Digits where they will do. -/
def plain : Samples where
  char
    | .digit => '0'
    | .letter => 'a'
    | .alphanumeric => '0'
  accepted k := by cases k <;> decide

/-- Another character for one class. -/
def replace (samples : Samples) (k : CharClass) (c : Char) (accepted : k.accepts c = true) :
    Samples where
  char := Function.update samples.char k c
  accepted d := by
    by_cases same : d = k
    · subst same
      simpa using accepted
    · simpa [same] using samples.accepted d

/-- Characters for all the placeholders among some tokens, those of groups included. -/
def supply (samples : Samples) (tokens : List Token) : List Char :=
  tokens.flatMap fun
    | .literal _ => []
    | .placeholder k => [samples.char k]
    | .group items => (slotClasses items).map samples.char

variable (samples : Samples) (ks : List CharClass) (tokens others : List Token)

@[simp] theorem supply_group (items : List Slot) :
    samples.supply (.group items :: tokens) =
      (slotClasses items).map samples.char ++ samples.supply tokens := rfl

@[simp] theorem supply_append :
    samples.supply (tokens ++ others) = samples.supply tokens ++ samples.supply others :=
  List.flatMap_append

theorem isAlphanumeric_char (k : CharClass) : isAlphanumeric (samples.char k) = true :=
  CharClass.isAlphanumeric_of_accepts (samples.accepted k)

theorem forall₂_map :
    List.Forall₂ (fun k x => k.accepts x = true) ks (ks.map samples.char) := by
  rw [List.forall₂_map_right_iff]
  exact List.forall₂_same.mpr fun k _ => samples.accepted k

theorem embeds_map : Embeds ks (ks.map samples.char) :=
  List.sublistForall₂_iff.mpr ⟨_, samples.forall₂_map ks, .refl _⟩

theorem embeds_supply : Embeds (classes tokens) (samples.supply tokens) := by
  induction tokens with
  | nil => exact .nil
  | cons token tokens ih =>
    cases token with
    | literal c => exact ih
    | placeholder k => exact (Embeds.cons_iff_of_accepts (samples.accepted k)).mpr ih
    | group items => exact ih.mono (List.sublist_append_right _ _)

variable {ks tokens}

theorem isAlphanumeric_of_mem_supply {c : Char} (member : c ∈ samples.supply tokens) :
    isAlphanumeric c = true := by
  obtain ⟨token, -, among⟩ := List.mem_flatMap.mp member
  cases token with
  | literal d => simp at among
  | placeholder k =>
    obtain rfl : c = samples.char k := by simpa using among
    exact samples.isAlphanumeric_char k
  | group items =>
    obtain ⟨k, -, rfl⟩ := List.mem_map.mp among
    exact samples.isAlphanumeric_char k

variable (tokens)

/-- With characters for all its placeholders and enough behind them, the walk passes some
tokens without dropping any. -/
theorem exists_walk_supply {rest : List Token} {raw : List Char} (left : raw ≠ [])
    (enough : Template.mandatory rest ≤ raw.length) :
    ∃ steps, Walk ⟨tokens ++ rest, samples.supply tokens ++ raw⟩ steps ⟨rest, raw⟩ := by
  induction tokens with
  | nil => exact ⟨[], .refl _⟩
  | cons token tokens ih =>
    obtain ⟨steps, walk⟩ := ih
    have later : samples.supply tokens ++ raw ≠ [] := by simp [left]
    cases token with
    | literal c => exact ⟨_, .head (.literal_of_ne_nil later) walk⟩
    | placeholder k => exact ⟨_, .head (.take (samples.accepted k)) walk⟩
    | group items =>
      have spare := (samples.embeds_supply tokens).length_le
      rw [length_classes] at spare
      have filled : fill? (Template.mandatory (tokens ++ rest)) items
          ((slotClasses items).map samples.char ++ (samples.supply tokens ++ raw)) =
            some (cellsOf items ((slotClasses items).map samples.char),
              samples.supply tokens ++ raw) := by
        refine fill?_eq_some_iff.mpr
          ⟨_, rfl, rfl, samples.forall₂_map _, fun _ => ?_, fun _ _ => later⟩
        rw [mandatory_append, List.length_append]
        omega
      rw [supply_group, List.append_assoc]
      exact ⟨_, .head (.commit_of_fill? filled (by simp [left])) walk⟩

end Samples

/-- A class other than `*` rejects some ASCII letter or digit. -/
theorem exists_rejects {k : CharClass} (narrow : k ≠ .alphanumeric) :
    ∃ x, k.accepts x = false ∧ isAlphanumeric x = true := by
  cases k with
  | digit => exact ⟨'a', by decide⟩
  | letter => exact ⟨'0', by decide⟩
  | alphanumeric => exact absurd rfl narrow

/-- A row of placeholders that are not all `*` has a text just long enough that fills all but
the first, and yet not all. Its first character is one that the first placeholder rejects. A `*`,
which rejects none, is set back by one all the same if it takes a sample of the next class. -/
theorem exists_embeds_tail_only {ks : List CharClass} (narrow : ∃ k ∈ ks, k ≠ .alphanumeric) :
    ∃ text, text.length = ks.length ∧ (∀ c ∈ text, isAlphanumeric c = true) ∧
      Embeds ks.tail text ∧ ¬ Embeds ks text := by
  induction ks with
  | nil => simp at narrow
  | cons k ks ih =>
    by_cases any : k = .alphanumeric
    · subst any
      have later : ∃ d ∈ ks, d ≠ .alphanumeric := by simpa using narrow
      obtain ⟨text, length, plain, fits, lacks⟩ := ih later
      cases ks with
      | nil => simp at later
      | cons d ks =>
        have first := Samples.plain.isAlphanumeric_char d
        refine ⟨Samples.plain.char d :: text, by simp [length], ?_, ?_, ?_⟩
        · simpa [first] using plain
        · exact (Embeds.cons_iff_of_accepts (Samples.plain.accepted d)).mpr fits
        · intro whole
          exact lacks ((Embeds.cons_iff_of_accepts (k := .alphanumeric) first).mp whole)
    · obtain ⟨x, rejected, first⟩ := exists_rejects any
      refine ⟨x :: ks.map Samples.plain.char, by simp, ?_, ?_, ?_⟩
      · simpa [first] using fun k _ => Samples.plain.isAlphanumeric_char k
      · exact .cons_right (Samples.plain.embeds_map ks)
      · intro whole
        have long := ((Embeds.cons_iff_of_rejects rejected).mp whole).length_le
        simp only [List.length_cons, List.length_map] at long
        omega

/-- On any other template some value fills every mandatory placeholder without the groups, and
not with them. -/
theorem exists_starved {tokens : List Token} (fails : ¬ CountSuffices tokens) :
    ∃ raw, (∀ c ∈ raw, isAlphanumeric c = true) ∧ Fills (ungrouped tokens) raw ∧
      ¬ Fills tokens raw := by
  simp only [CountSuffices, not_forall, not_or] at fails
  obtain ⟨before, items, after, rfl, k, asks, ⟨e, among, narrow⟩, d, first, c, taken, wanted⟩ :=
    fails
  obtain ⟨text, length, plain, fits, lacks⟩ := exists_embeds_tail_only ⟨e, among, narrow⟩
  obtain ⟨ds, needed⟩ : ∃ ds, classes after = d :: ds := List.head?_eq_some_iff.mp first
  -- the group gets `c`, which the placeholder behind it would have needed
  let samples := Samples.plain.replace k c taken
  have given : c ∈ (slotClasses items).map samples.char :=
    List.mem_map.mpr ⟨k, mem_slotClasses.mpr asks, by simp [samples, Samples.replace]⟩
  refine ⟨samples.supply (before ++ [.group items]) ++ text, fun x member => ?_, ?_, ?_⟩
  · obtain member | member := List.mem_append.mp member
    · exact samples.isAlphanumeric_of_mem_supply member
    · exact plain x member
  · have alone : Embeds [d] [c] :=
      (Embeds.cons_iff_of_accepts (by simpa using wanted)).mpr .nil
    have one : Embeds [d] ((slotClasses items).map samples.char) :=
      alone.mono (List.singleton_sublist.mpr given)
    have rest : Embeds ds text := by simpa [needed] using fits
    have whole := (samples.embeds_supply before).append (one.append rest)
    rw [fills_ungrouped_iff]
    simpa [needed, Samples.supply] using whole
  · have left : text ≠ [] := by
      rintro rfl
      simp [needed] at length
    have enough : Template.mandatory after ≤ text.length := by simp [length]
    obtain ⟨steps, walk⟩ := samples.exists_walk_supply (before ++ [.group items]) left enough
    intro filled
    have behind : Fills after text := walk.fills_iff.mp (by simpa using filled)
    exact lacks (embeds_of_fills (p := ⟨after, text⟩) behind)

/-- Every mandatory placeholder is filled exactly when the walk passes the last one. For each
value, groups leave every mandatory placeholder filled that would be filled without them exactly
when each group that is committed leaves what the placeholders behind it need. A template has this
for all values exactly when counting is enough on it. -/
theorem fills_ungrouped_imp_fills_iff (text : List Char) :
    (∀ tokens raw, Fills tokens raw ↔
      ∃ steps p, Walk ⟨tokens, raw⟩ steps p ∧ Template.mandatory p.tokens = 0) ∧
    (∀ value, Fills (Template.ofText text).tokens (clean value) ↔
      Fills (ungrouped (Template.ofText text).tokens) (clean value) ∧
        ∀ steps items rest before cells after,
          Walk ⟨(Template.ofText text).tokens, clean value⟩ steps ⟨.group items :: rest, before⟩ →
            Move ⟨.group items :: rest, before⟩ [.group cells] ⟨rest, after⟩ →
              Fills (ungrouped rest) after) ∧
    ((∀ value, Fills (ungrouped (Template.ofText text).tokens) (clean value) →
        Fills (Template.ofText text).tokens (clean value)) ↔
      CountSuffices (Template.ofText text).tokens) := by
  refine ⟨fun tokens raw => fills_iff_passes_last, fun value => fills_iff_commits_leave, ?_, ?_⟩
  · intro spared
    by_contra fails
    obtain ⟨raw, plain, fits, starved⟩ := exists_starved fails
    have cleaned : clean raw = raw := List.filter_eq_self.mpr plain
    exact starved (by simpa [cleaned] using spared raw (by simpa [cleaned] using fits))
  · intro counts value fits
    have spares := counts.commitsSpare fun c (member : c ∈ clean value) => (mem_clean.mp member).2
    exact (fills_iff_embeds spares).mpr (fills_ungrouped_iff.mp fits)

/-- The group of `[A]A9` takes the only letter of `a12`. -/
theorem group_takes_needed_letter :
    Fills (ungrouped (Template.ofText "[A]A9".toList).tokens) (clean "a12".toList) ∧
      ¬ Fills (Template.ofText "[A]A9".toList).tokens (clean "a12".toList) := by
  decide +kernel

end InputMask
