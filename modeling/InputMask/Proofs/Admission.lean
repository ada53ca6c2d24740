import InputMask.Proofs.Gapless
import InputMask.Proofs.Snug
import InputMask.Proofs.Starvation
import Mathlib.Algebra.Ring.Nat

/-!
# Groups as expenses

The guard of a group compares, at each placeholder, the characters left with the mandatory
placeholders ahead. If no placeholder refuses a character, positions do not matter: the characters
beyond those that the mandatory placeholders need are a budget, each group with placeholders costs
as many as it has, and from left to right a group is emitted exactly when the budget covers it. Only
a group at the end of the template that ends in a literal needs a character on top, as the literal
is written only while one is left.

The budget may be negative from the start, and then no group with placeholders is emitted.

## Main definitions

* `Affords`: the budget covers a group
* `budgets`: what is left of the budget in front of each token
* `Passage.spent`: what a token has cost

## Main results

* `fits_iff_affords`: a group fits exactly when the budget covers it
* `Passage.Sound.pay_eq`: after each token the budget is what is left beyond the need
* `IsAlignment.emitted_iff`, `IsAlignment.length_picks`: which groups are emitted, and how many
  characters are taken
* `admission_by_budget`: a template on a raw text of which it refuses no character
-/

namespace InputMask

open Template (mandatory)

/-! ### The budget -/

/-- The last item is a literal. -/
def EndsInLiteral (items : List Slot) : Prop :=
  ∃ c, items.getLast? = some (.literal c)

instance (items : List Slot) : Decidable (EndsInLiteral items) :=
  match last : items.getLast? with
  | some (.literal c) => isTrue ⟨c, last⟩
  | some (.placeholder k) => isFalse fun ⟨c, literal⟩ => by simp [last] at literal
  | none => isFalse fun ⟨c, literal⟩ => by simp [last] at literal

/-- The budget covers the placeholders of a group in front of some tokens. One character more is
needed for a literal at its end that no mandatory placeholder follows. -/
def Affords (spare : Int) (items : List Slot) (others : List Token) : Prop :=
  (slotClasses items).length ≤ spare ∧
    (EndsInLiteral items → mandatory others = 0 → (slotClasses items).length < spare)

instance (spare : Int) (items : List Slot) (others : List Token) :
    Decidable (Affords spare items others) :=
  inferInstanceAs (Decidable (_ ∧ _))

/-- What is left of the budget behind a token in front of others. -/
def Token.pay (spare : Int) (others : List Token) : Token → Int
  | literal _ => spare
  | placeholder _ => spare
  | group items => if Affords spare items others then spare - (slotClasses items).length else spare

/-- What is left of the budget in front of each token. -/
def budgets : Int → List Token → List Int
  | _, [] => []
  | spare, token :: tokens => spare :: budgets (token.pay spare tokens) tokens

/-- The characters that an emitted group takes; other tokens cost nothing. -/
def Passage.spent : Passage → Nat
  | literal _ => 0
  | placeholder _ _ => 0
  | emitted items _ => (slotClasses items).length
  | skipped _ => 0

section Budget

variable {spare : Int} {items : List Slot} {others : List Token}

/-- A group without placeholders costs nothing. -/
theorem pay_group_of_fixed (fixed : slotClasses items = []) :
    (Token.group items).pay spare others = spare := by
  simp [Token.pay, fixed]

theorem pay_le (token : Token) : token.pay spare others ≤ spare := by
  cases token with
  | literal c => exact le_rfl
  | placeholder k => exact le_rfl
  | group items =>
    rw [Token.pay]
    split
    · omega
    · exact le_rfl

/-- The budget never grows. -/
theorem le_of_mem_budgets {tokens : List Token} {left : Int}
    (member : left ∈ budgets spare tokens) : left ≤ spare := by
  induction tokens generalizing spare with
  | nil => cases member
  | cons token tokens ih =>
    obtain rfl | member := List.mem_cons.mp member
    · exact le_rfl
    · exact (ih member).trans (pay_le token)

/-- A group with placeholders costs something. -/
theorem Affords.pos (affords : Affords spare items others) (asking : slotClasses items ≠ []) :
    0 < spare := by
  have cost := List.length_pos_iff.mpr asking
  have covered := affords.1
  omega

end Budget

/-! ### One token -/

section Token

variable {raw : List Char} {next : Nat} {items : List Slot} {others : List Token}
  {passage : Passage}

/-- A group that refuses no character fits exactly when what is left beyond the need covers it. -/
theorem fits_iff_affords (accepting : ∀ k ∈ slotClasses items, ∀ c ∈ raw, k.accepts c = true)
    (asking : slotClasses items ≠ []) (left : next < raw.length) :
    Fits raw (mandatory others) next items ↔
      Affords ((raw.length : Int) - next - mandatory others) items others := by
  have accepting' : ∀ k ∈ slotClasses items, ∀ c ∈ raw.drop next, k.accepts c = true :=
    fun k member c among => accepting k member c (List.mem_of_mem_drop among)
  rw [fits_iff_isSome_fill?_drop, fill?_isSome_iff_of_accepting accepting', List.length_drop]
  constructor
  · rintro ⟨enough, ends⟩
    have covered := enough asking
    refine ⟨by omega, ?_⟩
    rintro ⟨c, last⟩ none_behind
    have more := ends c last
    omega
  · rintro ⟨covered, ends⟩
    refine ⟨fun _ => by omega, fun c last => ?_⟩
    by_cases none_behind : mandatory others = 0
    · have more := ends ⟨c, last⟩ none_behind
      omega
    · omega

theorem Passage.Sound.emitted_iff_fits {ahead : Nat} (sound : passage.Sound raw ahead next)
    (group : passage.token = .group items) :
    (∃ picks, passage = .emitted items picks) ↔ Fits raw ahead next items := by
  cases passage with
  | emitted items' picks =>
    cases group
    exact iff_of_true ⟨picks, rfl⟩ sound.1
  | skipped items' =>
    cases group
    exact iff_of_false (fun ⟨picks, same⟩ => by cases same) sound
  | _ => cases group

/-- A token takes one character if it is a mandatory placeholder, and what it costs if it is a
group. -/
theorem Passage.Sound.length_picks {ahead : Nat} (sound : passage.Sound raw ahead next) :
    passage.picks.length = passage.token.minWidth + passage.spent := by
  cases passage with
  | emitted items taken =>
    have count := congrArg List.length sound.2.1
    rw [List.length_map, List.length_range'] at count
    simpa [picks, token, Token.minWidth, spent] using count
  | _ => rfl

/-- If the budget is what is left beyond the need, it is so again behind the token. -/
theorem Passage.Sound.pay_eq (sound : passage.Sound raw (mandatory others) next)
    (accepting : Position.Accepting ⟨passage.token :: others, raw⟩) (left : next < raw.length) :
    passage.token.pay ((raw.length : Int) - next - mandatory (passage.token :: others)) others =
      (raw.length : Int) - (next + passage.picks.length : Nat) - mandatory others := by
  have size := sound.length_picks
  cases passage with
  | literal c => simp [token, Token.pay, picks]
  | placeholder k pick =>
    simp only [token, Token.pay, picks, mandatory_placeholder, List.length_singleton]
    omega
  | emitted items taken =>
    simp only [token, picks, spent, Token.minWidth, mandatory_group] at accepting size ⊢
    by_cases fixed : slotClasses items = []
    · rw [pay_group_of_fixed fixed, size, fixed, List.length_nil]
      omega
    · have affords := (fits_iff_affords accepting.group fixed left).mp sound.1
      rw [Token.pay, if_pos affords]
      omega
  | skipped items =>
    simp only [token, picks, mandatory_group, List.length_nil] at accepting ⊢
    by_cases fixed : slotClasses items = []
    · rw [pay_group_of_fixed fixed]
      omega
    · have refused := (fits_iff_affords accepting.group fixed left).not.mp sound
      rw [Token.pay, if_neg refused]
      omega

end Token

/-! ### All tokens -/

section Alignment

variable {raw : List Char} {start : Nat} {token : Token} {tokens : List Token}
  {passages : List Passage}

theorem Position.Accepting.tail (accepting : Position.Accepting ⟨token :: tokens, raw⟩) :
    Position.Accepting ⟨tokens, raw⟩ :=
  fun k member => accepting k (placeholders_subset_of_suffix (List.suffix_cons _ _) member)

/-- Where a placeholder accepts whatever is left, only the end of the raw text stops it. -/
theorem Position.Accepting.length_le_of_stuck
    (accepting : Position.Accepting ⟨token :: tokens, raw⟩)
    (stuck : Stuck raw start (token :: tokens)) : raw.length ≤ start := by
  obtain past | ⟨k, rfl, rejected⟩ := stuck
  · exact past
  · by_contra left
    have here := List.getElem?_eq_getElem (Nat.lt_of_not_le left)
    have refused := rejected start _ le_rfl here
    rw [accepting k List.mem_cons_self _ (List.getElem_mem _)] at refused
    cases refused

/-- A placeholder accepts the very next character. -/
theorem Position.Accepting.gapless {passage : Passage} {ahead : Nat}
    (accepting : Position.Accepting ⟨passage.token :: tokens, raw⟩)
    (sound : passage.Sound raw ahead start) : Gapless raw start passage.picks := by
  apply sound.gapless
  intro k c same here
  rw [same] at accepting
  exact accepting k List.mem_cons_self c (List.mem_of_getElem? here)

/-- Of a raw text of which nothing is refused nothing is dropped. -/
theorem IsAlignment.gapless (aligned : IsAlignment raw start tokens passages)
    (accepting : Position.Accepting ⟨tokens, raw⟩) :
    Gapless raw start (passages.flatMap Passage.picks) := by
  induction aligned using IsAlignment.induction with
  | stop start tokens stuck => exact gapless_nil
  | pass start passage tokens passages left sound aligned ih =>
    exact (accepting.gapless sound).append (ih accepting.tail)

/-- A group with placeholders is emitted exactly when the budget in front of it covers it. -/
theorem IsAlignment.emitted_iff (aligned : IsAlignment raw start tokens passages)
    (accepting : Position.Accepting ⟨tokens, raw⟩) {index : Nat} {items : List Slot} {spare : Int}
    (here : tokens[index]? = some (.group items)) (asking : slotClasses items ≠ [])
    (budget : (budgets ((raw.length : Int) - start - mandatory tokens) tokens)[index]? =
      some spare) :
    (∃ picks, passages[index]? = some (.emitted items picks)) ↔
      Affords spare items (tokens.drop (index + 1)) := by
  induction aligned using IsAlignment.induction generalizing index with
  | stop start tokens stuck =>
    cases tokens with
    | nil => cases here
    | cons token tokens =>
      have used := accepting.length_le_of_stuck stuck
      have low := le_of_mem_budgets (List.mem_of_getElem? budget)
      refine iff_of_false (by simp) fun affords => ?_
      have positive := affords.pos asking
      omega
  | pass start passage tokens passages left sound aligned ih =>
    cases index with
    | zero =>
      obtain rfl := Option.some.inj budget
      have group : passage.token = .group items := Option.some.inj here
      rw [group] at accepting ⊢
      simpa [sound.emitted_iff_fits group] using fits_iff_affords accepting.group asking left
    | succ index =>
      have next := (accepting.gapless sound).resume_eq
      rw [budgets, List.getElem?_cons_succ, sound.pay_eq accepting left, ← next] at budget
      exact ih accepting.tail here budget

/-- As many characters are taken as the mandatory placeholders and the emitted groups ask for, or
all that are left if these are fewer. -/
theorem IsAlignment.length_picks (aligned : IsAlignment raw start tokens passages)
    (accepting : Position.Accepting ⟨tokens, raw⟩) :
    (passages.flatMap Passage.picks).length =
      min (raw.length - start) (mandatory tokens + (passages.map Passage.spent).sum) := by
  induction aligned using IsAlignment.induction with
  | stop start tokens stuck =>
    cases tokens with
    | nil => simp
    | cons token tokens =>
      have used := accepting.length_le_of_stuck stuck
      simp [Nat.sub_eq_zero_of_le used]
  | pass start passage tokens passages left sound aligned ih =>
    have gapless := accepting.gapless sound
    have behind := ih accepting.tail
    have size := sound.length_picks
    have taken := congrArg List.length gapless.drop_eq
    rw [gapless.resume_eq] at behind taken
    rw [List.length_append, List.length_map, List.length_drop, List.length_drop] at taken
    rw [List.flatMap_cons, List.length_append, behind, mandatory_cons, List.map_cons,
      List.sum_cons]
    omega

end Alignment

/-! ### Mandatory placeholders -/

section Mandatory

variable {tokens : List Token} {raw : List Char}

/-- Classes that accept every character are filled by any text that is long enough. -/
theorem embeds_iff_of_accepting {ks : List CharClass}
    (accepting : ∀ k ∈ ks, ∀ c ∈ raw, k.accepts c = true) :
    Embeds ks raw ↔ ks.length ≤ raw.length := by
  refine ⟨Embeds.length_le, fun enough => ?_⟩
  have suits := forall₂_accepts_take accepting enough
  exact List.sublistForall₂_iff.mpr ⟨_, suits, List.take_sublist _ _⟩

theorem mem_placeholders_of_mem_classes {k : CharClass} (member : k ∈ classes tokens) :
    k ∈ placeholders tokens := by
  induction tokens with
  | nil => cases member
  | cons token tokens ih =>
    cases token with
    | literal c => exact ih member
    | placeholder l =>
      obtain rfl | member := List.mem_cons.mp member
      · exact List.mem_cons_self
      · exact List.mem_cons_of_mem _ (ih member)
    | group items => exact List.mem_append_right _ (ih member)

/-- If no placeholder refuses a character, it does not matter which characters a group takes, but
only how many it leaves. -/
theorem commitsSpare_of_accepting (accepting : Position.Accepting ⟨tokens, raw⟩) :
    CommitsSpare ⟨tokens, raw⟩ := by
  intro steps items others before cells after walk commit fits
  obtain ⟨passed, behind⟩ := walk.tokens_suffix
  have left := walk.raw_suffix
  cases commit with
  | commit filled =>
    have within := suffix_of_fill? filled
    have accepting' : ∀ k ∈ classes others, ∀ c ∈ after, k.accepts c = true := by
      intro k member c among
      refine accepting k ?_ c (left.subset (within.subset among))
      apply placeholders_subset_of_suffix ((List.suffix_cons _ _).trans walk.tokens_suffix)
      exact mem_placeholders_of_mem_classes member
    obtain ⟨picked, eq, -, -, spared, -⟩ := fill?_eq_some_iff.mp filled
    by_cases none : picked = []
    · rwa [eq, none] at fits
    · rw [embeds_iff_of_accepting accepting', length_classes]
      exact spared none

/-- If no placeholder refuses a character, all mandatory placeholders are filled exactly when there
are enough characters. -/
theorem fills_iff_of_accepting (accepting : Position.Accepting ⟨tokens, raw⟩) :
    Fills tokens raw ↔ mandatory tokens ≤ raw.length := by
  have accepting' : ∀ k ∈ classes tokens, ∀ c ∈ raw, k.accepts c = true :=
    fun k member => accepting k (mem_placeholders_of_mem_classes member)
  have same := fills_iff_embeds (commitsSpare_of_accepting accepting)
  rw [same, embeds_iff_of_accepting accepting', length_classes]

end Mandatory

/-- Let no placeholder of a template refuse a character of the raw text. Then the characters beyond
the least length are a budget: a group with placeholders is emitted exactly when what is left of the
budget in front of it covers it. The characters taken stand at the front, as many as the mandatory
placeholders and the emitted groups ask for, or all; and all mandatory placeholders are filled
unless the raw text is too short. -/
theorem admission_by_budget (text raw : List Char)
    (accepting : Position.Accepting ⟨(Template.ofText text).tokens, raw⟩) :
    ∃ passages, IsAlignment raw 0 (Template.ofText text).tokens passages ∧
      (Template.ofText text).apply raw = written passages ∧
      (∀ (index : Nat) (items : List Slot) (spare : Int),
        (Template.ofText text).tokens[index]? = some (.group items) → slotClasses items ≠ [] →
        (budgets ((raw.length : Int) - (Template.ofText text).minLength)
          (Template.ofText text).tokens)[index]? = some spare →
        ((∃ picks, passages[index]? = some (.emitted items picks)) ↔
          Affords spare items ((Template.ofText text).tokens.drop (index + 1)))) ∧
      ((Template.ofText text).apply raw).unmasked = raw.take
        (min raw.length ((Template.ofText text).minLength + (passages.map Passage.spent).sum)) ∧
      ((Template.ofText text).minLength ≤ raw.length →
        Fills (Template.ofText text).tokens raw) := by
  obtain ⟨passages, aligned, -⟩ := exists_isAlignment raw 0 (Template.ofText text).tokens
  have applied : (Template.ofText text).apply raw = written passages := aligned.applyTokens_eq
  have front := (aligned.gapless accepting).map_char_eq_take
  have size := aligned.length_picks accepting
  rw [minLength_ofText]
  refine ⟨passages, aligned, applied, ?_, ?_, (fills_iff_of_accepting accepting).mpr⟩
  · intro index items spare here asking budget
    exact aligned.emitted_iff accepting here asking (by simpa using budget)
  · -- the characters taken stand at the front, so their number says which they are
    rw [List.drop_zero] at front
    rw [Nat.sub_zero] at size
    rw [applied, ← size]
    exact front

/-- Of the four digits of `1234` the template `[99]9[9-]` needs one and spends two on its first
group. The one that is left is not enough for the second, which ends in a literal. -/
theorem admission_by_budget_four_digits :
    Position.Accepting ⟨(Template.ofText "[99]9[9-]".toList).tokens, "1234".toList⟩ ∧
      budgets (4 - 1) (Template.ofText "[99]9[9-]".toList).tokens = [3, 1, 1] ∧
      ∃ passages, IsAlignment "1234".toList 0 (Template.ofText "[99]9[9-]".toList).tokens passages ∧
        (∃ picks, passages[0]? =
          some (.emitted [.placeholder .digit, .placeholder .digit] picks)) ∧
        (¬ ∃ picks, passages[2]? = some (.emitted [.placeholder .digit, .literal '-'] picks)) ∧
        ((Template.ofText "[99]9[9-]".toList).apply "1234".toList).unmasked = "123".toList ∧
        Fills (Template.ofText "[99]9[9-]".toList).tokens "1234".toList := by
  have accepting : Position.Accepting
      ⟨(Template.ofText "[99]9[9-]".toList).tokens, "1234".toList⟩ := by decide +kernel
  obtain ⟨passages, aligned, -, emitted, -, filled⟩ :=
    admission_by_budget "[99]9[9-]".toList "1234".toList accepting
  have first := emitted 0 [.placeholder .digit, .placeholder .digit] 3 (by decide +kernel)
    (by decide) (by decide +kernel)
  have second := emitted 2 [.placeholder .digit, .literal '-'] 1 (by decide +kernel) (by decide)
    (by decide +kernel)
  refine ⟨accepting, by decide +kernel, passages, aligned, first.mpr ?_, second.not.mpr ?_,
    by decide +kernel, filled (by decide +kernel)⟩
  · decide +kernel
  · decide +kernel

end InputMask
