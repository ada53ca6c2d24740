import InputMask.Proofs.Capacity
import InputMask.Proofs.NumericLayout
import InputMask.Proofs.Ranking

/-!
# What the log tells about a mask

The template of a list is chosen for a reason that only the log shows: a pattern was found, or the
template is the shortest that holds the value, or none holds it. One event tells the reason, and
the last one which template was applied to which text. What they tell is true: the reason is the
one that the list and the text give, and the lengths reported are those of the template applied
and of the text.

## Main definitions

* `Offers`: there is a template to choose
* `Tells`: the event that is true of the choice of a template

## Main results

* `Ranked.tells`: the declared choice is told as it was made
* `Tells.unique`: nothing else could be told
* `maskEvents_tell_decision`: the whole log of a mask
-/

namespace InputMask

/-- A list offers a template for a text: a pattern is found, or a template has none. -/
def Offers (list : List Alternative) (raw : List Char) : Prop :=
  (∃ template matcher, .guarded template matcher ∈ list ∧ matcher.found raw = true) ∨
    ∃ text, .literal text ∈ list

/-- An event is true of the choice of a template in a list: a pattern was found, or none was and
the text is held by a template without one, or it is held by none of them. -/
inductive Tells (list : List Alternative) (raw template : List Char) : Event → Prop
  | byPattern
      (found : ∃ text matcher, .guarded text matcher ∈ list ∧ matcher.found raw = true) :
      Tells list raw template (.chosenByPattern template)
  | byLength (unmatched : Unmatched list raw)
      (held : ∃ text, .literal text ∈ list ∧ raw.length ≤ (Template.ofText text).maxLength) :
      Tells list raw template
        (.chosenByLength template (Template.ofText template).maxLength raw.length)
  | overflowing (unmatched : Unmatched list raw) (some_literal : ∃ text, .literal text ∈ list)
      (short : ∀ text, .literal text ∈ list → (Template.ofText text).maxLength < raw.length) :
      Tells list raw template
        (.overflowing template (Template.ofText template).maxLength raw.length)

section Choice

variable {list : List Alternative} {raw template : List Char} {choice : Selection}
  {event other : Event}

theorem unmatched_iff :
    Unmatched list raw ↔
      ¬ ∃ text matcher, .guarded text matcher ∈ list ∧ matcher.found raw = true := by
  simp [Unmatched]

theorem candidates_eq_nil_iff : candidates list = [] ↔ ¬ ∃ text, .literal text ∈ list := by
  simp [List.eq_nil_iff_forall_not_mem, mem_candidates_iff]

theorem Tells.offers (tells : Tells list raw template event) : Offers list raw := by
  cases tells with
  | byPattern found => exact .inl found
  | byLength unmatched held =>
    obtain ⟨text, among, -⟩ := held
    exact .inr ⟨text, among⟩
  | overflowing unmatched some_literal short => exact .inr some_literal

/-- The reasons exclude each other. -/
theorem Tells.unique (tells : Tells list raw template event)
    (tells' : Tells list raw template other) : event = other := by
  cases tells with
  | byPattern found =>
    cases tells' with
    | byPattern => rfl
    | byLength unmatched => exact absurd found (unmatched_iff.mp unmatched)
    | overflowing unmatched => exact absurd found (unmatched_iff.mp unmatched)
  | byLength unmatched held =>
    obtain ⟨text, among, enough⟩ := held
    cases tells' with
    | byPattern found => exact absurd found (unmatched_iff.mp unmatched)
    | byLength => rfl
    | overflowing _ _ short => exact absurd enough (Nat.not_le.mpr (short text among))
  | overflowing unmatched some_literal short =>
    cases tells' with
    | byPattern found => exact absurd found (unmatched_iff.mp unmatched)
    | byLength _ held =>
      obtain ⟨text, among, enough⟩ := held
      exact absurd enough (Nat.not_le.mpr (short text among))
    | overflowing => rfl

/-- A choice that was offered is told as it was made. -/
theorem Ranked.tells (ranked : Ranked list raw choice) (offers : Offers list raw) :
    ∃ event, choice.event? raw.length = some event ∧ Tells list raw choice.template event := by
  cases ranked with
  | byPattern split found first =>
    have member := split ▸ List.mem_append_right _ List.mem_cons_self
    exact ⟨_, rfl, .byPattern ⟨_, _, member, found⟩⟩
  | byLength unmatched shortest =>
    obtain ⟨member, counted⟩ := List.mem_filter.mp (List.argmin_mem shortest)
    obtain ⟨text, among, rfl⟩ := mem_candidates_iff.mp member
    exact ⟨_, rfl, .byLength unmatched ⟨text, among, of_decide_eq_true counted⟩⟩
  | overflow unmatched short longest =>
    have member := List.mem_reverse.mp (List.argmax_mem longest)
    obtain ⟨text, among, rfl⟩ := mem_candidates_iff.mp member
    refine ⟨_, rfl, .overflowing unmatched ⟨text, among⟩ fun other among' => ?_⟩
    exact short _ (mem_candidates_iff.mpr ⟨other, among', rfl⟩)
  | nothing unmatched none_left =>
    rcases offers with found | some_literal
    · exact absurd found (unmatched_iff.mp unmatched)
    · exact absurd some_literal (candidates_eq_nil_iff.mp none_left)

/-- Where nothing is offered there is nothing to tell. -/
theorem Ranked.event?_eq_none (ranked : Ranked list raw choice) (nothing : ¬ Offers list raw)
    (length : Nat) : choice.event? length = none := by
  have unmatched := unmatched_iff.mpr fun found => nothing (.inl found)
  have none_left := candidates_eq_nil_iff.mpr fun some_literal => nothing (.inr some_literal)
  have chosen : choice = .only [] :=
    ranked.select_eq.symm.trans (Ranked.nothing unmatched none_left).select_eq
  rw [chosen]
  rfl

/-- A text that is reported to be too long is longer than the template applied holds. -/
theorem Ranked.lt_of_overflowing (ranked : Ranked list raw choice) {maxLength length : Nat}
    (reported : choice.event? raw.length = some (.overflowing template maxLength length)) :
    maxLength < length := by
  cases ranked with
  | overflow unmatched short longest =>
    cases reported
    exact short _ (List.mem_reverse.mp (List.argmax_mem longest))
  | _ => cases reported

/-- The event reported on the choice in a list is the one that is true of it. -/
theorem event?_select_eq_some_iff :
    ((Spec.alternatives list).select raw).event? raw.length = some event ↔
      Tells list raw ((Spec.alternatives list).select raw).template event := by
  have ranked := ranked_select list raw
  constructor
  · intro reported
    by_cases offers : Offers list raw
    · obtain ⟨told, reported', tells⟩ := ranked.tells offers
      rw [reported] at reported'
      exact Option.some.inj reported' ▸ tells
    · rw [ranked.event?_eq_none offers] at reported
      cases reported
  · intro tells
    obtain ⟨told, reported, tells'⟩ := ranked.tells tells.offers
    rw [reported, tells'.unique tells]

theorem isSome_event?_select_iff :
    (((Spec.alternatives list).select raw).event? raw.length).isSome ↔ Offers list raw := by
  have ranked := ranked_select list raw
  constructor
  · intro reported
    by_contra nothing
    rw [ranked.event?_eq_none nothing] at reported
    cases reported
  · intro offers
    obtain ⟨event, reported, -⟩ := ranked.tells offers
    exact Option.isSome_of_eq_some reported

end Choice

/-- A numeric mask reports nothing. Any other mask reports last that a template was applied to the
cleaned value, which is the template that was chosen and that the output comes from. One event
comes before it exactly when the specification is a list that offers a template. It names the
template applied, and it is the one that is true of the choice: a pattern was found; or none was,
and then it gives the greatest length of the template and the length of the text, and says whether
the text is too long for each template without a pattern, the one applied included. -/
theorem maskEvents_tell_decision (spec : Spec) (value : List Char) :
    (spec.isNumeric = true → spec.maskEvents value = []) ∧
    (spec.isNumeric = false → ∃ reason : Option Event,
      let raw := clean value
      let template := (spec.select raw).template
      spec.maskEvents value = reason.toList ++ [.applying template raw] ∧
      spec.mask value = (Template.ofText template).apply raw ∧
      (reason.isSome ↔ ∃ list, spec = .alternatives list ∧ Offers list raw) ∧
      (∀ list event, spec = .alternatives list →
        (reason = some event ↔ Tells list raw template event)) ∧
      ∀ maxLength length, reason = some (.overflowing template maxLength length) →
        maxLength < length) := by
  constructor
  · intro numeric
    cases spec with
    | numeric config =>
      rw [Spec.maskEvents, malformedNumber?_eq_none]
      rfl
    | _ => cases numeric
  · intro pattern
    have masked := mask_of_isNumeric_eq_false pattern value
    cases spec with
    | numeric config => cases pattern
    | single alternative =>
      refine ⟨none, rfl, masked, ⟨nofun, ?_⟩, nofun, nofun⟩
      rintro ⟨list, same, -⟩
      cases same
    | alternatives list =>
      let choice := (Spec.alternatives list).select (clean value)
      refine ⟨choice.event? (clean value).length, rfl, masked, ?_, ?_, ?_⟩
      · rw [isSome_event?_select_iff]
        constructor
        · exact fun offers => ⟨list, rfl, offers⟩
        · rintro ⟨_, same, offers⟩
          cases same
          exact offers
      · rintro _ event same
        cases same
        exact event?_select_eq_some_iff
      · exact fun _ _ reported => (ranked_select list (clean value)).lt_of_overflowing reported

/-- Three digits are too long for two templates, of which the last is applied; the pattern that is
not found has no say. Where it is found its template is applied. A numeric mask of the same value
reports nothing. -/
theorem maskEvents_tell_overflow :
    let list : List Alternative :=
      [.literal "9-9".toList, .guarded "A9".toList ⟨['x'], (·.contains 'x')⟩, .literal "99".toList]
    (Spec.alternatives list).isNumeric = false ∧
      (Spec.alternatives list).maskEvents "1.2.3".toList =
        [.overflowing "99".toList 2 3, .applying "99".toList "123".toList] ∧
      Tells list "123".toList "99".toList (.overflowing "99".toList 2 3) ∧
      (Spec.alternatives list).mask "1.2.3".toList =
        (Template.ofText "99".toList).apply "123".toList ∧
      (Spec.alternatives list).maskEvents "x.1".toList =
        [.chosenByPattern "A9".toList, .applying "A9".toList "x1".toList] ∧
      Tells list "x1".toList "A9".toList (.chosenByPattern "A9".toList) ∧
      (Spec.numeric {}).isNumeric = true ∧ (Spec.numeric {}).maskEvents "1.2.3".toList = [] := by
  intro list
  have pattern : (Spec.alternatives list).isNumeric = false := rfl
  have numeric : (Spec.numeric {}).isNumeric = true := rfl
  have raw : clean "1.2.3".toList = "123".toList := by decide
  have raw' : clean "x.1".toList = "x1".toList := by decide
  have choice : (Spec.alternatives list).select "123".toList = .overflow ⟨"99".toList, 2⟩ :=
    Ranked.select_eq (.overflow (by decide) (by decide +kernel) (by decide +kernel))
  have first : Unmatched [.literal "9-9".toList] "x1".toList := by decide
  have choice' : (Spec.alternatives list).select "x1".toList = .byPattern "A9".toList :=
    Ranked.select_eq (.byPattern rfl (by decide) first)
  have events : (Spec.alternatives list).maskEvents "1.2.3".toList =
      [.overflowing "99".toList 2 3, .applying "99".toList "123".toList] := by
    simp only [Spec.maskEvents, raw, choice]
    rfl
  have events' : (Spec.alternatives list).maskEvents "x.1".toList =
      [.chosenByPattern "A9".toList, .applying "A9".toList "x1".toList] := by
    simp only [Spec.maskEvents, raw', choice']
    rfl
  obtain ⟨reason, log, masked, -, told, -⟩ :=
    (maskEvents_tell_decision (.alternatives list) "1.2.3".toList).2 pattern
  simp only [events, raw, choice] at log masked told
  have reported : reason = some (.overflowing "99".toList 2 3) := by
    cases reason <;> cases log
    rfl
  obtain ⟨reason', log', -, -, told', -⟩ :=
    (maskEvents_tell_decision (.alternatives list) "x.1".toList).2 pattern
  simp only [events', raw', choice'] at log' told'
  have reported' : reason' = some (.chosenByPattern "A9".toList) := by
    cases reason' <;> cases log'
    rfl
  exact ⟨pattern, events, (told list _ rfl).mp reported, masked, events',
    (told' list _ rfl).mp reported', numeric,
    (maskEvents_tell_decision (.numeric {}) "1.2.3".toList).1 numeric⟩

end InputMask
