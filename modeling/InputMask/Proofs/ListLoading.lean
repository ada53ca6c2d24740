import InputMask.Proofs.Loading
import InputMask.Proofs.ShapeGrammar

/-!
# Lists of items as alternatives

A list of items is loaded in two phases: first every element must be an item, then the patterns are
compiled in order, up to the first that is refused. Only the patterns of masks can be refused, and
only those that are not empty. Numeric items are dropped, so that they can stand anywhere among the
others.

## Main definitions

* `compiled`: what a compiler makes of the source of a pattern
* `Gives`, `Refused`: the alternative of an item, and why it may be refused
* `Item.Compiles`: the pattern of the item, if it has one, is not refused

## Main results

* `alternativesOf_filter`: numeric items make no difference
* `alternativesOf_eq_ok_iff`, `alternativesOf_eq_error_iff`: the alternatives of a list, and the
  first of its patterns that is refused
* `load_list_of_items`: what is loaded from a list in JSON
-/

namespace InputMask

open Pattern (Compiler InvalidPattern Source)

/-- What a compiler makes of the source of a pattern. -/
def compiled (compiler : Compiler) (source : List Char) : Except (List Char) Matcher :=
  compiler (Source.ofText source).options (Source.ofText source).body

/-- An item that is not numeric gives an alternative: a template with its pattern, or without one if
the pattern is missing, null or empty. -/
inductive Gives (compiler : Compiler) : Item → Alternative → Prop
  | template (template : List Char) : Gives compiler (.template template) (.literal template)
  | absent (template : List Char) : Gives compiler (.guarded template none) (.literal template)
  | empty (template : List Char) : Gives compiler (.guarded template (some [])) (.literal template)
  | guarded {template source : List Char} {matcher : Matcher} (some_pattern : source ≠ [])
      (compiles : compiled compiler source = .ok matcher) :
      Gives compiler (.guarded template (some source)) (.guarded template matcher)

/-- An item is refused for its pattern, with the reason of the compiler. -/
inductive Refused (compiler : Compiler) : Item → InvalidPattern → Prop
  | intro {template source reason : List Char} (some_pattern : source ≠ [])
      (fails : compiled compiler source = .error reason) :
      Refused compiler (.guarded template (some source)) ⟨template, source, reason⟩

/-- The pattern of an item compiles, unless it has none. -/
def Item.Compiles (compiler : Compiler) (item : Item) : Prop :=
  ∀ template source, item = .guarded template (some source) → source ≠ [] →
    ∃ matcher, compiled compiler source = .ok matcher

section Items

variable {compiler : Compiler} {item : Item} {items others : List Item}
  {alternative : Alternative} {list : List Alternative} {invalid : InvalidPattern}

/-! ### One item -/

theorem guarded_eq (compiler : Compiler) (template source : List Char) :
    Pattern.guarded compiler template source =
      match compiled compiler source with
      | .ok matcher => .ok (.guarded template matcher)
      | .error reason => .error ⟨template, source, reason⟩ :=
  rfl

/-- A pattern that is not empty is compiled. -/
theorem alternative?_guarded {template source : List Char} (some_pattern : source ≠ []) :
    (Item.guarded template (some source)).alternative? compiler =
      (Pattern.guarded compiler template source).map some := by
  obtain ⟨c, source, rfl⟩ := List.exists_cons_of_ne_nil some_pattern
  rfl

theorem alternative?_of_numeric (numeric : Spec.isNumericItem item = true) :
    item.alternative? compiler = .ok none := by
  cases item with
  | numeric config => rfl
  | _ => cases numeric

theorem Gives.alternative?_eq (gives : Gives compiler item alternative) :
    item.alternative? compiler = .ok (some alternative) := by
  cases gives with
  | guarded some_pattern compiles =>
    rw [alternative?_guarded some_pattern, guarded_eq, compiles]
    rfl
  | _ => rfl

theorem Refused.alternative?_eq (refused : Refused compiler item invalid) :
    item.alternative? compiler = .error invalid := by
  obtain ⟨some_pattern, fails⟩ := refused
  rw [alternative?_guarded some_pattern, guarded_eq, fails]
  rfl

/-- An item is numeric, gives an alternative or is refused. -/
theorem numeric_or_gives_or_refused (compiler : Compiler) (item : Item) :
    Spec.isNumericItem item = true ∨ (∃ alternative, Gives compiler item alternative) ∨
      ∃ invalid, Refused compiler item invalid := by
  match item with
  | .numeric config => exact .inl rfl
  | .template template => exact .inr (.inl ⟨_, .template template⟩)
  | .guarded template none => exact .inr (.inl ⟨_, .absent template⟩)
  | .guarded template (some source) =>
    by_cases none_left : source = []
    · subst none_left
      exact .inr (.inl ⟨_, .empty template⟩)
    · cases result : compiled compiler source with
      | ok matcher => exact .inr (.inl ⟨_, .guarded none_left result⟩)
      | error reason => exact .inr (.inr ⟨_, .intro none_left result⟩)

theorem Gives.not_numeric (gives : Gives compiler item alternative) :
    Spec.isNumericItem item = false := by
  cases gives <;> rfl

theorem Refused.not_numeric (refused : Refused compiler item invalid) :
    Spec.isNumericItem item = false := by
  cases refused
  rfl

theorem Refused.not_compiles (refused : Refused compiler item invalid) :
    ¬ item.Compiles compiler := by
  intro compiles
  obtain ⟨some_pattern, fails⟩ := refused
  obtain ⟨matcher, compiles⟩ := compiles _ _ rfl some_pattern
  cases fails.symm.trans compiles

theorem Gives.compiles (gives : Gives compiler item alternative) : item.Compiles compiler := by
  rintro template source rfl some_pattern
  cases gives with
  | empty => contradiction
  | guarded _ compiles => exact ⟨_, compiles⟩

theorem compiles_of_numeric (numeric : Spec.isNumericItem item = true) :
    item.Compiles compiler := by
  rintro template source rfl
  cases numeric

theorem alternative?_eq_error_iff :
    item.alternative? compiler = .error invalid ↔ Refused compiler item invalid := by
  constructor
  · intro failed
    rcases numeric_or_gives_or_refused compiler item with numeric | ⟨_, gives⟩ | ⟨_, refused⟩
    · cases failed.symm.trans (alternative?_of_numeric numeric)
    · cases failed.symm.trans gives.alternative?_eq
    · cases failed.symm.trans refused.alternative?_eq
      exact refused
  · exact Refused.alternative?_eq

/-- Nothing but the pattern of an item is in its way. -/
theorem exists_alternative?_eq_ok_iff :
    (∃ found, item.alternative? compiler = .ok found) ↔ item.Compiles compiler := by
  rcases numeric_or_gives_or_refused compiler item with numeric | ⟨_, gives⟩ | ⟨_, refused⟩
  · exact iff_of_true ⟨_, alternative?_of_numeric numeric⟩ (compiles_of_numeric numeric)
  · exact iff_of_true ⟨_, gives.alternative?_eq⟩ gives.compiles
  · refine iff_of_false ?_ refused.not_compiles
    rintro ⟨found, given⟩
    cases given.symm.trans refused.alternative?_eq

/-! ### Lists of items -/

theorem alternativesOf_cons_of_numeric (numeric : Spec.isNumericItem item = true) :
    Spec.alternativesOf compiler (item :: items) = Spec.alternativesOf compiler items := by
  rw [Spec.alternativesOf, Spec.alternativesOf, List.mapM_cons, alternative?_of_numeric numeric]
  cases items.mapM (Item.alternative? compiler) <;> rfl

theorem Gives.alternativesOf_cons (gives : Gives compiler item alternative) :
    Spec.alternativesOf compiler (item :: items) =
      (Spec.alternativesOf compiler items).map (alternative :: ·) := by
  rw [Spec.alternativesOf, Spec.alternativesOf, List.mapM_cons, gives.alternative?_eq]
  cases items.mapM (Item.alternative? compiler) <;> rfl

theorem Refused.alternativesOf_cons (refused : Refused compiler item invalid) :
    Spec.alternativesOf compiler (item :: items) = .error invalid := by
  rw [Spec.alternativesOf, List.mapM_cons, refused.alternative?_eq]
  rfl

/-- Numeric items make no difference to the alternatives, nor to the pattern that is refused. -/
theorem alternativesOf_filter (compiler : Compiler) (items : List Item) :
    Spec.alternativesOf compiler (items.filter (!Spec.isNumericItem ·)) =
      Spec.alternativesOf compiler items := by
  induction items with
  | nil => rfl
  | cons item items ih =>
    rcases numeric_or_gives_or_refused compiler item with numeric | ⟨_, gives⟩ | ⟨_, refused⟩
    · rw [List.filter_cons_of_neg (by simp [numeric]), alternativesOf_cons_of_numeric numeric, ih]
    · rw [List.filter_cons_of_pos (by simp [gives.not_numeric]), gives.alternativesOf_cons,
        gives.alternativesOf_cons, ih]
    · rw [List.filter_cons_of_pos (by simp [refused.not_numeric]), refused.alternativesOf_cons,
        refused.alternativesOf_cons]

theorem alternativesOf_congr
    (same : others.filter (!Spec.isNumericItem ·) = items.filter (!Spec.isNumericItem ·)) :
    Spec.alternativesOf compiler others = Spec.alternativesOf compiler items := by
  rw [← alternativesOf_filter compiler others, same, alternativesOf_filter]

/-- The alternatives of a list are those of its items, in their order. -/
theorem alternativesOf_eq_ok_iff :
    Spec.alternativesOf compiler items = .ok list ↔
      List.Forall₂ (Gives compiler) (items.filter (!Spec.isNumericItem ·)) list := by
  induction items generalizing list with
  | nil =>
    rw [List.filter_nil, List.forall₂_nil_left_iff]
    exact ⟨fun same => (Except.ok.inj same).symm, fun none_left => none_left ▸ rfl⟩
  | cons item items ih =>
    rcases numeric_or_gives_or_refused compiler item with numeric | ⟨_, gives⟩ | ⟨_, refused⟩
    · rw [List.filter_cons_of_neg (by simp [numeric]), alternativesOf_cons_of_numeric numeric, ih]
    · rw [List.filter_cons_of_pos (by simp [gives.not_numeric]), gives.alternativesOf_cons,
        List.forall₂_cons_left_iff]
      constructor
      · intro given
        cases behind : Spec.alternativesOf compiler items with
        | error invalid =>
          rw [behind] at given
          cases given
        | ok list =>
          rw [behind] at given
          cases given
          exact ⟨_, _, gives, ih.mp behind, rfl⟩
      · rintro ⟨alternative, list, gives', each, rfl⟩
        have same := gives.alternative?_eq.symm.trans gives'.alternative?_eq
        rw [ih.mpr each]
        cases same
        rfl
    · rw [List.filter_cons_of_pos (by simp [refused.not_numeric]), refused.alternativesOf_cons,
        List.forall₂_cons_left_iff]
      refine iff_of_false nofun ?_
      rintro ⟨alternative, list, gives, -, -⟩
      cases refused.alternative?_eq.symm.trans gives.alternative?_eq

/-- A list fails for the first of its patterns that is refused. -/
theorem alternativesOf_eq_error_iff :
    Spec.alternativesOf compiler items = .error invalid ↔
      ∃ before item behind, items = before ++ item :: behind ∧
        (∀ other ∈ before, other.Compiles compiler) ∧ Refused compiler item invalid := by
  have mapped : Spec.alternativesOf compiler items = .error invalid ↔
      items.mapM (Item.alternative? compiler) = .error invalid := by
    rw [Spec.alternativesOf]
    cases items.mapM (Item.alternative? compiler) with
    | error other => exact ⟨fun failed => by cases failed; rfl, fun failed => by cases failed; rfl⟩
    | ok found => exact ⟨nofun, nofun⟩
  simp only [mapped, mapM_eq_error_iff, exists_alternative?_eq_ok_iff, alternative?_eq_error_iff]

theorem exists_alternativesOf_eq_ok_iff :
    (∃ list, Spec.alternativesOf compiler items = .ok list) ↔
      ∀ item ∈ items, item.Compiles compiler := by
  cases result : Spec.alternativesOf compiler items with
  | ok list =>
    refine iff_of_true ⟨list, rfl⟩ fun item member => ?_
    cases numeric : Spec.isNumericItem item with
    | true => exact compiles_of_numeric numeric
    | false =>
      have each := alternativesOf_eq_ok_iff.mp result
      have kept : item ∈ items.filter (!Spec.isNumericItem ·) :=
        List.mem_filter.mpr ⟨member, by simp [numeric]⟩
      have all_compile : ∀ item ∈ items.filter (!Spec.isNumericItem ·), item.Compiles compiler :=
        ((List.forall₂_and_left _ _).mp (each.imp fun _ _ gives => ⟨gives.compiles, gives⟩)).1
      exact all_compile item kept
  | error invalid =>
    refine iff_of_false nofun fun all_compile => ?_
    obtain ⟨before, item, behind, split, -, refused⟩ := alternativesOf_eq_error_iff.mp result
    exact refused.not_compiles
      (all_compile item (split ▸ List.mem_append_right _ List.mem_cons_self))

end Items

/-! ### Lists in texts -/

section Texts

variable {text : List Char} {values : List Json} {items : List Item}

theorem bounded_of_read {json : Json} (read : Json.read text = .ok json) : json.Bounded := by
  obtain ⟨rest, front, -⟩ := Json.read_eq_ok_iff.mp read
  exact Json.bounded_of_readPrefixed front

/-- A list of items has the shape of a list. -/
theorem shapeOf_eq_list (read : Json.read text = .ok (.array values))
    (each : List.Forall₂ IsItem values items) : Spec.shapeOf text = .ok (.list items) :=
  shapeOf_eq_ok read ((Shape.ofJson?_eq_some_iff (bounded_of_read read)).mpr (.list each))

end Texts

/-- A list of items is loaded exactly when each of its patterns compiles, and then it has the
alternatives of its items in their order, without those that are numeric. Otherwise it fails for
the first pattern that is refused. Lists that differ in numeric items only are loaded alike. A list
that is no specification is refused as such, whatever its patterns are. -/
theorem load_list_of_items (compiler : Compiler) :
    (∀ (text : List Char) (values : List Json) (items : List Item),
      Json.read text = .ok (.array values) → List.Forall₂ IsItem values items →
        ((∃ loaded, Spec.load compiler text = .ok loaded) ↔
          ∀ item ∈ items, item.Compiles compiler) ∧
        (∀ spec events, Spec.load compiler text = .ok (spec, events) →
          ∃ list, spec = .alternatives list ∧
            List.Forall₂ (Gives compiler) (items.filter (!Spec.isNumericItem ·)) list) ∧
        (∀ error, Spec.load compiler text = .error error →
          ∃ before item behind invalid, items = before ++ item :: behind ∧
            (∀ other ∈ before, other.Compiles compiler) ∧ Refused compiler item invalid ∧
            error = .invalidPattern invalid) ∧
        ∀ (text' : List Char) (values' : List Json) (items' : List Item),
          Json.read text' = .ok (.array values') → List.Forall₂ IsItem values' items' →
          items'.filter (!Spec.isNumericItem ·) = items.filter (!Spec.isNumericItem ·) →
            (Spec.load compiler text').map Prod.fst = (Spec.load compiler text).map Prod.fst) ∧
    ∀ (text : List Char) (values : List Json), Json.read text = .ok (.array values) →
      (∀ shape, ¬ IsShape (.array values) shape) →
        Spec.load compiler text = .error (.invalidSpec noShapeFits) := by
  constructor
  · intro text values items read each
    have loaded := load_eq_alternatives compiler (shapeOf_eq_list read each)
    refine ⟨?_, ?_, ?_, ?_⟩
    · rw [← exists_alternativesOf_eq_ok_iff, loaded]
      cases Spec.alternativesOf compiler items with
      | ok list => exact iff_of_true ⟨_, rfl⟩ ⟨_, rfl⟩
      | error invalid => exact iff_of_false nofun nofun
    · intro spec events succeeded
      cases result : Spec.alternativesOf compiler items with
      | ok list =>
        rw [loaded, result] at succeeded
        cases succeeded
        exact ⟨list, rfl, alternativesOf_eq_ok_iff.mp result⟩
      | error invalid =>
        rw [loaded, result] at succeeded
        cases succeeded
    · intro error failed
      cases result : Spec.alternativesOf compiler items with
      | ok list =>
        rw [loaded, result] at failed
        cases failed
      | error invalid =>
        rw [loaded, result] at failed
        cases failed
        obtain ⟨before, item, behind, split, compile, refused⟩ :=
          alternativesOf_eq_error_iff.mp result
        exact ⟨before, item, behind, invalid, split, compile, refused, rfl⟩
    · intro text' values' items' read' each' same
      rw [loaded, load_eq_alternatives compiler (shapeOf_eq_list read' each'),
        alternativesOf_congr same]
      cases Spec.alternativesOf compiler items <;> rfl
  · intro text values read no_shape
    refine load_eq_noShapeFits read (Option.eq_none_iff_forall_ne_some.mpr fun shape fits => ?_)
    exact no_shape shape ((Shape.ofJson?_eq_some_iff (bounded_of_read read)).mp fits)

/-- A template and a mask with a pattern are loaded alike with settings between them and without.
With a number behind it, a pattern that does not compile is never looked at. -/
theorem load_list_of_items_settings_between :
    let mask (source : String) := Json.ofMembers [("mask", .text "A"), ("regex", .text source)]
    let values := [.text "9", .object [], mask "^A"]
    let items : List Item := [.template ['9'], .numeric {}, .guarded ['A'] (some "^A".toList)]
    let plain := [.text "9", mask "^A"]
    let faulty := [mask "(", .null]
    Json.read (Json.array values).write = .ok (.array values) ∧ List.Forall₂ IsItem values items ∧
      (∃ matcher events, Spec.load Pattern.compiler (Json.array values).write =
        .ok (.alternatives [.literal ['9'], .guarded ['A'] matcher], events)) ∧
      (Spec.load Pattern.compiler (Json.array plain).write).map Prod.fst =
        (Spec.load Pattern.compiler (Json.array values).write).map Prod.fst ∧
      (∀ shape, ¬ IsShape (.array faulty) shape) ∧
      Spec.load Pattern.compiler (Json.array faulty).write = .error (.invalidSpec noShapeFits) := by
  intro mask values items plain faulty
  have exact_mask (source : String) : (mask source).Exact 126 := by
    refine .object ?_
    simp only [List.map_cons, List.map_nil, List.forall_mem_cons]
    exact ⟨.string _, .string _, nofun⟩
  have read : Json.read (Json.array values).write = .ok (.array values) := by
    refine Json.read_write (.array ?_)
    simp only [values, List.forall_mem_cons]
    exact ⟨.string _, .object nofun, exact_mask _, nofun⟩
  have read_plain : Json.read (Json.array plain).write = .ok (.array plain) := by
    refine Json.read_write (.array ?_)
    simp only [plain, List.forall_mem_cons]
    exact ⟨.string _, exact_mask _, nofun⟩
  have read_faulty : Json.read (Json.array faulty).write = .ok (.array faulty) := by
    refine Json.read_write (.array ?_)
    simp only [faulty, List.forall_mem_cons]
    exact ⟨exact_mask _, .null, nofun⟩
  have isItem {value : Json} {item : Item} (member : value ∈ values)
      (fits : Item.ofJson? value = some item) : IsItem value item :=
    (Item.ofJson?_eq_some_iff ((bounded_of_read read).of_array value member)).mp fits
  have settings : IsItem (.object []) (.numeric {}) := isItem (by simp [values]) rfl
  have guarded : IsItem (mask "^A") (.guarded ['A'] (some "^A".toList)) :=
    isItem (by simp [values]) rfl
  have each : List.Forall₂ IsItem values items :=
    .cons (.template ['9']) (.cons settings (.cons guarded .nil))
  have each_plain : List.Forall₂ IsItem plain [items[0], items[2]] :=
    .cons (.template ['9']) (.cons guarded .nil)
  have no_shape : ∀ shape, ¬ IsShape (.array faulty) shape := by
    intro shape isShape
    have fits := (Shape.ofJson?_eq_some_iff (bounded_of_read read_faulty)).mpr isShape
    cases fits
  obtain ⟨lists, no_list⟩ := load_list_of_items Pattern.compiler
  obtain ⟨loads, alternatives, -, alike⟩ := lists _ values items read each
  have compile : ∀ item ∈ items, item.Compiles Pattern.compiler := by
    simp only [items, List.forall_mem_cons]
    refine ⟨nofun, nofun, ?_, nofun⟩
    rintro template source same -
    cases same
    have found : (compiled Pattern.compiler "^A".toList).toOption.isSome = true := by decide +kernel
    cases result : compiled Pattern.compiler "^A".toList with
    | ok matcher => exact ⟨matcher, rfl⟩
    | error reason =>
      rw [result] at found
      cases found
  obtain ⟨⟨spec, events⟩, loaded⟩ := loads.mpr compile
  obtain ⟨list, rfl, gives⟩ := alternatives spec events loaded
  refine ⟨read, each, ?_, alike _ plain _ read_plain each_plain rfl, no_shape,
    no_list _ faulty read_faulty no_shape⟩
  cases gives with
  | cons first gives =>
    cases gives with
    | cons second gives =>
      cases first
      cases second
      cases gives
      exact ⟨_, _, loaded⟩

end InputMask
