import InputMask.SpecText.Shape
import InputMask.Proofs.SettingGrammar

/-!
# Which JSON is a specification

The values that are items and the values that are specifications, said without the order in which
the shapes are tried. The order only matters for lists of at most four texts. As texts stand first
among the settings, such a list could be settings too, and it is taken as a list of templates.

## Main definitions

* `IsItem`, `IsShape`: the grammar of items and of specifications
* `Trial`, `FitsTwo`: the shapes by themselves, and values that more than one of them fits

## Main results

* `Item.ofJson?_eq_some_iff`, `Shape.ofJson?_eq_some_iff`: exactly the grammar is accepted
* `Shape.ofJson?_eq_findSome?`: the first shape that fits is taken
* `shape_grammar`: what is accepted, and what fits two shapes
-/

namespace InputMask

open NumericConfig (Change ofChanges)

/-- No member has a name. -/
def Never (name : String) (members : List (List Char × Json)) : Prop :=
  ∀ member ∈ members, member.1 ≠ name.toList

/-- One member has a name, and it holds a value. -/
def Once (name : String) (members : List (List Char × Json)) (value : Json) : Prop :=
  ∃ before behind, members = before ++ (name.toList, value) :: behind ∧ Never name before ∧
    Never name behind

/-- The pattern in an object. It may be missing, or null. -/
inductive IsPattern (members : List (List Char × Json)) : Option (List Char) → Prop
  | absent (never : Never "regex" members) : IsPattern members none
  | null (once : Once "regex" members .null) : IsPattern members none
  | string {s : List Char} (once : Once "regex" members (.string s)) : IsPattern members (some s)

/-- A JSON value is an item of a specification: a template, an object with a template and perhaps
a pattern, an object of settings, or a list of settings. -/
inductive IsItem : Json → Item → Prop
  | template (s : List Char) : IsItem (.string s) (.template s)
  | guarded {members : List (List Char × Json)} {mask : List Char} {source : Option (List Char)}
      (once : Once "mask" members (.string mask)) (pattern : IsPattern members source) :
      IsItem (.object members) (.guarded mask source)
  | settings {members : List (List Char × Json)} {changes : List Change}
      (plain : Never "mask" members) (record : IsRecord members changes) :
      IsItem (.object members) (.numeric (ofChanges changes))
  | row {items : List Json} {changes : List Change}
      (row : IsRow [.before, .after, .delimiter, .separator, .decimals, .maxLength] items changes) :
      IsItem (.array items) (.numeric (ofChanges changes))

/-- A JSON value is a specification: a list of items, a list that holds a count behind four texts,
or an item that is no list. -/
inductive IsShape : Json → Shape → Prop
  | list {values : List Json} {items : List Item} (each : List.Forall₂ IsItem values items) :
      IsShape (.array values) (.list items)
  | numeric {values : List Json} {config : NumericConfig} (long : IsLongRow values config) :
      IsShape (.array values) (.item (.numeric config))
  | item {json : Json} {item : Item} (noArray : ∀ values, json ≠ .array values)
      (isItem : IsItem json item) : IsShape json (.item item)

/-- One of the shapes that a specification may have. -/
inductive Trial where
  | list
  | template
  | guarded
  | settings
  deriving DecidableEq, Repr

namespace Trial

/-- The shapes in the order in which they are tried. -/
def inOrder : List Trial :=
  [list, template, guarded, settings]

/-- The specification of one shape that a JSON value is. -/
def run : Trial → Json → Option Shape
  | list, json => Shape.ofItems? json
  | template, json => (Item.ofString? json).map .item
  | guarded, json => (Item.ofObject? json).map .item
  | settings, json => (Item.ofSettings? json).map .item

end Trial

/-- Two shapes fit a JSON value. -/
def FitsTwo (json : Json) : Prop :=
  ∃ first second : Trial, first ≠ second ∧ (first.run json).isSome ∧ (second.run json).isSome

/-- The first shape that fits is taken. -/
theorem Shape.ofJson?_eq_findSome? (json : Json) :
    Shape.ofJson? json = Trial.inOrder.findSome? (Trial.run · json) := by
  simp only [Trial.inOrder, Trial.run, List.findSome?_cons, List.findSome?_nil]
  unfold Shape.ofJson? Item.ofJson?
  cases Shape.ofItems? json <;> cases Item.ofString? json <;> cases Item.ofObject? json <;>
    cases Item.ofSettings? json <;> rfl

/-! ### Members by name -/

section Members

variable {name : String} {members : List (List Char × Json)} {value : Json}

theorem valuesOf_eq_nil_iff : Item.valuesOf name members = [] ↔ Never name members := by
  simp [Item.valuesOf, Never, List.filter_eq_nil_iff]

theorem valuesOf_eq_singleton_iff :
    Item.valuesOf name members = [value] ↔ Once name members value := by
  simp only [Item.valuesOf, List.map_eq_singleton_iff, List.filter_eq_cons_iff, decide_eq_true_eq,
    List.filter_eq_nil_iff]
  constructor
  · rintro ⟨⟨_, _⟩, ⟨before, behind, rfl, never, rfl, never'⟩, rfl⟩
    exact ⟨before, behind, rfl, never, never'⟩
  · rintro ⟨before, behind, rfl, never, never'⟩
    exact ⟨_, ⟨before, behind, rfl, never, rfl, never'⟩, rfl⟩

end Members

/-! ### Items -/

section Items

variable {json : Json} {item : Item} {shape : Shape} {members : List (List Char × Json)}

/-- A template with or without a pattern is read from an object that names them once. -/
theorem ofObject?_eq_some_iff :
    Item.ofObject? (.object members) = some item ↔
      ∃ mask source, item = .guarded mask source ∧ Once "mask" members (.string mask) ∧
        IsPattern members source := by
  simp only [Item.ofObject?, ← valuesOf_eq_singleton_iff]
  constructor
  · intro read
    split at read
    next mask masks regexes =>
      cases read
      exact ⟨mask, none, rfl, masks, .absent (valuesOf_eq_nil_iff.mp regexes)⟩
    next mask masks regexes =>
      cases read
      exact ⟨mask, none, rfl, masks, .null (valuesOf_eq_singleton_iff.mp regexes)⟩
    next mask regex masks regexes =>
      cases read
      exact ⟨mask, some regex, rfl, masks, .string (valuesOf_eq_singleton_iff.mp regexes)⟩
    · cases read
  · rintro ⟨mask, source, rfl, masks, pattern⟩
    cases pattern with
    | absent never => rw [masks, valuesOf_eq_nil_iff.mpr never]
    | null once => rw [masks, valuesOf_eq_singleton_iff.mpr once]
    | string once => rw [masks, valuesOf_eq_singleton_iff.mpr once]

/-- No setting has the name of a template. -/
theorem Names.ne_mask {name : List Char} {field : NumericField} (named : Names name field) :
    name ≠ "mask".toList := by
  cases named <;> decide

theorem IsRecord.never_mask {changes : List Change} (record : IsRecord members changes) :
    Never "mask" members :=
  ((List.forall₂_and_left _ _).mp (record.each.imp fun _ _ setting =>
    ⟨setting.1.ne_mask, setting⟩)).1

/-- An object that names no template has none. -/
theorem ofObject?_eq_none (plain : Never "mask" members) :
    Item.ofObject? (.object members) = none := by
  rw [Item.ofObject?, valuesOf_eq_nil_iff.mpr plain]

theorem ofSettings?_object_iff (bounded : (Json.object members).Bounded) :
    Item.ofSettings? (.object members) = some item ↔
      ∃ changes, IsRecord members changes ∧ item = .numeric (ofChanges changes) := by
  simp only [Item.ofSettings?, Option.map_eq_some_iff,
    NumericConfig.ofJson?_object_iff bounded.of_object]
  constructor
  · rintro ⟨_, ⟨changes, record, rfl⟩, rfl⟩
    exact ⟨changes, record, rfl⟩
  · rintro ⟨changes, record, rfl⟩
    exact ⟨_, ⟨changes, record, rfl⟩, rfl⟩

theorem ofSettings?_array_iff {values : List Json} (bounded : (Json.array values).Bounded) :
    Item.ofSettings? (.array values) = some item ↔
      ∃ changes, IsRow NumericField.inOrder values changes ∧
        item = .numeric (ofChanges changes) := by
  simp only [Item.ofSettings?, Option.map_eq_some_iff,
    NumericConfig.ofJson?_array_iff bounded.of_array]
  constructor
  · rintro ⟨_, ⟨changes, row, rfl⟩, rfl⟩
    exact ⟨changes, row, rfl⟩
  · rintro ⟨changes, row, rfl⟩
    exact ⟨_, ⟨changes, row, rfl⟩, rfl⟩

theorem Item.ofJson?_object :
    Item.ofJson? (.object members) =
      (ofObject? (.object members)).or (ofSettings? (.object members)) :=
  rfl

theorem Item.ofJson?_array {items : List Json} :
    Item.ofJson? (.array items) = ofSettings? (.array items) :=
  rfl

/-- Exactly the items of the grammar are read. -/
theorem Item.ofJson?_eq_some_iff (bounded : json.Bounded) :
    Item.ofJson? json = some item ↔ IsItem json item := by
  constructor
  · intro read
    cases json with
    | string s =>
      cases read
      exact .template s
    | object members =>
      rw [Item.ofJson?_object, Option.or_eq_some_iff] at read
      obtain read | ⟨-, read⟩ := read
      · obtain ⟨mask, source, rfl, once, pattern⟩ := ofObject?_eq_some_iff.mp read
        exact .guarded once pattern
      · obtain ⟨changes, record, rfl⟩ := (ofSettings?_object_iff bounded).mp read
        exact .settings record.never_mask record
    | array values =>
      rw [Item.ofJson?_array] at read
      obtain ⟨changes, row, rfl⟩ := (ofSettings?_array_iff bounded).mp read
      exact .row row
    | _ => cases read
  · intro isItem
    cases isItem with
    | template s => rfl
    | guarded once pattern =>
      have read := ofObject?_eq_some_iff.mpr ⟨_, _, rfl, once, pattern⟩
      rw [Item.ofJson?_object, read, Option.some_or]
    | settings plain record =>
      -- the settings are reached, as the object is refused for want of a template
      rw [Item.ofJson?_object, ofObject?_eq_none plain, Option.none_or]
      exact (ofSettings?_object_iff bounded).mpr ⟨_, record, rfl⟩
    | row row =>
      rw [Item.ofJson?_array]
      exact (ofSettings?_array_iff bounded).mpr ⟨_, row, rfl⟩

/-- Lists of items are read element by element. -/
theorem ofItems?_eq_some_iff {values : List Json} (bounded : ∀ value ∈ values, value.Bounded) :
    Shape.ofItems? (.array values) = some shape ↔
      ∃ items, shape = .list items ∧ List.Forall₂ IsItem values items := by
  have each (items : List Item) :
      values.mapM Item.ofJson? = some items ↔ List.Forall₂ IsItem values items :=
    mapM_eq_some_iff fun value among item => Item.ofJson?_eq_some_iff (bounded value among)
  simp only [Shape.ofItems?, Option.map_eq_some_iff, each]
  constructor
  · rintro ⟨items, each, rfl⟩
    exact ⟨items, rfl, each⟩
  · rintro ⟨items, rfl, each⟩
    exact ⟨items, each, rfl⟩

/-- A list of texts is a list of templates. -/
theorem ofItems?_texts (texts : List (List Char)) :
    Shape.ofItems? (.array (texts.map .string)) = some (.list (texts.map .template)) := by
  refine (ofItems?_eq_some_iff ?_).mpr ⟨_, rfl, ?_⟩
  · simp only [List.forall_mem_map]
    exact fun s _ => .string s
  · rw [List.forall₂_map_left_iff, List.forall₂_map_right_iff, List.forall₂_same]
    exact fun s _ => .template s

/-- An integer is no item. -/
theorem IsItem.integer?_eq_none (isItem : IsItem json item) : json.integer? = none := by
  cases isItem <;> rfl

/-- A long row has an integer among its elements. -/
theorem IsLongRow.exists_integer {values : List Json} {config : NumericConfig}
    (long : IsLongRow values config) : ∃ value ∈ values, ∃ i, value.integer? = some i := by
  cases long with
  | five isCount =>
    obtain ⟨integer, -, -⟩ := isCount
    exact ⟨_, by simp, _, integer⟩
  | six isCount isLimit =>
    obtain ⟨integer, -, -⟩ := isCount
    exact ⟨_, by simp, _, integer⟩

/-- A long row is no list of items. -/
theorem IsLongRow.ofItems?_eq_none {values : List Json} {config : NumericConfig}
    (long : IsLongRow values config) (bounded : ∀ value ∈ values, value.Bounded) :
    Shape.ofItems? (.array values) = none := by
  rw [Option.eq_none_iff_forall_ne_some]
  intro shape read
  obtain ⟨items, -, each⟩ := (ofItems?_eq_some_iff bounded).mp read
  have noInteger : ∀ value ∈ values, value.integer? = none :=
    ((List.forall₂_and_left _ _).mp (each.imp fun _ _ isItem =>
      ⟨isItem.integer?_eq_none, isItem⟩)).1
  obtain ⟨value, among, i, integer⟩ := long.exists_integer
  rw [noInteger value among] at integer
  cases integer

/-! ### Specifications -/

theorem ofItems?_eq_none (noArray : ∀ values, json ≠ .array values) :
    Shape.ofItems? json = none := by
  cases json with
  | array values => exact absurd rfl (noArray values)
  | _ => rfl

/-- Exactly the specifications of the grammar are read. -/
theorem Shape.ofJson?_eq_some_iff (bounded : json.Bounded) :
    Shape.ofJson? json = some shape ↔ IsShape json shape := by
  rw [Shape.ofJson?, Option.or_eq_some_iff, Option.map_eq_some_iff]
  constructor
  · rintro (read | ⟨noItems, item, read, rfl⟩)
    · cases json with
      | array values =>
        obtain ⟨items, rfl, each⟩ := (ofItems?_eq_some_iff bounded.of_array).mp read
        exact .list each
      | _ => cases read
    · have isItem := (Item.ofJson?_eq_some_iff bounded).mp read
      cases json with
      | array values =>
        cases isItem with
        | row row =>
          obtain ⟨texts, -, rfl⟩ | long := row.short_or_long
          · rw [ofItems?_texts] at noItems
            cases noItems
          · exact .numeric long
      | _ => exact .item nofun isItem
  · intro isShape
    cases isShape with
    | list each => exact .inl ((ofItems?_eq_some_iff bounded.of_array).mpr ⟨_, rfl, each⟩)
    | numeric long =>
      obtain ⟨changes, row, rfl⟩ := long.exists_isRow
      exact .inr ⟨long.ofItems?_eq_none bounded.of_array, _,
        (Item.ofJson?_eq_some_iff bounded).mpr (.row row), rfl⟩
    | item noArray isItem =>
      exact .inr ⟨ofItems?_eq_none noArray, _, (Item.ofJson?_eq_some_iff bounded).mpr isItem, rfl⟩

/-- Texts at the front of a list are settings. -/
theorem ofSettings?_texts {texts : List (List Char)} (short : texts.length ≤ 4) :
    (Item.ofSettings? (.array (texts.map .string))).isSome := by
  match texts, short with
  | [], _ => rfl
  | [_], _ => rfl
  | [_, _], _ => rfl
  | [_, _, _], _ => rfl
  | [_, _, _, _], _ => rfl

/-- The shapes that may fit a JSON value, by its kind. -/
theorem Trial.of_isSome {trial : Trial} (fits : (trial.run json).isSome) :
    match json with
    | .string _ => trial = template
    | .object _ => trial = guarded ∨ trial = settings
    | .array _ => trial = list ∨ trial = settings
    | _ => False := by
  cases json with
  | string s =>
    cases trial with
    | template => rfl
    | _ => cases fits
  | object members =>
    cases trial with
    | guarded => exact .inl rfl
    | settings => exact .inr rfl
    | _ => cases fits
  | array values =>
    cases trial with
    | list => exact .inl rfl
    | settings => exact .inr rfl
    | _ => cases fits
  | _ => cases trial <;> cases fits

/-- No object has both a template and settings. -/
theorem not_guarded_and_settings (bounded : (Json.object members).Bounded)
    (guarded : (Trial.guarded.run (.object members)).isSome)
    (settings : (Trial.settings.run (.object members)).isSome) : False := by
  simp only [Trial.run, Option.isSome_map] at guarded settings
  obtain ⟨item, read⟩ := Option.isSome_iff_exists.mp settings
  obtain ⟨changes, record, rfl⟩ := (ofSettings?_object_iff bounded).mp read
  rw [ofObject?_eq_none record.never_mask] at guarded
  cases guarded

/-- A list of items that is settings too is a list of at most four texts. -/
theorem exists_texts_of_list_of_settings {values : List Json}
    (bounded : (Json.array values).Bounded) (list : (Trial.list.run (.array values)).isSome)
    (settings : (Trial.settings.run (.array values)).isSome) :
    ∃ texts : List (List Char), texts.length ≤ 4 ∧
      Json.array values = .array (texts.map .string) := by
  rw [Trial.run, Option.isSome_map] at settings
  obtain ⟨item, read⟩ := Option.isSome_iff_exists.mp settings
  obtain ⟨changes, row, rfl⟩ := (ofSettings?_array_iff bounded).mp read
  obtain ⟨texts, short, rfl⟩ | long := row.short_or_long
  · exact ⟨texts, short, rfl⟩
  · rw [Trial.run, long.ofItems?_eq_none bounded.of_array] at list
    cases list

/-- Two shapes only fit lists of at most four texts. -/
theorem fitsTwo_iff (bounded : json.Bounded) :
    FitsTwo json ↔
      ∃ texts : List (List Char), texts.length ≤ 4 ∧ json = .array (texts.map .string) := by
  constructor
  · rintro ⟨first, second, different, fits, fits'⟩
    have of_first := Trial.of_isSome fits
    have of_second := Trial.of_isSome fits'
    cases json with
    | string s => exact absurd (of_first.trans of_second.symm) different
    | object members =>
      obtain rfl | rfl := of_first <;> obtain rfl | rfl := of_second
      · exact absurd rfl different
      · exact (not_guarded_and_settings bounded fits fits').elim
      · exact (not_guarded_and_settings bounded fits' fits).elim
      · exact absurd rfl different
    | array values =>
      obtain rfl | rfl := of_first <;> obtain rfl | rfl := of_second
      · exact absurd rfl different
      · exact exists_texts_of_list_of_settings bounded fits fits'
      · exact exists_texts_of_list_of_settings bounded fits' fits
      · exact absurd rfl different
    | _ => exact of_first.elim
  · rintro ⟨texts, short, rfl⟩
    refine ⟨.list, .settings, by decide, ?_, ?_⟩
    · rw [Trial.run, ofItems?_texts]
      rfl
    · rw [Trial.run, Option.isSome_map]
      exact ofSettings?_texts short

end Items

/-- All numbers in JSON that is read are integers of 64 bits or doubles. Of such values, exactly
those of the grammar are specifications, two shapes only fit lists of at most four texts, and lists
of texts are lists of templates. -/
theorem shape_grammar :
    (∀ text json rest, Json.readPrefixed text = .ok (json, rest) → json.Bounded) ∧
      ∀ json : Json, json.Bounded →
        (∀ shape, Shape.ofJson? json = some shape ↔ IsShape json shape) ∧
        (FitsTwo json ↔
          ∃ texts : List (List Char), texts.length ≤ 4 ∧ json = .array (texts.map .string)) ∧
        ∀ texts : List (List Char), json = .array (texts.map .string) →
          Shape.ofJson? json = some (.list (texts.map .template)) := by
  refine ⟨fun text json rest => Json.bounded_of_readPrefixed, fun json bounded =>
    ⟨fun shape => Shape.ofJson?_eq_some_iff bounded, fitsTwo_iff bounded, ?_⟩⟩
  rintro texts rfl
  rw [Shape.ofJson?, ofItems?_texts, Option.some_or]

/-- A list of one text fits two shapes and is a template. Four texts, minus one and 18 are
settings. -/
theorem shape_grammar_one_text :
    Json.readPrefixed "[\"9\"]".toList = .ok (.array [.text "9"], []) ∧
      FitsTwo (.array [.text "9"]) ∧
      Shape.ofJson? (.array [.text "9"]) = some (.list [.template ['9']]) ∧
      IsShape (.array [.text "R$", .text "", .text ".", .text ",", .number (.negative 1), .nat 18])
        (.item (.numeric ⟨"R$".toList, [], ['.'], [','], 0, some 18⟩)) := by
  have read : Json.readPrefixed "[\"9\"]".toList = .ok (.array [.text "9"], []) := by rfl
  obtain ⟨bounded, grammar⟩ := shape_grammar
  have one := grammar _ (bounded _ _ _ read)
  refine ⟨read, one.2.1.mpr ⟨[['9']], by decide, rfl⟩, one.2.2 [['9']] rfl, ?_⟩
  have six : (Json.array [.text "R$", .text "", .text ".", .text ",", .number (.negative 1),
      .nat 18]).Bounded := by
    refine .array ?_
    simp only [List.forall_mem_cons]
    exact ⟨.string _, .string _, .string _, .string _, .number ⟨by decide, by decide⟩,
      .number (show 18 < 2 ^ 64 by decide), nofun⟩
  exact ((grammar _ six).1 _).mp rfl

end InputMask
