import InputMask.CommandLine.Run
import InputMask.Proofs.ListLoading
import InputMask.Proofs.Remasking

/-!
# Templates on the command line and in JSON

Templates may be given by options or as a list in JSON. The specification of the options differs
from that of the list, as it has the templates with patterns in front of the others and leaves no
choice where there is one template only. Neither can be told from what is masked: patterns are
asked in their order, templates without one are ranked in theirs, and a single template is always
the one that is chosen.

## Main definitions

* `TemplateOption`: a template on the command line, perhaps with a pattern
* `IsEntry`, `IsList`: the JSON that stands for options
* `Agree`: two ways to a specification fail alike or mask alike

## Main results

* `IsList.load_eq`: the specification of the list
* `exists_specOfTemplates`: the specification of the options
* `spec_ofUses_agrees_load`: values are masked alike under both
-/

namespace InputMask.CommandLine

open Pattern (Compiler InvalidPattern)

/-- An option that gives a template, or a template with the source of its pattern. -/
inductive TemplateOption where
  | mask (template : List Char)
  | regexMask (template source : List Char)
  deriving DecidableEq, Repr

namespace TemplateOption

/-- How the option is used on the command line. -/
def use : TemplateOption → Use
  | mask template => ⟨.mask, [template]⟩
  | regexMask template source => ⟨.regexMask, [template, source]⟩

/-- The template and the source of the pattern, if the option has one. -/
def guarded? : TemplateOption → Option (List Char × List Char)
  | mask _ => none
  | regexMask template source => some (template, source)

/-- The JSON that stands for the option. -/
def json : TemplateOption → Json
  | mask template => .string template
  | regexMask template source => .ofMembers [("mask", .string template), ("regex", .string source)]

/-- The item of a specification that stands for the option. -/
def item : TemplateOption → Item
  | mask template => .template template
  | regexMask template source => .guarded template (some source)

/-- The alternative that the option gives. -/
def alternative (compiler : Compiler) : TemplateOption → Except InvalidPattern Alternative
  | mask template => .ok (.literal template)
  | regexMask template source => Pattern.guarded compiler template source

end TemplateOption

/-- A JSON value stands for an option: a text, or an object with the template and the pattern, in
which other members make no difference. -/
inductive IsEntry : TemplateOption → Json → Prop
  | mask (template : List Char) : IsEntry (.mask template) (.string template)
  | regexMask {template source : List Char} {members : List (List Char × Json)}
      (template_once : Once "mask" members (.string template))
      (source_once : Once "regex" members (.string source)) :
      IsEntry (.regexMask template source) (.object members)

/-- A text is a list in JSON of what stands for some options, in their order. -/
def IsList (options : List TemplateOption) (text : List Char) : Prop :=
  ∃ values, Json.read text = .ok (.array values) ∧ List.Forall₂ IsEntry options values

/-- The specification of a command line and that of a text are refused for the same pattern, or
give the same output for every value, and nothing is reported on the text. -/
inductive Agree : Except Failure Spec → Except LoadError (Spec × List Event) → Prop
  | refused (invalid : InvalidPattern) :
      Agree (.error (.invalidOption invalid)) (.error (.invalidPattern invalid))
  | masked {spec other : Spec} (alike : ∀ value, spec.mask value = other.mask value) :
      Agree (.ok spec) (.ok (other, []))

section Entries

variable {compiler : Compiler} {option : TemplateOption} {options : List TemplateOption}
  {json : Json} {text : List Char} {list : List Alternative}

theorem isEntry_json (option : TemplateOption) : IsEntry option option.json := by
  cases option with
  | mask template => exact .mask template
  | regexMask template source =>
    refine .regexMask ⟨[], _, rfl, nofun, ?_⟩ ⟨[_], [], rfl, ?_, nofun⟩
    · exact List.forall_mem_singleton.mpr (show "regex".toList ≠ "mask".toList by decide)
    · exact List.forall_mem_singleton.mpr (show "mask".toList ≠ "regex".toList by decide)

theorem exact_json (depth : Nat) (option : TemplateOption) : option.json.Exact (depth + 1) := by
  cases option with
  | mask template => exact .string template
  | regexMask template source =>
    refine .object ?_
    rw [List.map_cons, List.map_cons, List.map_nil, List.forall_mem_cons, List.forall_mem_singleton]
    exact ⟨.string template, .string source⟩

/-- The list of the JSON of options is one for them. -/
theorem isList_write (options : List TemplateOption) :
    IsList options (Json.array (options.map TemplateOption.json)).write := by
  refine ⟨options.map TemplateOption.json, Json.read_write (.array ?_), ?_⟩
  · rw [List.forall_mem_map]
    exact fun option _ => exact_json _ option
  · rw [List.forall₂_map_right_iff, List.forall₂_same]
    exact fun option _ => isEntry_json option

theorem IsEntry.isItem (entry : IsEntry option json) : IsItem json option.item := by
  cases entry with
  | mask template => exact .template template
  | regexMask template_once source_once => exact .guarded template_once (.string source_once)

/-- A list for some options is a list of their items. -/
theorem IsList.shapeOf_eq (isList : IsList options text) :
    Spec.shapeOf text = .ok (.list (options.map TemplateOption.item)) := by
  obtain ⟨values, read, entries⟩ := isList
  refine shapeOf_eq_list read ?_
  rw [List.forall₂_map_right_iff]
  exact List.Forall₂.flip (entries.imp fun _ _ entry => entry.isItem)

/-- The alternative of an item is that of its option, as its pattern is not empty. -/
theorem alternative?_item (compiler : Compiler)
    (nonempty : ∀ template, option ≠ .regexMask template []) :
    option.item.alternative? compiler = (option.alternative compiler).map some := by
  match option, nonempty with
  | .mask template, _ => rfl
  | .regexMask template [], nonempty => exact absurd rfl (nonempty template)
  | .regexMask template (_ :: _), _ => rfl

/-- The alternatives of the items are those of the options, in their order. -/
theorem alternativesOf_map_item (nonempty : ∀ template, .regexMask template [] ∉ options) :
    Spec.alternativesOf compiler (options.map TemplateOption.item) =
      options.mapM (TemplateOption.alternative compiler) := by
  have each : (options.map TemplateOption.item).mapM (Item.alternative? compiler) =
      (options.mapM (TemplateOption.alternative compiler)).map (List.map some) := by
    induction options with
    | nil => rfl
    | cons option options ih =>
      have first : option.item.alternative? compiler = _ := alternative?_item compiler
        fun template same => nonempty template (same ▸ List.mem_cons_self)
      have others := ih fun template among => nonempty template (List.mem_cons_of_mem _ among)
      rw [List.map_cons, List.mapM_cons, List.mapM_cons, first, others]
      cases option.alternative compiler with
      | error invalid => rfl
      | ok alternative => cases options.mapM (TemplateOption.alternative compiler) <;> rfl
  rw [Spec.alternativesOf, each]
  cases options.mapM (TemplateOption.alternative compiler) with
  | error invalid => rfl
  | ok list =>
    change Except.ok ((list.map some).filterMap id) = _
    rw [List.filterMap_map, Function.id_comp, List.filterMap_some]

/-- The specification of the list has the alternatives of the options in their order. -/
theorem IsList.load_eq (isList : IsList options text)
    (nonempty : ∀ template, .regexMask template [] ∉ options) :
    Spec.load compiler text =
      match options.mapM (TemplateOption.alternative compiler) with
      | .error invalid => .error (.invalidPattern invalid)
      | .ok list => .ok (.alternatives list, []) := by
  have silent : Spec.shapeEvents (.list (options.map TemplateOption.item)) = [] := by
    rw [Spec.shapeEvents, List.map_eq_nil_iff, List.filter_eq_nil_iff, List.forall_mem_map]
    intro option _
    cases option <;> exact Bool.false_ne_true
  have loaded := load_eq_alternatives compiler isList.shapeOf_eq
  rw [alternativesOf_map_item nonempty, silent] at loaded
  exact loaded

end Entries

/-! ### The specification of the options -/

section Templates

variable {compiler : Compiler} {options : List TemplateOption} {list : List Alternative}

theorem findSome?_path?_map_use (options : List TemplateOption) :
    (options.map TemplateOption.use).findSome? Use.path? = none := by
  rw [List.findSome?_eq_none_iff, List.forall_mem_map]
  intro option _
  cases option <;> rfl

/-- An alternative has a pattern if its option has one. -/
theorem guarded_eq_ok {template source : List Char} {alternative : Alternative}
    (built : Pattern.guarded compiler template source = .ok alternative) :
    ∃ matcher, alternative = .guarded template matcher := by
  unfold Pattern.guarded at built
  dsimp only at built
  split at built
  · cases built
    exact ⟨_, rfl⟩
  · cases built

/-- Pairs that are laid out one behind the other are found again two by two. -/
theorem pairs_flatMap {α : Type} (list : List (α × α)) :
    pairs (list.flatMap fun pair => [pair.1, pair.2]) = list := by
  induction list with
  | nil => rfl
  | cons pair list ih => exact congrArg (pair :: ·) ih

/-- The texts behind the options with a pattern are their templates and sources in turn. -/
theorem valuesIn_regexMask (options : List TemplateOption) :
    Opt.regexMask.valuesIn (options.map TemplateOption.use) =
      (options.filterMap TemplateOption.guarded?).flatMap fun pair => [pair.1, pair.2] := by
  induction options with
  | nil => rfl
  | cons option options ih =>
    cases option with
    | mask template => exact ih
    | regexMask template source => exact congrArg ([template, source] ++ ·) ih

/-- The patterns are compiled in their order, and the first that is refused is the same. -/
theorem mapM_guarded (compiler : Compiler) (options : List TemplateOption) :
    (pairs (Opt.regexMask.valuesIn (options.map TemplateOption.use))).mapM
        (fun pair => Pattern.guarded compiler pair.1 pair.2) =
      (options.mapM (TemplateOption.alternative compiler)).map withPattern := by
  rw [valuesIn_regexMask, pairs_flatMap]
  induction options with
  | nil => rfl
  | cons option options ih =>
    rw [List.mapM_cons]
    cases option with
    | mask template =>
      rw [List.filterMap_cons_none rfl, ih]
      cases options.mapM (TemplateOption.alternative compiler) <;> rfl
    | regexMask template source =>
      have first : (TemplateOption.regexMask template source).guarded? =
          some (template, source) := rfl
      rw [List.filterMap_cons_some first, List.mapM_cons, ih, TemplateOption.alternative]
      dsimp only
      cases built : Pattern.guarded compiler template source with
      | error invalid => rfl
      | ok alternative =>
        obtain ⟨matcher, rfl⟩ := guarded_eq_ok built
        cases options.mapM (TemplateOption.alternative compiler) <;> rfl

/-- The templates without a pattern are those of the alternatives without one. -/
theorem valuesIn_mask
    (built : List.Forall₂ (fun option alternative => option.alternative compiler = .ok alternative)
      options list) :
    Opt.mask.valuesIn (options.map TemplateOption.use) =
      list.filterMap Alternative.literal? := by
  induction built with
  | nil => rfl
  | @cons option _ options list first _ ih =>
    cases option with
    | mask template =>
      cases first
      exact congrArg (template :: ·) ih
    | regexMask template source =>
      obtain ⟨matcher, rfl⟩ := guarded_eq_ok first
      exact ih

/-- Masks agree that choose the same templates. -/
theorem mask_eq_of_template_eq {spec other : Spec} (pattern : spec.isNumeric = false)
    (pattern' : other.isNumeric = false)
    (same : ∀ raw, (spec.select raw).template = (other.select raw).template)
    (value : List Char) : spec.mask value = other.mask value := by
  rw [mask_of_isNumeric_eq_false pattern, mask_of_isNumeric_eq_false pattern', same]

/-- The alternatives with a pattern in front of those without. -/
def patternsFirst (list : List Alternative) : List Alternative :=
  withPattern list ++ (list.filterMap Alternative.literal?).map .literal

theorem withPattern_map_literal (texts : List (List Char)) :
    withPattern (texts.map .literal) = [] := by
  rw [withPattern, List.filter_eq_nil_iff, List.forall_mem_map]
  exact fun text _ => Bool.false_ne_true

theorem filterMap_literal?_withPattern (list : List Alternative) :
    (withPattern list).filterMap Alternative.literal? = [] := by
  rw [withPattern, List.filterMap_eq_nil_iff]
  intro alternative among
  cases alternative with
  | literal template => exact absurd (List.mem_filter.mp among).2 Bool.false_ne_true
  | guarded template matcher => rfl

theorem withPattern_withPattern (list : List Alternative) :
    withPattern (withPattern list) = withPattern list := by
  rw [withPattern, withPattern, List.filter_filter]
  simp only [Bool.and_self]

theorem select_patternsFirst (list : List Alternative) (raw : List Char) :
    (Spec.alternatives (patternsFirst list)).select raw = (Spec.alternatives list).select raw := by
  refine select_congr ?_ ?_
  · rw [candidates, patternsFirst, List.filterMap_append, filterMap_literal?_withPattern,
      List.nil_append]
    exact candidates_map_literal
  · have split : withPattern (patternsFirst list) = withPattern (withPattern list) ++
        withPattern ((list.filterMap Alternative.literal?).map .literal) := List.filter_append ..
    rw [split, withPattern_withPattern, withPattern_map_literal, List.append_nil]

/-- Without a pattern, a list has its templates only. -/
theorem eq_map_literal_of_withPattern_eq_nil (none_found : withPattern list = []) :
    list = (list.filterMap Alternative.literal?).map .literal := by
  induction list with
  | nil => rfl
  | cons alternative list ih =>
    cases alternative with
    | literal template => exact congrArg (.literal template :: ·) (ih none_found)
    | guarded template matcher => cases none_found

/-- Patterns are compiled first, and the first that is refused fails. -/
theorem specOfTemplates_of_error {guarded : List (List Char)} {invalid : InvalidPattern}
    (literals : List (List Char))
    (refused : (pairs guarded).mapM (fun pair => Pattern.guarded compiler pair.1 pair.2) =
      .error invalid) :
    specOfTemplates compiler guarded literals = .error (.invalidOption invalid) := by
  change (((pairs guarded).mapM fun pair => Pattern.guarded compiler pair.1 pair.2).mapError
    Failure.invalidOption >>= _) = _
  rw [refused]
  rfl

/-- A list without patterns has one template only if there is one with those moved to its front. -/
theorem eq_of_patternsFirst_eq_singleton {alternative : Alternative}
    (none_found : withPattern list = []) (one : patternsFirst list = [alternative]) :
    ∃ template, list = [.literal template] ∧ alternative = .literal template := by
  have same := eq_map_literal_of_withPattern_eq_nil none_found
  rw [patternsFirst, none_found, List.nil_append, ← same] at one
  subst one
  cases alternative with
  | literal template => exact ⟨template, rfl, rfl⟩
  | guarded template matcher => cases none_found

/-- The options give a specification, and it masks as the list of their alternatives does. -/
theorem exists_specOfTemplates (some_alternative : list ≠ []) {guarded : List (List Char)}
    (built : (pairs guarded).mapM (fun pair => Pattern.guarded compiler pair.1 pair.2) =
      .ok (withPattern list)) :
    ∃ spec, specOfTemplates compiler guarded (list.filterMap Alternative.literal?) = .ok spec ∧
      ∀ value, spec.mask value = (Spec.alternatives list).mask value := by
  have rearranged (value : List Char) :
      (Spec.alternatives (patternsFirst list)).mask value = (Spec.alternatives list).mask value :=
    mask_eq_of_template_eq rfl rfl (fun raw => by rw [select_patternsFirst]) value
  change ∃ spec, (((pairs guarded).mapM fun pair => Pattern.guarded compiler pair.1 pair.2).mapError
    Failure.invalidOption >>= _) = _ ∧ _
  rw [built, Except.mapError, Json.ok_bind]
  split
  next empty =>
    obtain ⟨none_found, none_left⟩ := List.append_eq_nil_iff.mp empty
    refine absurd ?_ some_alternative
    rw [eq_map_literal_of_withPattern_eq_nil none_found, List.map_eq_nil_iff.mp none_left,
      List.map_nil]
  next alternative one =>
    cases guarded with
    | nil =>
      obtain ⟨template, rfl, rfl⟩ := eq_of_patternsFirst_eq_singleton (Except.ok.inj built).symm one
      refine ⟨_, rfl, mask_eq_of_template_eq rfl rfl fun raw => ?_⟩
      -- a single template leaves no choice, and of a list of one it is the one that is chosen
      have chosen := template_select_mem (List.cons_ne_nil template []) raw
      exact (List.mem_singleton.mp chosen).symm
    | cons text texts => exact ⟨_, rfl, fun value => one ▸ rearranged value⟩
  next => exact ⟨_, rfl, rearranged⟩

end Templates

/-- Options that give templates, and their list in JSON, are refused for the same pattern or mask
every value alike. -/
theorem spec_ofUses_agrees_load (compiler : Compiler) (files : Files)
    {options : List TemplateOption} (some_option : options ≠ [])
    (nonempty : ∀ template, .regexMask template [] ∉ options) :
    IsList options (Json.array (options.map TemplateOption.json)).write ∧
      ∀ text, IsList options text →
        Agree ((Source.ofUses (options.map TemplateOption.use)).spec compiler files)
          (Spec.load compiler text) := by
  refine ⟨isList_write options, ?_⟩
  intro text isList
  have source : Source.ofUses (options.map TemplateOption.use) =
      .templates (Opt.regexMask.valuesIn (options.map TemplateOption.use))
        (Opt.mask.valuesIn (options.map TemplateOption.use)) := by
    rw [Source.ofUses, findSome?_path?_map_use]
  rw [source, isList.load_eq nonempty, Source.spec]
  have patterns := mapM_guarded compiler options
  cases built : options.mapM (TemplateOption.alternative compiler) with
  | error invalid =>
    rw [built] at patterns
    rw [specOfTemplates_of_error _ patterns]
    exact .refused invalid
  | ok list =>
    have each := mapM_eq_ok_iff.mp built
    have some_alternative : list ≠ [] := by
      rintro rfl
      exact some_option (List.forall₂_nil_right_iff.mp each)
    rw [built] at patterns
    obtain ⟨spec, gives, alike⟩ := exists_specOfTemplates some_alternative patterns
    rw [valuesIn_mask each, gives]
    exact .masked alike

/-- A template with a pattern stands behind one without, on the command line as in the list, and
its pattern is asked first. -/
theorem spec_ofUses_agrees_load_two_templates :
    let options : List TemplateOption := [.mask "9-9".toList, .regexMask "A".toList "^A".toList]
    let text := "[\"9-9\",\x7b\"mask\":\"A\",\"regex\":\"^A\"\x7d]".toList
    let files : Files := fun _ => .error .notFound
    options ≠ [] ∧ (∀ template, .regexMask template [] ∉ options) ∧ IsList options text ∧
      Agree ((Source.ofUses (options.map TemplateOption.use)).spec Pattern.compiler files)
        (Spec.load Pattern.compiler text) ∧
      ((Source.ofUses (options.map TemplateOption.use)).spec Pattern.compiler files).toOption.map
          (fun spec => (spec.mask "A1".toList).masked) = some ['A'] := by
  intro options text files
  have nonempty : ∀ template, .regexMask template [] ∉ options := by
    simp [options]
  obtain ⟨isList, agree⟩ :=
    spec_ofUses_agrees_load Pattern.compiler files (List.cons_ne_nil _ _) nonempty
  have written : (Json.array (options.map TemplateOption.json)).write = text := by
    decide +kernel
  rw [written] at isList
  exact ⟨List.cons_ne_nil _ _, nonempty, isList, agree text isList, by decide +kernel⟩

end InputMask.CommandLine
