import InputMask.Numeric.Setting
import InputMask.Proofs.JsonNumbers
import Mathlib.Data.List.Forall2

/-!
# Which settings JSON holds

What a JSON value must be for each setting of a numeric mask, and which members of an object or
elements of a list make settings together, said without the functions that read them.

## Main definitions

* `IsCount`, `IsLimit`, `IsSetting`: a value of the type of a setting
* `Names`: the names of settings
* `IsRecord`, `IsRow`: settings under their names, or by their positions
* `IsLongRow`: more settings than there are texts among them

## Main results

* `NumericConfig.ofJson?_object_iff`, `NumericConfig.ofJson?_array_iff`: settings are read from
  records and rows, and from nothing else
* `IsRow.short_or_long`: a row is four texts at most, or four texts, a count and perhaps a limit
-/

namespace InputMask

open NumericConfig (Change ofChanges)

/-- The integer that a JSON value is. -/
def Json.integer? : Json → Option Int
  | .number (.natural n) => some n
  | .number (.negative n) => some (-n)
  | _ => none

/-- A JSON value is a signed integer of 64 bits. Below zero it counts as zero. -/
inductive IsCount : Json → Nat → Prop
  | intro {json : Json} {i : Int} (integer : json.integer? = some i) (low : -2 ^ 63 ≤ i)
      (high : i < 2 ^ 63) : IsCount json i.toNat

/-- A JSON value is null or an unsigned integer of 64 bits. -/
inductive IsLimit : Json → Option Nat → Prop
  | null : IsLimit .null none
  | integer {json : Json} {i : Int} (integer : json.integer? = some i) (low : 0 ≤ i)
      (high : i < 2 ^ 64) : IsLimit json (some i.toNat)

/-- A JSON value is of the type of a setting, and the setting is changed to it. -/
inductive IsSetting : Json → Change → Prop
  | before (s : List Char) : IsSetting (.string s) (.before s)
  | after (s : List Char) : IsSetting (.string s) (.after s)
  | delimiter (s : List Char) : IsSetting (.string s) (.delimiter s)
  | separator (s : List Char) : IsSetting (.string s) (.separator s)
  | decimals {json : Json} {count : Nat} (isCount : IsCount json count) :
      IsSetting json (.decimals count)
  | maxLength {json : Json} {limit : Option Nat} (isLimit : IsLimit json limit) :
      IsSetting json (.maxLength limit)

/-- The name of a setting in an object. The most digits go by two names. -/
inductive Names : List Char → NumericField → Prop
  | before : Names "prefix".toList .before
  | after : Names "suffix".toList .after
  | delimiter : Names "delimiter".toList .delimiter
  | separator : Names "separator".toList .separator
  | decimals : Names "decimal".toList .decimals
  | maxLength : Names "maxLength".toList .maxLength
  | maxLength' : Names "max_length".toList .maxLength

/-- The members of an object are settings under their names, none of them repeated. -/
structure IsRecord (members : List (List Char × Json)) (changes : List Change) : Prop where
  each : List.Forall₂ (fun member change => Names member.1 change.field ∧
    IsSetting member.2 change) members changes
  once : (changes.map Change.field).Nodup

/-- The elements of a list are settings by their positions. -/
structure IsRow (fields : List NumericField) (items : List Json) (changes : List Change) :
    Prop where
  placed : changes.map Change.field <+: fields
  typed : List.Forall₂ IsSetting items changes

/-- The elements of a list are four texts, a count, and perhaps a limit. -/
inductive IsLongRow : List Json → NumericConfig → Prop
  | five {before after delimiter separator : List Char} {fifth : Json} {decimals : Nat}
      (isCount : IsCount fifth decimals) :
      IsLongRow [.string before, .string after, .string delimiter, .string separator, fifth]
        ⟨before, after, delimiter, separator, decimals, none⟩
  | six {before after delimiter separator : List Char} {fifth sixth : Json} {decimals : Nat}
      {limit : Option Nat} (isCount : IsCount fifth decimals) (isLimit : IsLimit sixth limit) :
      IsLongRow [.string before, .string after, .string delimiter, .string separator, fifth, sixth]
        ⟨before, after, delimiter, separator, decimals, limit⟩

/-- A list is read element by element. -/
theorem mapM_eq_some_iff {α β : Type} {f : α → Option β} {R : α → β → Prop} {xs : List α}
    {ys : List β} (each : ∀ x ∈ xs, ∀ y, f x = some y ↔ R x y) :
    xs.mapM f = some ys ↔ List.Forall₂ R xs ys := by
  induction xs generalizing ys with
  | nil => simp [eq_comm]
  | cons x xs ih =>
    obtain ⟨head, tail⟩ := List.forall_mem_cons.mp each
    simp only [List.mapM_cons, Option.bind_eq_bind, Option.bind_eq_some_iff, Option.pure_def,
      Option.some.injEq, List.forall₂_cons_left_iff, head, ih tail]
    constructor
    · rintro ⟨y, first, ys, rest, rfl⟩
      exact ⟨y, ys, first, rest, rfl⟩
    · rintro ⟨y, ys, first, rest, rfl⟩
      exact ⟨y, first, ys, rest, rfl⟩

/-- A list is mapped element by element, as long as nothing fails. -/
theorem mapM_eq_ok_iff {ε α β : Type} {f : α → Except ε β} {xs : List α} {ys : List β} :
    xs.mapM f = .ok ys ↔ List.Forall₂ (fun x y => f x = .ok y) xs ys := by
  induction xs generalizing ys with
  | nil =>
    rw [List.mapM_nil, List.forall₂_nil_left_iff]
    exact ⟨fun same => (Except.ok.inj same).symm, fun none_left => none_left ▸ rfl⟩
  | cons x xs ih =>
    rw [List.mapM_cons, List.forall₂_cons_left_iff]
    constructor
    · intro mapped
      cases first : f x with
      | error e =>
        rw [first] at mapped
        cases mapped
      | ok y =>
        cases others : xs.mapM f with
        | error e =>
          rw [first, others] at mapped
          cases mapped
        | ok ys =>
          rw [first, others] at mapped
          cases mapped
          exact ⟨y, ys, rfl, ih.mp others, rfl⟩
    · rintro ⟨y, ys, first, others, rfl⟩
      rw [first, ih.mpr others]
      rfl

/-- The first element that fails is the failure of the list. -/
theorem mapM_eq_error_iff {ε α β : Type} {f : α → Except ε β} {xs : List α} {e : ε} :
    xs.mapM f = .error e ↔ ∃ before x behind, xs = before ++ x :: behind ∧
      (∀ other ∈ before, ∃ y, f other = .ok y) ∧ f x = .error e := by
  induction xs with
  | nil =>
    rw [List.mapM_nil]
    refine ⟨nofun, ?_⟩
    rintro ⟨before, x, behind, split, -⟩
    cases before <;> cases split
  | cons x xs ih =>
    rw [List.mapM_cons]
    cases first : f x with
    | error e' =>
      constructor
      · intro failed
        cases failed
        exact ⟨[], x, xs, rfl, nofun, first⟩
      · rintro ⟨before, other, behind, split, mapped, fails⟩
        cases before with
        | nil =>
          cases split
          exact congrArg Except.error (Except.error.inj (first.symm.trans fails))
        | cons head before =>
          cases split
          obtain ⟨y, mapped⟩ := mapped x List.mem_cons_self
          cases first.symm.trans mapped
    | ok y =>
      have later : (do let ys ← xs.mapM f; return y :: ys) = Except.error e ↔
          xs.mapM f = .error e := by
        cases xs.mapM f with
        | error e' => exact Iff.rfl
        | ok ys => exact ⟨nofun, nofun⟩
      refine Iff.trans later (ih.trans ?_)
      constructor
      · rintro ⟨before, other, behind, rfl, mapped, fails⟩
        exact ⟨x :: before, other, behind, rfl,
          List.forall_mem_cons.mpr ⟨⟨y, first⟩, mapped⟩, fails⟩
      · rintro ⟨before, other, behind, split, mapped, fails⟩
        cases before with
        | nil =>
          cases split
          cases first.symm.trans fails
        | cons head before =>
          cases split
          exact ⟨before, other, behind, rfl, (List.forall_mem_cons.mp mapped).2, fails⟩

/-! ### One setting -/

section One

variable {json : Json} {field : NumericField} {change : Change} {i : Int}

theorem Json.integer?_eq_some_iff :
    json.integer? = some i ↔
      (∃ n : Nat, json = .number (.natural n) ∧ i = n) ∨
        ∃ n : Nat, json = .number (.negative n) ∧ i = -n := by
  unfold Json.integer?
  split <;> simp_all [eq_comm]

/-- The number of decimals is read from a signed integer of 64 bits. -/
theorem ofJson?_decimals_iff (bounded : json.Bounded) :
    Change.ofJson? .decimals json = some change ↔
      ∃ count, change = .decimals count ∧ IsCount json count := by
  constructor
  · intro read
    cases json with
    | number n =>
      cases n with
      | natural n =>
        simp only [Change.ofJson?, Option.ite_none_right_eq_some, Option.some.injEq] at read
        obtain ⟨small, rfl⟩ := read
        exact ⟨n, rfl, .intro (i := n) rfl (by omega) (by simpa using Int.ofNat_lt.mpr small)⟩
      | negative n =>
        -- counts as zero, but must be in range all the same
        cases read
        obtain ⟨positive, low⟩ := bounded.of_number
        have isCount : IsCount (.number (.negative n)) (-n : Int).toNat :=
          .intro rfl (by omega) (by omega)
        rw [Int.toNat_eq_zero.mpr (by omega)] at isCount
        exact ⟨0, rfl, isCount⟩
      | double => cases read
    | _ => cases read
  · rintro ⟨_, rfl, ⟨integer, low, high⟩⟩
    obtain ⟨n, rfl, rfl⟩ | ⟨n, rfl, rfl⟩ := Json.integer?_eq_some_iff.mp integer
    · have small : n < Nat.pow 2 63 := Int.ofNat_lt.mp high
      simp only [Change.ofJson?, if_pos small, Int.toNat_natCast]
    · rw [Int.toNat_eq_zero.mpr (by omega)]
      rfl

/-- The most digits are read from null or an unsigned integer of 64 bits. -/
theorem ofJson?_maxLength_iff (bounded : json.Bounded) :
    Change.ofJson? .maxLength json = some change ↔
      ∃ limit, change = .maxLength limit ∧ IsLimit json limit := by
  constructor
  · intro read
    cases json with
    | null =>
      cases read
      exact ⟨none, rfl, .null⟩
    | number n =>
      cases n with
      | natural n =>
        cases read
        have small : n < 2 ^ 64 := bounded.of_number
        exact ⟨some n, rfl, .integer (i := n) rfl (by omega) (by omega)⟩
      | _ => cases read
    | _ => cases read
  · rintro ⟨_, rfl, _ | ⟨integer, low, high⟩⟩
    · rfl
    · obtain ⟨n, rfl, rfl⟩ | ⟨n, rfl, rfl⟩ := Json.integer?_eq_some_iff.mp integer
      · rfl
      · obtain ⟨positive, -⟩ := bounded.of_number
        omega

/-- What a setting is changed to is read from a value of its type. -/
theorem ofJson?_eq_some_iff (bounded : json.Bounded) :
    Change.ofJson? field json = some change ↔ change.field = field ∧ IsSetting json change := by
  constructor
  · intro read
    cases field with
    | decimals =>
      obtain ⟨count, rfl, isCount⟩ := (ofJson?_decimals_iff bounded).mp read
      exact ⟨rfl, .decimals isCount⟩
    | maxLength =>
      obtain ⟨limit, rfl, isLimit⟩ := (ofJson?_maxLength_iff bounded).mp read
      exact ⟨rfl, .maxLength isLimit⟩
    | _ =>
      cases json with
      | string s =>
        cases read
        exact ⟨rfl, by constructor⟩
      | _ => cases read
  · rintro ⟨rfl, typed⟩
    cases typed with
    | decimals isCount => exact (ofJson?_decimals_iff bounded).mpr ⟨_, rfl, isCount⟩
    | maxLength isLimit => exact (ofJson?_maxLength_iff bounded).mpr ⟨_, rfl, isLimit⟩
    | _ => rfl

end One

/-! ### Rows -/

section Rows

variable {field : NumericField} {fields : List NumericField} {json : Json} {items : List Json}
  {change : Change} {changes : List Change}

/-- Without settings there are no values. -/
theorem IsRow.nil_eq (row : IsRow [] items changes) : items = [] := by
  obtain ⟨placed, typed⟩ := row
  obtain rfl := List.map_eq_nil_iff.mp (List.prefix_nil.mp placed)
  exact List.forall₂_nil_right_iff.mp typed

/-- The first value is of the type of the first setting, and a row follows. -/
theorem isRow_cons_iff :
    IsRow (field :: fields) (json :: items) changes ↔
      ∃ change rest, changes = change :: rest ∧ change.field = field ∧ IsSetting json change ∧
        IsRow fields items rest := by
  constructor
  · rintro ⟨placed, _ | ⟨typed, types⟩⟩
    obtain ⟨named, behind⟩ := List.cons_prefix_cons.mp placed
    exact ⟨_, _, rfl, named, typed, behind, types⟩
  · rintro ⟨change, rest, rfl, named, typed, placed, types⟩
    exact ⟨List.cons_prefix_cons.mpr ⟨named, placed⟩, .cons typed types⟩

/-- What a value of the type of a setting is, by the setting. -/
theorem IsSetting.of_field (typed : IsSetting json change) (named : change.field = field) :
    match field with
    | .before => ∃ s, json = .string s ∧ change = .before s
    | .after => ∃ s, json = .string s ∧ change = .after s
    | .delimiter => ∃ s, json = .string s ∧ change = .delimiter s
    | .separator => ∃ s, json = .string s ∧ change = .separator s
    | .decimals => ∃ count, IsCount json count ∧ change = .decimals count
    | .maxLength => ∃ limit, IsLimit json limit ∧ change = .maxLength limit := by
  subst named
  cases typed with
  | decimals isCount => exact ⟨_, isCount, rfl⟩
  | maxLength isLimit => exact ⟨_, isLimit, rfl⟩
  | _ s => exact ⟨s, rfl, rfl⟩

end Rows

/-! ### Settings together -/

section Together

variable {name : List Char} {field : NumericField} {changes : List Change}

/-- Names are looked up as they are listed. -/
theorem ofName?_eq_some_iff : NumericField.ofName? name = some field ↔ Names name field := by
  constructor
  · intro read
    obtain ⟨entry, found, rfl⟩ := Option.map_eq_some_iff.mp read
    have named : entry.1.toList = name := by simpa using List.find?_some found
    have listed := List.mem_of_find?_eq_some found
    subst named
    simp only [NumericField.names, NumericField.inOrder, NumericField.name, List.map_cons,
      List.map_nil, List.cons_append, List.nil_append, List.mem_cons, List.not_mem_nil,
      or_false] at listed
    obtain rfl | rfl | rfl | rfl | rfl | rfl | rfl := listed
    exacts [.before, .after, .delimiter, .separator, .decimals, .maxLength, .maxLength']
  · intro named
    cases named <;> rfl

/-- Members are read one by one, each under its own name. -/
theorem changesOfMembers?_eq_some_iff {members : List (List Char × Json)}
    (bounded : ∀ member ∈ members, member.2.Bounded) :
    NumericConfig.changesOfMembers? members = some changes ↔
      List.Forall₂ (fun member change => Names member.1 change.field ∧
        IsSetting member.2 change) members changes := by
  refine mapM_eq_some_iff fun member among change => ?_
  simp only [Option.bind_eq_bind, Option.bind_eq_some_iff, ofName?_eq_some_iff,
    ofJson?_eq_some_iff (bounded member among)]
  constructor
  · rintro ⟨_, named, rfl, typed⟩
    exact ⟨named, typed⟩
  · rintro ⟨named, typed⟩
    exact ⟨_, named, rfl, typed⟩

/-- Values are read in the order of the settings, as long as there are settings. -/
theorem mapM_zip_eq_some_iff {fields : List NumericField} {items : List Json}
    (bounded : ∀ item ∈ items, item.Bounded) :
    items.length ≤ fields.length ∧
        (fields.zip items).mapM (fun (field, value) => Change.ofJson? field value) = some changes ↔
      IsRow fields items changes := by
  induction items generalizing fields changes with
  | nil =>
    simp only [List.length_nil, Nat.zero_le, List.zip_nil_right, List.mapM_nil, Option.pure_def,
      Option.some.injEq, true_and]
    constructor
    · rintro rfl
      exact ⟨List.nil_prefix, .nil⟩
    · rintro ⟨-, _ | _⟩
      rfl
  | cons item items ih =>
    obtain ⟨first, rest⟩ := List.forall_mem_cons.mp bounded
    cases fields with
    | nil =>
      constructor
      · rintro ⟨long, -⟩
        cases long
      · intro row
        cases row.nil_eq
    | cons field fields =>
      rw [List.zip_cons_cons, List.mapM_cons]
      simp only [Option.bind_eq_bind, Option.bind_eq_some_iff, Option.pure_def, Option.some.injEq,
        ofJson?_eq_some_iff first, List.length_cons, Nat.add_le_add_iff_right, isRow_cons_iff]
      constructor
      · rintro ⟨short, change, ⟨named, typed⟩, changes, read, rfl⟩
        exact ⟨change, changes, rfl, named, typed, (ih rest).mp ⟨short, read⟩⟩
      · rintro ⟨change, changes, rfl, named, typed, row⟩
        obtain ⟨short, read⟩ := (ih rest).mpr row
        exact ⟨short, change, ⟨named, typed⟩, changes, read, rfl⟩

/-- Settings are read from an object if it is a record. -/
theorem NumericConfig.ofJson?_object_iff {members : List (List Char × Json)}
    {config : NumericConfig} (bounded : ∀ member ∈ members, member.2.Bounded) :
    NumericConfig.ofJson? (.object members) = some config ↔
      ∃ changes, IsRecord members changes ∧ config = ofChanges changes := by
  simp only [NumericConfig.ofJson?, Option.bind_eq_bind, Option.bind_eq_some_iff,
    changesOfMembers?_eq_some_iff bounded, Option.ite_none_right_eq_some, Option.some.injEq]
  constructor
  · rintro ⟨changes, each, once, rfl⟩
    exact ⟨changes, ⟨each, once⟩, rfl⟩
  · rintro ⟨changes, ⟨each, once⟩, rfl⟩
    exact ⟨changes, each, once, rfl⟩

/-- Settings are read from a list if it is a row. -/
theorem NumericConfig.ofJson?_array_iff {items : List Json} {config : NumericConfig}
    (bounded : ∀ item ∈ items, item.Bounded) :
    NumericConfig.ofJson? (.array items) = some config ↔
      ∃ changes, IsRow NumericField.inOrder items changes ∧ config = ofChanges changes := by
  simp only [NumericConfig.ofJson?, NumericConfig.changesOfItems?, Option.bind_eq_bind,
    Option.bind_eq_some_iff, Option.ite_none_right_eq_some, Option.some.injEq]
  constructor
  · rintro ⟨changes, read, rfl⟩
    exact ⟨changes, (mapM_zip_eq_some_iff bounded).mp read, rfl⟩
  · rintro ⟨changes, row, rfl⟩
    exact ⟨changes, (mapM_zip_eq_some_iff bounded).mpr row, rfl⟩

/-! ### Short and long rows -/

/-- A row is at most four texts, or it is a long row. -/
theorem IsRow.short_or_long {items : List Json} (row : IsRow NumericField.inOrder items changes) :
    (∃ texts : List (List Char), texts.length ≤ 4 ∧ items = texts.map Json.string) ∨
      IsLongRow items (ofChanges changes) := by
  obtain _ | ⟨_, items⟩ := items
  · exact .inl ⟨[], by decide, rfl⟩
  obtain ⟨_, changes, rfl, named, typed, row₁⟩ := isRow_cons_iff.mp row
  obtain ⟨before, rfl, rfl⟩ := typed.of_field named
  obtain _ | ⟨_, items⟩ := items
  · exact .inl ⟨[before], by simp, rfl⟩
  obtain ⟨_, changes, rfl, named, typed, row₂⟩ := isRow_cons_iff.mp row₁
  obtain ⟨after, rfl, rfl⟩ := typed.of_field named
  obtain _ | ⟨_, items⟩ := items
  · exact .inl ⟨[before, after], by simp, rfl⟩
  obtain ⟨_, changes, rfl, named, typed, row₃⟩ := isRow_cons_iff.mp row₂
  obtain ⟨delimiter, rfl, rfl⟩ := typed.of_field named
  obtain _ | ⟨_, items⟩ := items
  · exact .inl ⟨[before, after, delimiter], by simp, rfl⟩
  obtain ⟨_, changes, rfl, named, typed, row₄⟩ := isRow_cons_iff.mp row₃
  obtain ⟨separator, rfl, rfl⟩ := typed.of_field named
  obtain _ | ⟨_, items⟩ := items
  · exact .inl ⟨[before, after, delimiter, separator], by simp, rfl⟩
  obtain ⟨_, changes, rfl, named, typed, row₅⟩ := isRow_cons_iff.mp row₄
  obtain ⟨decimals, isCount, rfl⟩ := typed.of_field named
  obtain _ | ⟨_, items⟩ := items
  · cases row₅.typed
    exact .inr (.five isCount)
  obtain ⟨_, changes, rfl, named, typed, row₆⟩ := isRow_cons_iff.mp row₅
  obtain ⟨limit, isLimit, rfl⟩ := typed.of_field named
  obtain rfl := row₆.nil_eq
  cases row₆.typed
  exact .inr (.six isCount isLimit)

/-- A long row is a row. -/
theorem IsLongRow.exists_isRow {items : List Json} {config : NumericConfig}
    (long : IsLongRow items config) :
    ∃ changes, IsRow NumericField.inOrder items changes ∧ config = ofChanges changes := by
  cases long with
  | @five before after delimiter separator _ decimals isCount =>
    exact ⟨[.before before, .after after, .delimiter delimiter, .separator separator,
      .decimals decimals], ⟨⟨[.maxLength], rfl⟩, .cons (.before _) (.cons (.after _)
        (.cons (.delimiter _) (.cons (.separator _) (.cons (.decimals isCount) .nil))))⟩, rfl⟩
  | @six before after delimiter separator _ _ decimals limit isCount isLimit =>
    exact ⟨[.before before, .after after, .delimiter delimiter, .separator separator,
      .decimals decimals, .maxLength limit], ⟨⟨[], rfl⟩, .cons (.before _) (.cons (.after _)
        (.cons (.delimiter _) (.cons (.separator _) (.cons (.decimals isCount)
          (.cons (.maxLength isLimit) .nil)))))⟩, rfl⟩

end Together

end InputMask
