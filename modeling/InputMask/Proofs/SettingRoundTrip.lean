import InputMask.Numeric.Reader
import InputMask.Proofs.Loading
import InputMask.Proofs.ShapeGrammar

/-!
# Settings of a numeric mask are read as they were written

Settings are written as an object with one member for each of them. The reader of settings takes
the members one after the other, in front of anything that follows, and the reader of
specifications takes the object for settings, as no member has the name of a template. The only
number that is written and not read is one of the decimals that needs 64 bits: it is written
without a sign and read with one.

## Main definitions

* `NumericConfig.changes`: settings as changes to the standard ones
* `NumericConfig.Change.member`: the member of the object for a change
* `NumericConfig.Change.ReadsBack`: a change is read from its member

## Main results

* `NumericConfig.readMembers_writeMembers`, `NumericConfig.readMembers_eq_error`: members are read
  up to the first that is refused
* `NumericConfig.shape_ofJson?_toJson`: an object of settings fits no other shape
* `numeric_round_trip`: which settings are read back
-/

namespace InputMask

open Json (NoNumberGoesOn escape skipSpace)

namespace NumericConfig

/-- The JSON value that a change is written as. -/
def Change.json : Change → Json
  | before s => .string s
  | after s => .string s
  | delimiter s => .string s
  | separator s => .string s
  | decimals n => .nat n
  | maxLength none => .null
  | maxLength (some n) => .nat n

/-- The member that a change is written as. -/
def Change.member (change : Change) : List Char × Json :=
  (change.field.name.toList, change.json)

/-- The changes that make settings of the standard ones, in the order in which they are written. -/
def changes (config : NumericConfig) : List Change :=
  [.before config.before, .after config.after, .delimiter config.delimiter,
    .separator config.separator, .decimals config.decimals, .maxLength config.maxLength]

/-- What is wrong with a number of decimals that takes 64 bits. -/
def tooManyDecimals (n : Nat) : Json.Cause :=
  .data ("invalid value: integer `" ++ toString n ++ "`, expected i64").toList

/-- A change is read from what it is written as, in front of any text that continues no number. -/
def Change.ReadsBack (change : Change) : Prop :=
  ∀ rest, NoNumberGoesOn rest →
    readChange change.field (change.json.write ++ rest) = .ok (change, rest)

@[simp] theorem ofChanges_changes (config : NumericConfig) : ofChanges config.changes = config :=
  rfl

theorem toJson_eq (config : NumericConfig) :
    config.toJson = .object (config.changes.map Change.member) := by
  obtain ⟨before, after, delimiter, separator, decimals, maxLength⟩ := config
  cases maxLength <;> rfl

theorem map_field_changes (config : NumericConfig) :
    config.changes.map Change.field = NumericField.inOrder :=
  rfl

/-! ### One setting -/

section One

variable {change : Change} {n : Nat} {s rest : List Char}

theorem readText_write (s rest : List Char) :
    readText ((Json.string s).write ++ rest) = .ok (s, rest) := by
  have written : (Json.string s).write ++ rest = '"' :: (s.flatMap escape ++ '"' :: rest) := by
    simp [Json.write, Json.quote]
  rw [written, readText, Json.skipSpace_cons rfl]
  exact Json.readString_quote s rest

/-- A number starts with a digit. -/
theorem exists_write_nat_eq_cons (n : Nat) :
    ∃ c digits, (Json.nat n).write = c :: digits ∧ Json.isDecimal c = true := by
  obtain ⟨c, digits, numeral⟩ := List.exists_cons_of_ne_nil (Nat.toDigits_ne_nil (b := 10) (n := n))
  refine ⟨c, digits, ?_, isNumeral_toDigits n c (by simp [numeral])⟩
  rw [Json.nat, Json.write, Json.writeNumber, Json.digitsOf_eq_toDigits, numeral]

theorem skipSpace_write_nat (n : Nat) (rest : List Char) :
    skipSpace ((Json.nat n).write ++ rest) = (Json.nat n).write ++ rest := by
  obtain ⟨c, digits, written, decimal⟩ := exists_write_nat_eq_cons n
  rw [written]
  exact Json.skipSpace_cons (Json.isSpace_eq_false decimal)

theorem readNumberOr_write_nat (expected : String) (small : n < 2 ^ 64)
    (stops : NoNumberGoesOn rest) :
    readNumberOr expected ((Json.nat n).write ++ rest) = .ok (.natural n, rest) := by
  have read : Json.readNumber false ((Json.nat n).write ++ rest) = .ok (.natural n, rest) := by
    rw [Json.nat, Json.write]
    exact Json.readNumber_digitsOf small stops
  obtain ⟨c, digits, written, decimal⟩ := exists_write_nat_eq_cons n
  rw [written, List.cons_append] at read ⊢
  rw [readNumberOr.eq_2 _ _ _ (Json.ne_of_isDecimal decimal rfl), if_pos decimal, read]

/-- A number of decimals is read if it is one of 63 bits. -/
theorem readsBack_decimals (small : n < 2 ^ 63) : (Change.decimals n).ReadsBack := by
  intro rest stops
  have fits : n < 2 ^ 64 := by omega
  have read : readDecimals ((Json.nat n).write ++ rest) = .ok (n, rest) := by
    rw [readDecimals, skipSpace_write_nat, readNumberOr_write_nat _ fits stops, Json.ok_bind]
    exact if_pos small
  rw [Change.field, Change.json, readChange, read]
  rfl

/-- A greater number of decimals is refused. -/
theorem readChange_decimals_of_le (large : 2 ^ 63 ≤ n) (small : n < 2 ^ 64)
    (stops : NoNumberGoesOn rest) :
    readChange .decimals ((Json.nat n).write ++ rest) = wrongValue (.natural n) "i64" rest := by
  have read : readDecimals ((Json.nat n).write ++ rest) =
      wrongValue (.natural n) "i64" rest := by
    rw [readDecimals, skipSpace_write_nat, readNumberOr_write_nat _ small stops, Json.ok_bind]
    exact if_neg large.not_gt
  rw [readChange, read]
  rfl

theorem readsBack_maxLength {limit : Option Nat} (small : ∀ n ∈ limit, n < 2 ^ 64) :
    (Change.maxLength limit).ReadsBack := by
  intro rest stops
  have read : readLimit ((Change.maxLength limit).json.write ++ rest) = .ok (limit, rest) := by
    cases limit with
    | none =>
      rw [Change.json, Json.write]
      rfl
    | some n =>
      have number := readNumberOr_write_nat "usize" (small n rfl) stops
      obtain ⟨c, digits, written, decimal⟩ := exists_write_nat_eq_cons n
      rw [readLimit, Change.json, skipSpace_write_nat]
      rw [written, List.cons_append] at number ⊢
      split
      next same =>
        obtain ⟨rfl, -⟩ := List.cons_eq_cons.mp same
        cases decimal
      next =>
        rw [number]
        rfl
  rw [Change.field, readChange, read]
  rfl

/-- Texts are read alike, whatever setting they are for. -/
theorem readsBack_of_string (json : change.json = .string s) : change.ReadsBack := by
  intro rest _
  rw [json]
  cases change with
  | decimals n => cases json
  | maxLength limit => cases limit <;> cases json
  | _ s =>
    cases json
    rw [Change.field, readChange, readText_write]
    rfl

end One

/-! ### Members -/

section Members

variable {done changes good : List Change} {change : Change} {field : NumericField} {fuel : Nat}
  {text rest : List Char}

/-- What stands behind the value of a member: the end of the object, or another member. -/
inductive Behind (changes : List Change) (rest : List Char) : List Char → Prop
  | last (none_left : changes = []) : Behind changes rest ('\x7d' :: rest)
  | more {text : List Char}
      (written : Json.writeMembers (changes.map Change.member) = '"' :: text) :
      Behind changes rest (',' :: '"' :: (text ++ '\x7d' :: rest))

theorem Behind.noNumberGoesOn {behind : List Char} (follows : Behind changes rest behind) :
    NoNumberGoesOn behind := by
  cases follows <;> exact Json.noNumberGoesOn_cons_iff.mpr (by decide)

/-- The first member, with what stands behind it. -/
theorem exists_behind (rest : List Char)
    (written : Json.writeMembers ((change :: changes).map Change.member) =
    '"' :: text) :
    ∃ behind, Behind changes rest behind ∧
      text ++ '\x7d' :: rest = change.field.name.toList.flatMap escape ++
        '"' :: ':' :: (change.json.write ++ behind) := by
  cases changes with
  | nil =>
    refine ⟨_, .last rfl, ?_⟩
    rw [List.map_singleton, Change.member, Json.writeMembers_singleton] at written
    obtain ⟨-, rfl⟩ := List.cons_eq_cons.mp written
    simp
  | cons second changes =>
    have more : (second :: changes).map Change.member ≠ [] := List.cons_ne_nil _ _
    obtain ⟨others, follows⟩ := Json.exists_writeMembers_eq more
    refine ⟨_, .more follows, ?_⟩
    rw [List.map_cons, Change.member, Json.writeMembers_cons _ _ more, follows] at written
    obtain ⟨-, rfl⟩ := List.cons_eq_cons.mp written
    simp

/-- Every setting is found under its name. -/
theorem ofName?_name (field : NumericField) :
    NumericField.ofName? field.name.toList = some field := by
  cases field <;> rfl

/-- Behind the name of a setting that was not made yet, the change is read. -/
theorem readMembers_name (fresh : field ∉ done.map Change.field) (text : List Char) :
    readMembers done (fuel + 1) (field.name.toList.flatMap escape ++ '"' :: ':' :: text) =
      (do
        let (change, rest) ← readChange field text
        let (follows, rest) ← Json.nextMember (skipSpace rest)
        if follows then readMembers (done ++ [change]) fuel rest
        else return (done ++ [change], rest)) := by
  have unused : (done.map Change.field).contains field = false := by simpa using fresh
  have colon : Json.readColon (':' :: text) = .ok text := rfl
  rw [readMembers, Json.readString_quote, Json.ok_bind]
  dsimp only
  rw [ofName?_name]
  dsimp only
  rw [unused, if_neg Bool.false_ne_true, colon, Json.ok_bind]

/-- A member that is read back leaves the members behind it to be read. -/
theorem readMembers_cons (back : change.ReadsBack)
    (fresh : change.field ∉ done.map Change.field)
    (written : Json.writeMembers ((change :: changes).map Change.member) = '"' :: text) :
    readMembers done (fuel + 1) (text ++ '\x7d' :: rest) = .ok (done ++ [change], rest) ∧
        changes = [] ∨
      ∃ others, Json.writeMembers (changes.map Change.member) = '"' :: others ∧
        readMembers done (fuel + 1) (text ++ '\x7d' :: rest) =
          readMembers (done ++ [change]) fuel (others ++ '\x7d' :: rest) := by
  obtain ⟨behind, follows, same⟩ := exists_behind rest written
  rw [same, readMembers_name fresh, back _ follows.noNumberGoesOn, Json.ok_bind]
  cases follows with
  | last none_left => exact .inl ⟨rfl, none_left⟩
  | more others => exact .inr ⟨_, others, rfl⟩

/-- A setting that is made once was not made before. -/
theorem field_notMem_of_nodup (once : ((done ++ change :: changes).map Change.field).Nodup) :
    change.field ∉ done.map Change.field := by
  rw [List.map_append, List.map_cons, List.nodup_middle, List.nodup_cons] at once
  exact fun among => once.1 (List.mem_append_left _ among)

/-- Members that are read back are read up to the end of the object. -/
theorem readMembers_writeMembers (back : ∀ change ∈ changes, change.ReadsBack)
    (once : ((done ++ changes).map Change.field).Nodup) (enough : changes.length ≤ fuel)
    (written : Json.writeMembers (changes.map Change.member) = '"' :: text) :
    readMembers done fuel (text ++ '\x7d' :: rest) = .ok (done ++ changes, rest) := by
  induction changes generalizing done fuel text with
  | nil => cases written
  | cons change changes ih =>
    obtain ⟨first, others⟩ := List.forall_mem_cons.mp back
    obtain ⟨fuel, rfl⟩ := Nat.exists_eq_add_one_of_ne_zero (Nat.ne_zero_of_lt enough)
    rcases readMembers_cons first (field_notMem_of_nodup once) written with
      ⟨read, rfl⟩ | ⟨behind, written, read⟩
    · exact read
    · rw [List.append_cons done] at once ⊢
      rw [read]
      exact ih others once (Nat.le_of_succ_le_succ enough) written

/-- The first member that is refused is the fault of the object. -/
theorem readMembers_eq_error {cause : Json.Cause} (back : ∀ change ∈ good, change.ReadsBack)
    (refused : ∀ rest, NoNumberGoesOn rest → ∃ fault,
      readChange change.field (change.json.write ++ rest) = .error fault ∧ fault.cause = cause)
    (once : ((done ++ (good ++ change :: changes)).map Change.field).Nodup)
    (enough : good.length < fuel)
    (written : Json.writeMembers ((good ++ change :: changes).map Change.member) = '"' :: text) :
    ∃ fault, readMembers done fuel (text ++ '\x7d' :: rest) = .error fault ∧
      fault.cause = cause := by
  -- the changes that are read back are made one by one, and each takes a step of the fuel
  induction good generalizing done fuel text with
  | nil =>
    obtain ⟨fuel, rfl⟩ := Nat.exists_eq_add_one_of_ne_zero (Nat.ne_zero_of_lt enough)
    obtain ⟨behind, follows, same⟩ := exists_behind rest written
    obtain ⟨fault, read, caused⟩ := refused behind follows.noNumberGoesOn
    refine ⟨fault, ?_, caused⟩
    rw [same, readMembers_name (field_notMem_of_nodup once), read]
    rfl
  | cons first good ih =>
    obtain ⟨head, tail⟩ := List.forall_mem_cons.mp back
    obtain ⟨fuel, rfl⟩ := Nat.exists_eq_add_one_of_ne_zero (Nat.ne_zero_of_lt enough)
    rcases readMembers_cons head (field_notMem_of_nodup once) written with
      ⟨-, no_more⟩ | ⟨behind, written, read⟩
    · exact absurd no_more (by simp)
    · rw [read]
      rw [List.cons_append, List.append_cons done] at once
      exact ih tail once (Nat.lt_of_succ_lt_succ enough) written

end Members

/-! ### Settings together -/

section Together

variable {config : NumericConfig} {compiler : Pattern.Compiler}

theorem nodup_changes (config : NumericConfig) : (config.changes.map Change.field).Nodup := by
  rw [map_field_changes]
  decide

theorem forall_mem_changes {P : Change → Prop} :
    (∀ change ∈ config.changes, P change) ↔
      P (.before config.before) ∧ P (.after config.after) ∧ P (.delimiter config.delimiter) ∧
        P (.separator config.separator) ∧ P (.decimals config.decimals) ∧
        P (.maxLength config.maxLength) := by
  simp [changes]

/-- Every member takes a character at least. -/
theorem length_le_writeMembers (members : List (List Char × Json)) :
    members.length ≤ (Json.writeMembers members).length := by
  induction members with
  | nil => exact Nat.zero_le _
  | cons member members ih =>
    obtain ⟨name, value⟩ := member
    cases members with
    | nil => simp [Json.writeMembers_singleton]
    | cons second members =>
      rw [Json.writeMembers_cons _ _ (List.cons_ne_nil _ _)]
      simp only [List.length_cons, List.length_append] at ih ⊢
      omega

/-- Settings are read as the members of an object, with fuel enough. -/
theorem exists_readChanges_eq (config : NumericConfig) :
    ∃ text fuel, Json.writeMembers (config.changes.map Change.member) = '"' :: text ∧
      config.changes.length ≤ fuel ∧
      readChanges config.toJson.write = readMembers [] fuel (text ++ ['\x7d']) := by
  have some_member : config.changes.map Change.member ≠ [] := List.cons_ne_nil _ _
  obtain ⟨text, written⟩ := Json.exists_writeMembers_eq some_member
  refine ⟨text, (text ++ ['\x7d']).length + 1, written, ?_, ?_⟩
  · have enough := length_le_writeMembers (config.changes.map Change.member)
    rw [written, List.length_map, List.length_cons] at enough
    rw [List.length_append]
    exact enough.trans (by omega)
  · rw [toJson_eq, Json.write, written]
    rfl

/-- Settings are read back if their decimals are a number of 63 bits. -/
theorem read_write_toJson (decimals : config.decimals < 2 ^ 63)
    (limit : ∀ n ∈ config.maxLength, n < 2 ^ 64) : read config.toJson.write = .ok config := by
  obtain ⟨text, fuel, written, enough, same⟩ := exists_readChanges_eq config
  have back : ∀ change ∈ config.changes, change.ReadsBack :=
    forall_mem_changes.mpr ⟨readsBack_of_string rfl, readsBack_of_string rfl,
      readsBack_of_string rfl, readsBack_of_string rfl, readsBack_decimals decimals,
      readsBack_maxLength limit⟩
  have whole : readMembers [] fuel (text ++ ['\x7d']) = .ok (config.changes, []) :=
    readMembers_writeMembers back (nodup_changes config) enough written
  rw [read, same, whole, Json.ok_bind]
  rfl

/-- A number of decimals that is refused is named in the report. -/
theorem exists_wrongValue_eq (n : Nat) (rest : List Char) :
    ∃ fault, wrongValue (α := Change × List Char) (.natural n) "i64" rest = .error fault ∧
      fault.cause = tooManyDecimals n := by
  have front : "invalid value: integer `".toList =
      "invalid value: ".toList ++ "integer `".toList := rfl
  have back : "`, expected i64".toList = '`' :: (", expected ".toList ++ "i64".toList) := rfl
  have described : (Json.Number.natural n).describe =
      "integer `".toList ++ (toString n).toList ++ ['`'] := rfl
  refine ⟨_, rfl, ?_⟩
  simp only [tooManyDecimals, String.toList_append, front, back, described, List.append_assoc,
    List.singleton_append]

/-- Settings with more decimals are refused for that number. -/
theorem read_write_toJson_of_le (large : 2 ^ 63 ≤ config.decimals)
    (small : config.decimals < 2 ^ 64) :
    ∃ fault, read config.toJson.write = .error fault ∧
      fault.cause = tooManyDecimals config.decimals := by
  obtain ⟨text, fuel, written, enough, same⟩ := exists_readChanges_eq config
  have once := nodup_changes config
  have texts : ∀ change ∈ [Change.before config.before, .after config.after,
      .delimiter config.delimiter, .separator config.separator], change.ReadsBack := by
    simp only [List.forall_mem_cons]
    exact ⟨readsBack_of_string rfl, readsBack_of_string rfl, readsBack_of_string rfl,
      readsBack_of_string rfl, nofun⟩
  have refused : ∀ rest, NoNumberGoesOn rest → ∃ fault,
      readChange (Change.decimals config.decimals).field
        ((Change.decimals config.decimals).json.write ++ rest) = .error fault ∧
        fault.cause = tooManyDecimals config.decimals := by
    intro rest stops
    rw [Change.field, Change.json, readChange_decimals_of_le large small stops]
    exact exists_wrongValue_eq _ rest
  obtain ⟨fault, whole, caused⟩ : ∃ fault,
      readMembers [] fuel (text ++ ['\x7d']) = .error fault ∧
        fault.cause = tooManyDecimals config.decimals :=
    readMembers_eq_error texts refused once
      (Nat.lt_of_lt_of_le (Nat.lt_add_of_pos_right Nat.two_pos) enough) written
  refine ⟨fault, ?_, caused⟩
  rw [read, same, whole]
  rfl

theorem exact_toJson (decimals : config.decimals < 2 ^ 64)
    (limit : ∀ n ∈ config.maxLength, n < 2 ^ 64) : config.toJson.Exact Json.depthLimit := by
  rw [toJson_eq]
  refine .object (List.forall_mem_map.mpr (forall_mem_changes.mpr
    ⟨.string _, .string _, .string _, .string _, .number decimals, ?_⟩))
  cases bound : config.maxLength with
  | none => exact .null
  | some n => exact .number (limit n bound)

/-- The settings of a JSON value that settings were written as. -/
theorem ofJson?_toJson (config : NumericConfig) :
    NumericConfig.ofJson? config.toJson =
      if config.decimals < 2 ^ 63 then some config else none := by
  have member (change : Change) :
      (do
        let field ← NumericField.ofName? change.member.1
        Change.ofJson? field change.member.2) = Change.ofJson? change.field change.json := by
    rw [Change.member, ofName?_name]
    rfl
  have decimals : Change.ofJson? (Change.decimals config.decimals).field
      (Change.decimals config.decimals).json =
        if config.decimals < 2 ^ 63 then some (.decimals config.decimals) else none := rfl
  have limit : Change.ofJson? (Change.maxLength config.maxLength).field
      (Change.maxLength config.maxLength).json = some (.maxLength config.maxLength) := by
    cases config.maxLength <;> rfl
  have read : changesOfMembers? (config.changes.map Change.member) =
      if config.decimals < 2 ^ 63 then some config.changes else none := by
    rw [changesOfMembers?, List.mapM_map]
    simp only [Function.comp_def, member, changes, List.mapM_cons, List.mapM_nil, decimals, limit]
    split <;> rfl
  rw [toJson_eq, NumericConfig.ofJson?, read]
  split
  · rw [Option.bind_eq_bind, Option.bind_some, if_pos (nodup_changes config), ofChanges_changes]
  · rfl

/-- Settings that were written fit no other shape. -/
theorem shape_ofJson?_toJson (config : NumericConfig) :
    Shape.ofJson? config.toJson =
      if config.decimals < 2 ^ 63 then some (.item (.numeric config)) else none := by
  have plain : Never "mask" (config.changes.map Change.member) :=
    List.forall_mem_map.mpr fun change _ =>
      (ofName?_eq_some_iff.mp (ofName?_name change.field)).ne_mask
  have settings := ofJson?_toJson config
  rw [toJson_eq] at settings ⊢
  rw [Shape.ofJson?, ofItems?_eq_none (fun _ => Json.noConfusion), Item.ofJson?_object,
    ofObject?_eq_none plain, Option.none_or, Option.none_or, Item.ofSettings?, settings]
  split <;> rfl

end Together

end NumericConfig

open NumericConfig in
/-- Settings that are written are read back, as settings and as a specification, as long as the
number of their decimals takes no more than 63 bits. A greater number is refused by both. -/
theorem numeric_round_trip (compiler : Pattern.Compiler) (config : NumericConfig)
    (decimals : config.decimals < 2 ^ 64) (limit : ∀ n ∈ config.maxLength, n < 2 ^ 64) :
    (config.decimals ≤ 2 ^ 63 - 1 →
      NumericConfig.read config.toJson.write = .ok config ∧
        Spec.load compiler config.toJson.write = .ok (.numeric config, [])) ∧
    (2 ^ 63 - 1 < config.decimals →
      (∃ fault, NumericConfig.read config.toJson.write = .error fault ∧
        fault.cause = tooManyDecimals config.decimals) ∧
        Spec.load compiler config.toJson.write = .error (.invalidSpec noShapeFits)) := by
  have read := Json.read_write (exact_toJson decimals limit)
  have fits := shape_ofJson?_toJson config
  constructor
  · intro small
    have few : config.decimals < 2 ^ 63 := by omega
    rw [if_pos few] at fits
    exact ⟨read_write_toJson few limit, load_eq_numeric read fits⟩
  · intro large
    have many : 2 ^ 63 ≤ config.decimals := by omega
    rw [if_neg many.not_gt] at fits
    exact ⟨read_write_toJson_of_le many decimals, load_eq_noShapeFits read fits⟩

/-- Among texts of quotes and control characters, the greatest number of decimals is read back and
the number behind it is not. -/
theorem numeric_round_trip_two_sides :
    let config : NumericConfig :=
      ⟨['"', '\n'], ['\\'], [], ['\x00'], 2 ^ 63 - 1, some (2 ^ 64 - 1)⟩
    let large : NumericConfig := { config with decimals := 2 ^ 63 }
    large.decimals < 2 ^ 64 ∧ (∀ n ∈ config.maxLength, n < 2 ^ 64) ∧
      NumericConfig.read config.toJson.write = .ok config ∧
      Spec.load Pattern.compiler config.toJson.write = .ok (.numeric config, []) ∧
      (NumericConfig.read large.toJson.write).isOk = false ∧
      Spec.load Pattern.compiler large.toJson.write = .error (.invalidSpec noShapeFits) := by
  intro config large
  have limit : ∀ n ∈ config.maxLength, n < 2 ^ 64 := by
    simp [config]
  have few : config.decimals ≤ 2 ^ 63 - 1 := Nat.le_refl _
  have many : 2 ^ 63 - 1 < large.decimals := Nat.sub_one_lt (by decide)
  have fits : large.decimals < 2 ^ 64 := by decide
  obtain ⟨read, loaded⟩ :=
    (numeric_round_trip Pattern.compiler config (few.trans_lt (by decide)) limit).1 few
  obtain ⟨⟨fault, refused, -⟩, unloaded⟩ :=
    (numeric_round_trip Pattern.compiler large fits limit).2 many
  exact ⟨fits, limit, read, loaded, by rw [refused]; rfl, unloaded⟩

end InputMask
