import InputMask.Proofs.InputLines
import InputMask.Proofs.JsonRoundTrip

/-!
# Results as lines of JSON

Whatever characters the texts of a result hold, its JSON object is written without a control
character, so without a line feed. The line feeds that are printed are then the ends of the lines,
there is one line for every value, and reading a line gives back both texts of its result.

## Main definitions

* `Json.IsPlain`: a text without control characters
* `IsResult`, `AreResults`: a line for an output, and a text with one line for each output

## Main results

* `Json.Exact.isPlain`: values are written without control characters
* `areResults_flatMap_line`: the lines of outputs
* `json_prints_result_lines`
-/

namespace InputMask

namespace Json

/-- A text has no control character. -/
def IsPlain (text : List Char) : Prop :=
  ∀ c ∈ text, 0x20 ≤ c.toNat

instance (text : List Char) : Decidable (IsPlain text) :=
  List.decidableBAll (0x20 ≤ Char.toNat ·) text

section Plain

variable {c : Char} {s text other : List Char} {json : Json} {depth : Nat}

@[simp] theorem isPlain_nil : IsPlain [] := nofun

@[simp] theorem isPlain_cons_iff : IsPlain (c :: text) ↔ 0x20 ≤ c.toNat ∧ IsPlain text :=
  List.forall_mem_cons

@[simp] theorem isPlain_append_iff : IsPlain (text ++ other) ↔ IsPlain text ∧ IsPlain other :=
  List.forall_mem_append

theorem IsPlain.feed_not_mem (plain : IsPlain text) : '\n' ∉ text :=
  fun among => absurd (plain _ among) (by decide)

theorem le_toNat_hexDigit {n : Nat} (small : n < 16) : 0x20 ≤ (hexDigit n).toNat := by
  revert n
  decide

/-- A control character is never written as it is. -/
theorem isPlain_escape (c : Char) : IsPlain (escape c) := by
  unfold escape
  split_ifs with _ _ _ _ _ _ _ control
  on_goal 9 => simpa using control
  on_goal 8 =>
    have high : 0x20 ≤ (hexDigit (c.toNat / 16)).toNat := le_toNat_hexDigit (by omega)
    have low : 0x20 ≤ (hexDigit (c.toNat % 16)).toNat := le_toNat_hexDigit (by omega)
    simp [high, low]
  all_goals decide

theorem isPlain_quote (s : List Char) : IsPlain (quote s) := by
  have body : IsPlain (s.flatMap escape) := by
    intro c among
    obtain ⟨d, -, here⟩ := List.mem_flatMap.mp among
    exact isPlain_escape d c here
  simp [quote, body]

theorem isPlain_digitsOf (n : Nat) : IsPlain (NumberText.digitsOf n) := by
  rw [digitsOf_eq_toDigits]
  intro c among
  have digit := isNumeral_toDigits n c among
  simp only [isDigit, Bool.and_eq_true, decide_eq_true_eq, Char.le_def] at digit
  exact Nat.le_trans (by decide) (UInt32.le_iff_toNat_le.mp digit.1)

theorem isPlain_writeItems {items : List Json} (plain : ∀ item ∈ items, IsPlain item.write) :
    IsPlain (writeItems items) := by
  induction items with
  | nil => simp [writeItems]
  | cons item items ih =>
    obtain ⟨first, others⟩ := List.forall_mem_cons.mp plain
    cases items with
    | nil => rwa [writeItems]
    | cons second items =>
      rw [writeItems.eq_3 _ _ (List.cons_ne_nil _ _)]
      simp [first, ih others]

theorem isPlain_writeMembers {members : List (List Char × Json)}
    (plain : ∀ member ∈ members, IsPlain member.2.write) : IsPlain (writeMembers members) := by
  induction members with
  | nil => simp [writeMembers]
  | cons member members ih =>
    obtain ⟨name, value⟩ := member
    obtain ⟨first, others⟩ := List.forall_mem_cons.mp plain
    cases members with
    | nil =>
      rw [writeMembers]
      simp [isPlain_quote, first]
    | cons second members =>
      rw [writeMembers.eq_3 _ _ _ (List.cons_ne_nil _ _)]
      simp [isPlain_quote, first, ih others]

/-- Values without doubles are written without control characters. -/
theorem Exact.isPlain (exact : json.Exact depth) : IsPlain json.write := by
  induction exact with
  | null =>
    rw [write]
    decide
  | bool b => cases b <;> rw [write] <;> decide
  | number exact =>
    rename_i n
    rw [write]
    cases n with
    | natural n => exact isPlain_digitsOf n
    | negative n => simp [writeNumber, isPlain_digitsOf]
    | double bits => exact exact.elim
  | string s =>
    rw [write]
    exact isPlain_quote s
  | array each ih =>
    rw [write]
    simp [isPlain_writeItems ih]
  | object each ih =>
    rw [write]
    simp [isPlain_writeMembers ih]

end Plain

end Json

namespace CommandLine

/-- A line has no control character, and it is read as an object with the two texts of an output
under their names and nothing else. -/
structure IsResult (out : Output) (line : List Char) : Prop where
  plain : ∀ c ∈ line, 0x20 ≤ c.toNat
  reads : Json.read line = .ok (.object
    [("masked".toList, .string out.masked), ("unmasked".toList, .string out.unmasked)])

/-- A text consists of the lines for some outputs in their order, each with a line feed behind it,
and its bytes are cut into just these lines. -/
def AreResults (outs : List Output) (text : List Char) : Prop :=
  ∃ lines, text = lines.flatMap (· ++ ['\n']) ∧ linesOf (encode text) = lines.map encode ∧
    List.Forall₂ IsResult outs lines

/-- The options used at either level of a command line. -/
def Arguments.uses (arguments : Arguments) : List Use :=
  arguments.top.uses ++ (arguments.numeric.map Reading.uses).getD []

section Results

variable {spec : Spec} {format : Format}

theorem exact_toJson (out : Output) (depth : Nat) : out.toJson.Exact (depth + 1) := by
  refine .object ?_
  rw [List.map_cons, List.map_cons, List.map_nil, List.forall_mem_cons, List.forall_mem_singleton]
  exact ⟨.string out.masked, .string out.unmasked⟩

/-- The JSON of an output is a line for it. -/
theorem isResult_toJson_write (out : Output) : IsResult out out.toJson.write :=
  ⟨(exact_toJson out 0).isPlain, Json.read_write (exact_toJson out _)⟩

/-- Texts that hold no line feed are the lines of what has them with a line feed behind each. -/
theorem linesOf_encode_flatMap {lines : List (List Char)} (plain : ∀ line ∈ lines, '\n' ∉ line) :
    linesOf (encode (lines.flatMap (· ++ ['\n']))) = lines.map encode := by
  rw [← linesOf_flatMap plain, encode, List.flatMap_assoc]
  congr 1
  refine List.flatMap_congr fun line _ => ?_
  exact encode_append line ['\n']

/-- The lines of outputs in JSON are lines for these outputs. -/
theorem areResults_flatMap_line (outs : List Output) :
    AreResults outs (outs.flatMap Format.json.line) := by
  have lined : outs.flatMap Format.json.line =
      (outs.map fun out => out.toJson.write).flatMap (· ++ ['\n']) := by
    rw [List.flatMap_map]
    rfl
  refine ⟨outs.map fun out => out.toJson.write, lined, ?_, ?_⟩
  · rw [lined]
    refine linesOf_encode_flatMap (List.forall_mem_map.mpr fun out _ => ?_)
    exact (exact_toJson out 0).isPlain.feed_not_mem
  · rw [List.forall₂_map_right_iff, List.forall₂_same]
    exact fun out _ => isResult_toJson_write out

theorem areResults_printed (spec : Spec) (values : List (List Char)) :
    AreResults (values.map spec.mask) (printed spec .json values) := by
  have results := areResults_flatMap_line (values.map spec.mask)
  rwa [List.flatMap_map] at results

/-- The lines of the input are printed up to the first that is no text. -/
theorem exists_stdout_run_input (spec : Spec) (format : Format) (input : List UInt8) :
    ∃ (texts : List (List Char)) (rest : List (List UInt8)),
      linesOf input = texts.map encode ++ rest ∧ (∀ line ∈ rest.head?, ¬ IsText line) ∧
        ((Job.mk spec format []).run input).stdout = printed spec format texts := by
  obtain ⟨texts, rest, lines, stops⟩ := exists_texts (linesOf input)
  refine ⟨texts, rest, lines, stops, ?_⟩
  rw [run_input_eq, lines, ofOutputs_append texts stops]
  split_ifs <;> rfl

/-- JSON is printed wherever it is asked for, at either level. -/
theorem format_ofArguments_eq_json {arguments : Arguments}
    (asked : ∃ use ∈ arguments.uses, use.opt = .json) :
    (Request.ofArguments arguments).format = .json := by
  obtain ⟨top, numeric⟩ := arguments
  have asked_any : (Arguments.uses ⟨top, numeric⟩).any (·.opt = .json) = true := by
    simpa using asked
  cases numeric with
  | none =>
    rw [Arguments.uses, Option.map_none, Option.getD_none, List.append_nil] at asked_any
    exact if_pos asked_any
  | some numeric => exact if_pos asked_any

/-- A run of a command line is that of its job. -/
theorem run_eq_of_job {arguments : List (List Char)} {files : Files} {parsed : Arguments}
    {job : Job} (read : Arguments.read arguments = .ok parsed)
    (found : (Request.ofArguments parsed).job files = .ok job) (input : List UInt8) :
    run arguments files input = job.run input := by
  have request : requestOf arguments = .ok (Request.ofArguments parsed) := by
    rw [requestOf, read]
    rfl
  rw [run, request, Json.ok_bind, jobOf, found]
  rfl

theorem format_of_job {request : Request} {files : Files} {job : Job}
    (found : request.job files = .ok job) : job.format = request.format := by
  unfold Request.job at found
  obtain ⟨spec, -, same⟩ := Json.bind_eq_ok_iff.mp found
  cases same
  rfl

end Results

/-- Where JSON is asked for, every value is printed as a line of its own, which has no control
character and is read as the object of its two texts; and so is every line of the input, up to the
first that is no text. -/
theorem json_prints_result_lines :
    (∀ spec values unread, values ≠ [] →
      AreResults (values.map spec.mask) ((Job.mk spec .json values).run unread).stdout) ∧
    (∀ spec input, ∃ (texts : List (List Char)) (rest : List (List UInt8)),
      linesOf input = texts.map encode ++ rest ∧ (∀ line ∈ rest.head?, ¬ IsText line) ∧
        AreResults (texts.map spec.mask) ((Job.mk spec .json []).run input).stdout) ∧
    ∀ arguments files parsed job input, Arguments.read arguments = .ok parsed →
      (∃ use ∈ parsed.uses, use.opt = .json) →
      (Request.ofArguments parsed).job files = .ok job →
      run arguments files input = (Job.mk job.spec .json job.values).run input := by
  refine ⟨fun spec values unread some_value => ?_, fun spec input => ?_, ?_⟩
  · rw [run_values_eq spec .json some_value]
    exact areResults_printed spec values
  · obtain ⟨texts, rest, lines, stops, stdout⟩ := exists_stdout_run_input spec .json input
    exact ⟨texts, rest, lines, stops, stdout ▸ areResults_printed spec texts⟩
  · intro arguments files parsed job input read asked found
    have format : job.format = .json :=
      (format_of_job found).trans (format_ofArguments_eq_json asked)
    rw [run_eq_of_job read found, ← format]

/-- A template with a quote, a backslash, a line feed and another control character prints two
lines for two values. -/
theorem json_prints_two_result_lines :
    let template := ['"', '\\', '\\', '\n', '\x01', '9']
    let spec := Spec.single (.literal template)
    let arguments := ["-m".toList, template, "--json".toList, "1x".toList, "y".toList]
    let outcome := run arguments (fun _ => .error .notFound) []
    AreResults (["1x".toList, "y".toList].map spec.mask) outcome.stdout ∧
      (spec.mask "1x".toList).masked = ['"', '\\', '\n', '\x01', '1'] ∧
      outcome.stdout = ("\x7b\"masked\":\"\\\"\\\\\\n\\u00011\",\"unmasked\":\"1\"\x7d\n" ++
        "\x7b\"masked\":\"\\\"\\\\\\n\\u0001\",\"unmasked\":\"\"\x7d\n").toList := by
  intro template spec arguments outcome
  let values := ["1x".toList, "y".toList]
  let parsed : Arguments := ⟨{ uses := [⟨.mask, [template]⟩, ⟨.json, []⟩], values }, none⟩
  obtain ⟨results, -, runs⟩ := json_prints_result_lines
  have read : Arguments.read arguments = .ok parsed := by decide +kernel
  have asked : ∃ use ∈ parsed.uses, use.opt = .json := ⟨⟨.json, []⟩, by decide, rfl⟩
  have outcome_eq : outcome = (Job.mk spec .json values).run [] :=
    runs arguments _ parsed ⟨spec, .json, values⟩ [] read asked rfl
  rw [outcome_eq]
  exact ⟨results spec values [] (by decide), by decide +kernel, by decide +kernel⟩

end CommandLine

end InputMask
