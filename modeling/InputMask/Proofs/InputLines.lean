import InputMask.CommandLine.Run
import Mathlib.Tactic.SplitIfs
import Mathlib.Data.List.Forall2

/-!
# Lines of the input and values among the arguments

Values are masked alike, whether they are arguments or lines of the input. Lines are cut from
bytes, and each of them is a text or not; the first that is none ends the run, and what was
printed before it stays. The running function drops a carriage return in front of a line feed.
Lines are cut here without that, as nobody can tell the difference: bytes are a text with the
carriage return if they are one without it, and no mask keeps the character.

## Main definitions

* `encode`, `IsText`: the bytes of a text in UTF-8
* `linesOf`: bytes cut at the line feeds
* `IsSameLine`: lines that differ by a carriage return at the end
* `Outcome.ofOutputs`: the outcome for the outputs of lines, of which some may have none

## Main results

* `decode?_eq_some_iff`: decoding is the inverse of encoding
* `forall₂_isSameLine_cutLines`: the lines of the running function are those of `linesOf`
* `run_input_eq`: what a run does depends on the outputs of the lines alone
* `run_input_eq_run_values`
-/

namespace InputMask.CommandLine

/-- The bytes of a text in UTF-8. -/
def encode (text : List Char) : List UInt8 :=
  text.flatMap String.utf8EncodeChar

/-- Bytes that encode a text. -/
def IsText (bytes : List UInt8) : Prop :=
  ∃ text, bytes = encode text

/-- Bytes cut at the line feeds. There is no line behind a line feed at the end. -/
def linesOf (input : List UInt8) : List (List UInt8) :=
  let pieces := input.splitOn 10
  if pieces.getLast? = some [] then pieces.dropLast else pieces

/-- Lines that are the same, perhaps but for a carriage return at the end of the first one. -/
def IsSameLine (line other : List UInt8) : Prop :=
  line = other ∨ line = other ++ [13]

/-! ### Texts as bytes -/

section Bytes

variable {c : Char} {byte : UInt8} {bytes : List UInt8} {text : List Char}

@[simp] theorem encode_append (text added : List Char) :
    encode (text ++ added) = encode text ++ encode added :=
  List.flatMap_append

@[simp] theorem encode_singleton (c : Char) : encode [c] = String.utf8EncodeChar c :=
  List.flatMap_singleton ..

/-- A byte of the ASCII range stands for itself, and no character of several bytes has one. -/
theorem eq_of_mem_utf8EncodeChar (among : byte ∈ String.utf8EncodeChar c)
    (low : byte.toNat < 128) : String.utf8EncodeChar c = [byte] ∧ c.toNat = byte.toNat := by
  have none_low (codes : List Nat) (high : ∀ n ∈ codes, 128 ≤ n ∧ n < 256) :
      byte ∉ codes.map UInt8.ofNat := by
    intro among
    obtain ⟨n, member, rfl⟩ := List.mem_map.mp among
    obtain ⟨least, most⟩ := high n member
    rw [UInt8.toNat_ofNat_of_lt' most] at low
    exact Nat.not_lt.mpr least low
  unfold String.utf8EncodeChar at among ⊢
  dsimp only at among ⊢
  split_ifs at among ⊢ with one two three
  · obtain rfl := List.mem_singleton.mp among
    refine ⟨rfl, ?_⟩
    rw [UInt8.toNat_ofNat_of_lt' (Nat.lt_of_le_of_lt one (by decide))]
    rfl
  · refine absurd among (none_low [_, _] ?_)
    simp only [List.forall_mem_cons]
    exact ⟨by omega, by omega, nofun⟩
  · refine absurd among (none_low [_, _, _] ?_)
    simp only [List.forall_mem_cons]
    exact ⟨by omega, by omega, by omega, nofun⟩
  · refine absurd among (none_low [_, _, _, _] ?_)
    simp only [List.forall_mem_cons]
    exact ⟨by omega, by omega, by omega, by omega, nofun⟩

/-- Only a line feed is encoded with the byte of one. -/
theorem feed_mem_encode_iff : 10 ∈ encode text ↔ '\n' ∈ text := by
  constructor
  · intro among
    obtain ⟨c, member, here⟩ := List.mem_flatMap.mp among
    obtain ⟨-, code⟩ := eq_of_mem_utf8EncodeChar here (by decide)
    obtain rfl : c = '\n' := Char.toNat_inj.mp code
    exact member
  · intro member
    exact List.mem_flatMap.mpr ⟨'\n', member, by decide⟩

/-- Bytes decode to a text if they are its encoding. -/
theorem decode?_eq_some_iff : decode? bytes = some text ↔ bytes = encode text := by
  have whole : (encode text).toByteArray = text.utf8Encode := rfl
  unfold decode? String.fromUTF8?
  constructor
  · intro decoded
    split at decoded
    next valid =>
      obtain ⟨s, same, rfl⟩ := Option.map_eq_some_iff.mp decoded
      cases same
      have bytesOf := String.utf8Encode_toList (b := String.fromUTF8 bytes.toByteArray valid)
      rw [← List.toList_data_toByteArray (l := encode _), whole, bytesOf]
      exact List.toList_data_toByteArray.symm
    · cases decoded
  · rintro rfl
    have valid : (encode text).toByteArray.IsValidUTF8 := .intro text whole
    have same : String.fromUTF8 (encode text).toByteArray valid = String.ofList text := by
      rw [← String.toByteArray_inj, String.toByteArray_ofList]
      rfl
    rw [dif_pos valid, Option.map_some, same, String.toList_ofList]

theorem decode?_eq_none_iff : decode? bytes = none ↔ ¬ IsText bytes := by
  rw [Option.eq_none_iff_forall_ne_some, IsText, not_exists]
  exact forall_congr' fun text => decode?_eq_some_iff.not

@[simp] theorem decode?_encode (text : List Char) : decode? (encode text) = some text :=
  decode?_eq_some_iff.mpr rfl

/-- A carriage return behind bytes is one behind their text. -/
theorem decode?_append_return (bytes : List UInt8) :
    decode? (bytes ++ [13]) = (decode? bytes).map (· ++ ['\r']) := by
  ext text
  rw [Option.map_eq_some_iff]
  simp only [decode?_eq_some_iff]
  constructor
  · intro whole
    rcases List.eq_nil_or_concat text with rfl | ⟨front, c, rfl⟩
    · cases List.append_ne_nil_of_right_ne_nil bytes (List.cons_ne_nil 13 []) whole
    · rw [List.concat_eq_append, encode_append, encode_singleton] at whole
      have last : 13 ∈ String.utf8EncodeChar c := by
        have ends := congrArg List.getLast? whole
        rw [List.getLast?_concat, List.getLast?_append_of_ne_nil _ String.utf8EncodeChar_ne_nil]
          at ends
        exact List.mem_of_getLast? ends.symm
      obtain ⟨alone, code⟩ := eq_of_mem_utf8EncodeChar last (by decide)
      obtain rfl : c = '\r' := Char.toNat_inj.mp code
      rw [alone] at whole
      exact ⟨front, List.append_cancel_right whole, by simp⟩
  · rintro ⟨front, rfl, rfl⟩
    rw [encode_append, encode_singleton]
    rfl

end Bytes

/-! ### Lines -/

section Lines

variable {line : List UInt8}

@[simp] theorem linesOf_nil : linesOf [] = [] := by
  simp [linesOf]

/-- Bytes without a line feed are one line. -/
theorem linesOf_eq_singleton (noFeed : 10 ∉ line) (some_byte : line ≠ []) :
    linesOf line = [line] := by
  simp [linesOf, List.splitOn_eq_singleton noFeed, some_byte]

/-- Bytes in front of a line feed are a line. -/
theorem linesOf_append_feed (noFeed : 10 ∉ line) (rest : List UInt8) :
    linesOf (line ++ 10 :: rest) = line :: linesOf rest := by
  -- there is a piece behind every line feed, so the last piece of the input is one of `rest`
  have pieces := List.splitOn_ne_nil 10 rest
  rw [linesOf, linesOf, List.splitOn_append_cons_self_of_not_mem noFeed]
  simp only [List.getLast?_cons_of_ne_nil pieces, List.dropLast_cons_of_ne_nil pieces]
  split_ifs <;> rfl

theorem isSameLine_withoutReturn (line : List UInt8) :
    IsSameLine line.reverse (withoutReturn line).reverse := by
  unfold withoutReturn
  split
  · exact Or.inr List.reverse_cons
  · exact Or.inl rfl

/-- The lines that were cut before stand in front. -/
theorem cutLines_eq_append (done : List (List UInt8)) (line input : List UInt8) :
    cutLines done line input = done.reverse ++ cutLines [] line input := by
  induction input generalizing done line with
  | nil =>
    unfold cutLines
    split <;> simp
  | cons byte rest ih =>
    unfold cutLines
    split
    · rw [ih, ih [_]]
      simp
    · exact ih done _

/-- Lines are cut as `linesOf` does, but for carriage returns. -/
theorem forall₂_isSameLine_cutLines (noFeed : 10 ∉ line) (input : List UInt8) :
    List.Forall₂ IsSameLine (linesOf (line.reverse ++ input)) (cutLines [] line input) := by
  have noFeed' : 10 ∉ line.reverse := by rwa [List.mem_reverse]
  induction input generalizing line with
  | nil =>
    rw [List.append_nil, cutLines]
    by_cases blank : line = []
    · subst blank
      exact .nil
    · rw [linesOf_eq_singleton noFeed' (by simpa using blank), if_neg (by simpa using blank)]
      exact .cons (Or.inl rfl) .nil
  | cons byte rest ih =>
    rw [cutLines]
    by_cases feed : byte = 10
    · subst feed
      rw [if_pos rfl, linesOf_append_feed noFeed', cutLines_eq_append]
      exact .cons (isSameLine_withoutReturn line) (ih List.not_mem_nil List.not_mem_nil)
    · rw [if_neg feed, List.append_cons, ← List.reverse_cons]
      have longer : 10 ∉ byte :: line := by simp [Ne.symm feed, noFeed]
      exact ih longer (by rwa [List.mem_reverse])

/-- A carriage return in front of a line feed leaves the lines the same. -/
theorem forall₂_isSameLine_drop_return (noFeed : 10 ∉ line) (before behind : List UInt8) :
    List.Forall₂ IsSameLine (linesOf (line ++ (before ++ 13 :: 10 :: behind)))
      (linesOf (line ++ (before ++ 10 :: behind))) := by
  have same : List.Forall₂ IsSameLine (linesOf behind) (linesOf behind) :=
    List.forall₂_same.mpr fun _ _ => Or.inl rfl
  induction before generalizing line with
  | nil =>
    have longer : 10 ∉ line ++ [13] := by simp [noFeed]
    rw [List.nil_append, List.nil_append, List.append_cons, linesOf_append_feed longer,
      linesOf_append_feed noFeed]
    exact .cons (Or.inr rfl) same
  | cons byte before ih =>
    by_cases feed : byte = 10
    · subst feed
      rw [List.cons_append, List.cons_append, linesOf_append_feed noFeed,
        linesOf_append_feed noFeed]
      exact .cons (Or.inl rfl) (ih List.not_mem_nil)
    · have longer : 10 ∉ line ++ [byte] := by simp [Ne.symm feed, noFeed]
      rw [List.cons_append, List.cons_append, List.append_cons line byte (before ++ 13 :: _),
        List.append_cons line byte (before ++ 10 :: _)]
      exact ih longer

/-- Texts with a line feed behind each are lines. -/
theorem linesOf_flatMap {values : List (List Char)} (plain : ∀ value ∈ values, '\n' ∉ value) :
    linesOf (values.flatMap fun value => encode value ++ [10]) = values.map encode := by
  induction values with
  | nil => exact linesOf_nil
  | cons value values ih =>
    obtain ⟨first, others⟩ := List.forall_mem_cons.mp plain
    have noFeed : 10 ∉ encode value := feed_mem_encode_iff.not.mpr first
    rw [List.flatMap_cons, List.append_assoc, List.singleton_append, linesOf_append_feed noFeed,
      ih others, List.map_cons]

/-- Lines are texts up to the first that is none. -/
theorem exists_texts (lines : List (List UInt8)) :
    ∃ (texts : List (List Char)) (rest : List (List UInt8)),
      lines = texts.map encode ++ rest ∧ ∀ line ∈ rest.head?, ¬ IsText line := by
  induction lines with
  | nil => exact ⟨[], [], rfl, nofun⟩
  | cons line lines ih =>
    by_cases isText : IsText line
    · obtain ⟨text, rfl⟩ := isText
      obtain ⟨texts, rest, rfl, stops⟩ := ih
      exact ⟨text :: texts, rest, rfl, stops⟩
    · refine ⟨[], line :: lines, rfl, ?_⟩
      intro first here
      obtain rfl : line = first := by simpa using here
      exact isText

end Lines

/-! ### Runs -/

section Runs

variable {spec : Spec} {format : Format}

/-- Behind a value, characters that are no ASCII letters or digits make no difference. -/
theorem mask_append_of_noise (spec : Spec) (value : List Char) {added : List Char}
    (noise : ∀ c ∈ added, isAlphanumeric c = false) :
    spec.mask (value ++ added) = spec.mask value := by
  have cleaned : clean (value ++ added) = clean value := by
    have dropped : clean added = [] := List.filter_eq_nil_iff.mpr fun c among => by
      simp [noise c among]
    rw [clean_append, dropped, List.append_nil]
  have digits : (value ++ added).filter isDigit = value.filter isDigit := by
    have dropped : added.filter isDigit = [] := by
      refine List.filter_eq_nil_iff.mpr fun c among digit => ?_
      have plain := noise c among
      rw [isAlphanumeric, digit, Bool.true_or] at plain
      cases plain
    rw [List.filter_append, dropped, List.append_nil]
  cases spec with
  | numeric config =>
    simp only [Spec.mask, formatNumeric, amount?, keptDigits, digits]
  | single alternative => simp only [Spec.mask, cleaned]
  | alternatives list => simp only [Spec.mask, cleaned]

/-- The output for a line that is a text. -/
def outputOf? (spec : Spec) (line : List UInt8) : Option Output :=
  (decode? line).map spec.mask

/-- An outcome with something printed before. -/
def Outcome.behind (stdout : List Char) (outcome : Outcome) : Outcome :=
  { outcome with stdout := stdout ++ outcome.stdout }

/-- The outcome for the outputs of lines, one after the other. The first line without an output
ends the run. -/
def Outcome.ofOutputs (format : Format) : List (Option Output) → Outcome
  | [] => .success []
  | none :: _ => .failure [] .undecodableInput
  | some out :: outputs => (ofOutputs format outputs).behind (format.line out)

@[simp] theorem outputOf?_encode (text : List Char) :
    outputOf? spec (encode text) = some (spec.mask text) := by
  rw [outputOf?, decode?_encode, Option.map_some]

theorem outputOf?_eq_none_iff {line : List UInt8} :
    outputOf? spec line = none ↔ ¬ IsText line := by
  rw [outputOf?, Option.map_eq_none_iff, decode?_eq_none_iff]

/-- A carriage return at the end of a line does not show in its output. -/
theorem IsSameLine.outputOf?_eq {line other : List UInt8} (same : IsSameLine line other) :
    outputOf? spec line = outputOf? spec other := by
  rcases same with rfl | rfl
  · rfl
  · rw [outputOf?, outputOf?, decode?_append_return, Option.map_map]
    congr 1
    funext text
    exact mask_append_of_noise spec text (List.forall_mem_singleton.mpr rfl)

theorem map_outputOf?_eq {lines others : List (List UInt8)}
    (same : List.Forall₂ IsSameLine lines others) :
    lines.map (outputOf? spec) = others.map (outputOf? spec) := by
  induction same with
  | nil => rfl
  | cons first _ ih => rw [List.map_cons, List.map_cons, first.outputOf?_eq, ih]

/-- The running function prints the outputs of the lines that it cuts. -/
theorem runOnInput_eq_ofOutputs (job : Job) (input : List UInt8) :
    job.runOnInput input =
      Outcome.ofOutputs job.format ((cutLines [] [] input).map (outputOf? job.spec)) := by
  rw [Job.runOnInput, readLines]
  dsimp only
  induction cutLines [] [] input with
  | nil => rfl
  | cons line lines ih =>
    rw [List.map_cons, List.map_cons, outputOf?]
    cases decode? line with
    | none => rfl
    | some text =>
      rw [Option.map_some, Outcome.ofOutputs, ← ih]
      simp only [List.any_cons, Option.isNone_some, Bool.false_or, List.takeWhile_cons,
        Option.isSome_some, if_true, List.filterMap_cons, id, printed, List.flatMap_cons]
      split_ifs <;> rfl

/-- A run on the input depends on the outputs of its lines alone. -/
theorem run_input_eq (spec : Spec) (format : Format) (input : List UInt8) :
    (Job.mk spec format []).run input =
      Outcome.ofOutputs format ((linesOf input).map (outputOf? spec)) := by
  have same := forall₂_isSameLine_cutLines List.not_mem_nil input
  rw [List.reverse_nil, List.nil_append] at same
  rw [map_outputOf?_eq same]
  exact runOnInput_eq_ofOutputs _ input

/-- The values among the arguments are printed one after the other. -/
theorem run_values_eq (spec : Spec) (format : Format) {values : List (List Char)}
    (some_value : values ≠ []) (unread : List UInt8) :
    (Job.mk spec format values).run unread = .success (printed spec format values) := by
  rw [Job.run, if_neg]
  simpa [Job.readsInput] using some_value

theorem stdout_run_value (spec : Spec) (format : Format) (text : List Char)
    (unread : List UInt8) :
    ((Job.mk spec format [text]).run unread).stdout = format.line (spec.mask text) := by
  rw [run_values_eq spec format (List.cons_ne_nil _ _)]
  exact List.flatMap_singleton ..

/-- Texts are printed, and the run fails if lines follow of which the first is no text. -/
theorem ofOutputs_append (texts : List (List Char)) {rest : List (List UInt8)}
    (stops : ∀ line ∈ rest.head?, ¬ IsText line) :
    Outcome.ofOutputs format ((texts.map encode ++ rest).map (outputOf? spec)) =
      if rest = [] then .success (printed spec format texts)
      else .failure (printed spec format texts) .undecodableInput := by
  induction texts with
  | nil =>
    cases rest with
    | nil => rfl
    | cons line rest =>
      have none_here : outputOf? spec line = none := outputOf?_eq_none_iff.mpr (stops line rfl)
      rw [List.map_nil, List.nil_append, List.map_cons, none_here, if_neg (List.cons_ne_nil _ _)]
      rfl
  | cons text texts ih =>
    rw [List.map_cons, List.cons_append, List.map_cons, outputOf?_encode, Outcome.ofOutputs, ih]
    split_ifs <;> rfl

end Runs

/-- Lines of the input are printed as values among the arguments are, each for itself, up to the
first that is no text; and the run fails if there is such a line. So the input may hold the values
of the arguments with a line feed behind each, if none holds a line feed itself, and a carriage
return in front of a line feed makes no difference. -/
theorem run_input_eq_run_values (spec : Spec) (format : Format) :
    (∀ input, ∃ (texts : List (List Char)) (rest : List (List UInt8)),
      linesOf input = texts.map encode ++ rest ∧ (∀ line ∈ rest.head?, ¬ IsText line) ∧
      ((Job.mk spec format []).run input).stdout =
        texts.flatMap (fun text => ((Job.mk spec format [text]).run []).stdout) ∧
      (((Job.mk spec format []).run input).exitCode ≠ 0 ↔
        ∃ line ∈ linesOf input, ¬ IsText line)) ∧
    (∀ values unread, values ≠ [] → (∀ value ∈ values, '\n' ∉ value) →
      (Job.mk spec format []).run (values.flatMap fun value => encode value ++ [10]) =
        (Job.mk spec format values).run unread) ∧
    ∀ before behind, (Job.mk spec format []).run (before ++ 13 :: 10 :: behind) =
      (Job.mk spec format []).run (before ++ 10 :: behind) := by
  refine ⟨fun input => ?_, fun values unread some_value plain => ?_, fun before behind => ?_⟩
  · obtain ⟨texts, rest, lines, stops⟩ := exists_texts (linesOf input)
    have isText : ∀ line ∈ texts.map encode, IsText line := by
      intro line among
      obtain ⟨text, -, rfl⟩ := List.mem_map.mp among
      exact ⟨text, rfl⟩
    refine ⟨texts, rest, lines, stops, ?_, ?_⟩ <;>
      rw [run_input_eq, lines, ofOutputs_append texts stops]
    · simp only [stdout_run_value]
      split_ifs <;> rfl
    · cases rest with
      | nil =>
        rw [if_pos rfl, List.append_nil]
        simpa [Outcome.success] using isText
      | cons line rest =>
        rw [if_neg (List.cons_ne_nil _ _)]
        refine iff_of_true Nat.one_ne_zero ⟨line, by simp, stops line rfl⟩
  · rw [run_input_eq, run_values_eq spec format some_value, linesOf_flatMap plain]
    have outcome : Outcome.ofOutputs format ((values.map encode ++ []).map (outputOf? spec)) =
        .success (printed spec format values) := ofOutputs_append values nofun
    rwa [List.append_nil] at outcome
  · have same := forall₂_isSameLine_drop_return List.not_mem_nil before behind
    rw [List.nil_append, List.nil_append] at same
    rw [run_input_eq, run_input_eq, map_outputOf?_eq same]

/-- Three values, one of them empty and one with a carriage return at its end, are printed as three
lines of the input are. -/
theorem run_input_eq_run_three_values :
    let values := ["12\r".toList, [], "é34".toList]
    let job := Job.mk (.single (.literal "9-9".toList)) .unmasked
    values ≠ [] ∧ (∀ value ∈ values, '\n' ∉ value) ∧
      (job []).run (values.flatMap fun value => encode value ++ [10]) = (job values).run [] ∧
      ((job values).run []).stdout = "12\n\n34\n".toList :=
  ⟨by decide, by decide,
    (run_input_eq_run_values (.single (.literal "9-9".toList)) .unmasked).2.1 _ [] (by decide)
      (by decide),
    by decide +kernel⟩

end InputMask.CommandLine
