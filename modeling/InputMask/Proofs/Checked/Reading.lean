import InputMask.Proofs.Checked.Access
import InputMask.Proofs.Placeholders
import InputMask.Proofs.TemplateText

/-!
# Reading templates by index

A template is read with an index that runs over its characters, looks one character ahead behind
a backslash, and cuts groups out between the index and the closing bracket. The placeholders
behind each token are counted into a list of counts that is filled from its end.

## Main definitions

* `Checked.tokenize`: reads a template
* `Checked.mandatoryAfter`: for each token, the mandatory placeholders behind it

## Main results

* `Checked.tokenize_eq_ok`, `Checked.mandatoryAfter_eq_ok`: no access is out of range
-/

namespace InputMask.Checked

open Template (cons cutGroup? empty mandatory ofText)

/-! ### Tokens -/

section Tokens

variable {rest : List Char}

/-- A token put behind a template. -/
def push (template : Template) (token : Token) : Template :=
  ⟨template.tokens ++ [token], template.minLength + token.minWidth,
    template.maxLength + token.maxWidth⟩

/-- One template behind another. -/
def append (front back : Template) : Template :=
  ⟨front.tokens ++ back.tokens, front.minLength + back.minLength,
    front.maxLength + back.maxLength⟩

theorem append_empty (front : Template) : append front empty = front := by
  simp [append, empty]

theorem empty_append (back : Template) : append empty back = back := by
  simp [append, empty]

theorem append_cons (front back : Template) (token : Token) :
    append front (cons token back) = append (push front token) back := by
  simp [append, push, cons, Nat.add_assoc]

/-- Reads the characters from an index on, behind the tokens that are already read. -/
def tokenizeFrom (chars : List Char) (index : Nat) (seq : Template) : Except Violation Template :=
  if index < chars.length then do
    let c ← item chars index
    if c = '\\' then
      match chars[index + 1]? with
      | some escaped => tokenizeFrom chars (index + 2) (push seq (.literal escaped))
      | none => tokenizeFrom chars (index + 2) seq
    else if c = '[' then
      let behind ← slice chars (index + 1) chars.length
      match behind.findIdx? (· = ']') with
      | some offset =>
        let body ← slice chars (index + 1) (index + 1 + offset)
        tokenizeFrom chars (index + 1 + offset + 1) (push seq (.group (body.map Slot.ofChar)))
      | none => tokenizeFrom chars (index + 1) (push seq (.group []))
    else tokenizeFrom chars (index + 1) (push seq (.ofChar c))
  else .ok seq
termination_by chars.length - index

/-- Reads a template. -/
def tokenize (text : List Char) : Except Violation Template :=
  tokenizeFrom text 0 empty

/-- What is left of a template is read from any place as it is from the start. -/
def Resumes (rest : List Char) : Prop :=
  ∀ before seq, tokenizeFrom (before ++ rest) before.length seq = .ok (append seq (ofText rest))

theorem Resumes.behind (resumes : Resumes rest) (before passed : List Char) (seq : Template) :
    tokenizeFrom (before ++ (passed ++ rest)) (before.length + passed.length) seq =
      .ok (append seq (ofText rest)) := by
  rw [← List.append_assoc, ← List.length_append]
  exact resumes _ seq

/-- The first closing bracket is found where a group is cut. -/
theorem findIdx?_append_bracket (body behind : List Char) (inside : ']' ∉ body) :
    (body ++ ']' :: behind).findIdx? (· = ']') = some body.length := by
  have none_before : body.findIdx? (· = ']') = none := by
    rw [List.findIdx?_eq_none_iff]
    exact fun c among => decide_eq_false fun closing => inside (closing ▸ among)
  rw [List.findIdx?_append, none_before, Option.none_or, List.findIdx?_cons]
  simp

theorem findIdx?_eq_none_of_cutGroup? (no_cut : cutGroup? rest = none) :
    rest.findIdx? (· = ']') = none := by
  rw [List.findIdx?_eq_none_iff]
  exact fun c among => decide_eq_false fun closing =>
    cutGroup?_eq_none_iff.mp no_cut (closing ▸ among)

/-- Reading goes on from any place as it does from the start of what is left. -/
theorem resumes (rest : List Char) : Resumes rest := by
  -- one case for each equation of `ofText`
  induction rest using Template.ofText.induct with
  | case1 =>
    intro before seq
    rw [tokenizeFrom, if_neg (by simp), ofText, append_empty]
  | case2 =>
    intro before seq
    rw [tokenizeFrom, if_pos (by simp), item_append, Json.ok_bind, if_pos rfl]
    have ended : (before ++ ['\\'])[before.length + 1]? = none := by simp
    rw [ended]
    dsimp only
    rw [tokenizeFrom, if_neg (by simp), ofText, append_empty]
  | case3 c rest ih =>
    intro before seq
    have ahead : (before ++ '\\' :: c :: rest)[before.length + 1]? = some c := by simp
    rw [tokenizeFrom, if_pos (by simp), item_append, Json.ok_bind, if_pos rfl, ahead]
    dsimp only
    rw [ofText, append_cons]
    exact ih.behind before ['\\', c] _
  | case4 rest body behind cut ih =>
    intro before seq
    obtain ⟨rfl, inside⟩ := cutGroup?_eq_some_iff.mp cut
    rw [tokenizeFrom, if_pos (by simp), item_append, Json.ok_bind, if_neg (by decide), if_pos rfl,
      slice_append_cons_length, Json.ok_bind, findIdx?_append_bracket body behind inside]
    dsimp only
    rw [slice_append_cons, Json.ok_bind, ofText_group cut, append_cons]
    have passed : before.length + ('[' :: (body ++ [']'])).length =
        before.length + 1 + body.length + 1 := by
      simp only [List.length_cons, List.length_append, List.length_nil]
      omega
    have onward := ih.behind before ('[' :: (body ++ [']']))
      (push seq (.group (body.map Slot.ofChar)))
    rwa [passed, List.cons_append, List.append_assoc, List.singleton_append] at onward
  | case5 rest no_cut ih =>
    intro before seq
    rw [tokenizeFrom, if_pos (by simp), item_append, Json.ok_bind, if_neg (by decide), if_pos rfl,
      slice_append_cons_length, Json.ok_bind, findIdx?_eq_none_of_cutGroup? no_cut]
    dsimp only
    rw [ofText_unclosed no_cut, append_cons]
    exact ih.behind before ['['] _
  | case6 c rest noEscape noEscape' noGroup ih =>
    intro before seq
    have plain : c ≠ '\\' := by
      rintro rfl
      cases rest with
      | nil => exact noEscape rfl rfl
      | cons d rest => exact noEscape' d rest rfl rfl
    rw [tokenizeFrom, if_pos (by simp), item_append, Json.ok_bind, if_neg plain, if_neg noGroup,
      ofText_cons plain noGroup, append_cons]
    exact ih.behind before [c] _

/-- A template is read without an access out of range. -/
theorem tokenize_eq_ok (text : List Char) : tokenize text = .ok (ofText text) := by
  have whole := resumes text [] empty
  rwa [List.nil_append, empty_append] at whole

end Tokens

/-! ### Counts -/

section Counts

/-- The mandatory placeholders behind each token. -/
def countsBehind : List Token → List Nat
  | [] => []
  | _ :: tokens => mandatory tokens :: countsBehind tokens

theorem mandatoryAfter_eq (template : Template) :
    template.mandatoryAfter = countsBehind template.tokens := by
  have both (tokens : List Token) :
      tokens.foldr (fun token state => (token.minWidth + state.1, state.1 :: state.2)) (0, []) =
        (mandatory tokens, countsBehind tokens) := by
    induction tokens with
    | nil => rfl
    | cons token tokens ih => rw [List.foldr_cons, ih, mandatory_cons, countsBehind]
  exact congrArg Prod.snd (both template.tokens)

/-- Writes the count for one token. The state is the list of counts, and the placeholders seen. -/
def writeCount (state : List Nat × Nat) (entry : Token × Nat) :
    Except Violation (List Nat × Nat) := do
  let counts ← put state.1 entry.2 state.2
  return (counts, entry.1.minWidth + state.2)

/-- For each token, the mandatory placeholders behind it. The list of counts is filled from its
end. -/
def mandatoryAfter (tokens : List Token) : Except Violation (List Nat) := do
  let (counts, _) ← tokens.zipIdx.reverse.foldlM writeCount (List.replicate tokens.length 0, 0)
  return counts

/-- Counts are written behind those that are not written yet. -/
theorem foldrM_writeCount (front : List Nat) (tokens : List Token) :
    (tokens.zipIdx front.length).foldrM (fun entry state => writeCount state entry)
      (front ++ List.replicate tokens.length 0, 0) =
        .ok (front ++ countsBehind tokens, mandatory tokens) := by
  induction tokens generalizing front with
  | nil => rfl
  | cons token tokens ih =>
    -- the counts behind the token are written first, and its own is still zero then
    have behind := ih (front ++ [0])
    rw [List.length_append, List.append_assoc, List.append_assoc, List.length_singleton,
      List.singleton_append, List.singleton_append] at behind
    rw [List.zipIdx_cons, List.foldrM_cons, List.length_cons, List.replicate_succ, behind,
      Json.ok_bind, writeCount, put_append, Json.ok_bind, mandatory_cons]
    rfl

/-- The counts are written without an access out of range. -/
theorem mandatoryAfter_eq_ok (template : Template) :
    mandatoryAfter template.tokens = .ok template.mandatoryAfter := by
  have whole := foldrM_writeCount [] template.tokens
  rw [List.length_nil, List.nil_append] at whole
  rw [mandatoryAfter, List.foldlM_reverse, whole, mandatoryAfter_eq]
  rfl

theorem length_countsBehind (tokens : List Token) :
    (countsBehind tokens).length = tokens.length := by
  induction tokens with
  | nil => rfl
  | cons token tokens ih => rw [countsBehind, List.length_cons, List.length_cons, ih]

theorem getElem?_countsBehind_append (front : List Token) (token : Token) (back : List Token) :
    (countsBehind (front ++ token :: back))[front.length]? = some (mandatory back) := by
  induction front with
  | nil => rfl
  | cons first front ih =>
    rw [List.cons_append, countsBehind, List.length_cons, List.getElem?_cons_succ, ih]

/-- Every token has a count. -/
theorem item_countsBehind (front : List Token) (token : Token) (back : List Token) :
    item (countsBehind (front ++ token :: back)) front.length = .ok (mandatory back) := by
  rw [item, getElem?_countsBehind_append]

end Counts

end InputMask.Checked
