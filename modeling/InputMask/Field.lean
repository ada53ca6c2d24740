import InputMask.Masking

/-!
# A form field under a mask

A field shows the masked text of what was last put into it. Every edit changes the shown
text, masks the result and shows that.
-/

namespace InputMask

/-- A field: the specification in force and the text shown. -/
structure Field where
  spec : Spec
  shown : List Char

/-- One edit of a field. -/
inductive Edit where
  | append (text : List Char)
  | prepend (text : List Char)
  | replace (text : List Char)
  /-- Removes characters from the end, as far as there are any. -/
  | backspace (count : Nat)
  | respec (spec : Spec)

namespace Field

/-- A field with nothing in it. -/
def blank (spec : Spec) : Field :=
  ⟨spec, []⟩

/-- The field as edited, before it is masked again. -/
def change (field : Field) : Edit → Field
  | .append text => { field with shown := field.shown ++ text }
  | .prepend text => { field with shown := text ++ field.shown }
  | .replace text => { field with shown := text }
  | .backspace count => { field with shown := field.shown.take (field.shown.length - count) }
  | .respec spec => { field with spec := spec }

/-- Masks the shown text and shows the result. -/
def refresh (field : Field) : Output × Field :=
  let out := field.spec.mask field.shown
  (out, { field with shown := out.masked })

/-- One edit: the output it leads to, and the field afterwards. -/
def edit (field : Field) (e : Edit) : Output × Field :=
  (field.change e).refresh

end Field

end InputMask
