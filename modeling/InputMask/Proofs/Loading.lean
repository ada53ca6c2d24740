import InputMask.Proofs.JsonRoundTrip
import InputMask.SpecText.Load

/-!
# Specifications in texts that are JSON

Once a text is known to be a JSON value, loading it depends on that value alone: on the shape that
fits it, and on the patterns in that shape. If no shape fits, the text is refused.
-/

namespace InputMask

open Pattern (Compiler)

variable {text : List Char} {json : Json} {shape : Shape} {compiler : Compiler}

/-- The shape of a text that is read as a value of that shape. -/
theorem shapeOf_eq_ok (read : Json.read text = .ok json)
    (fits : Shape.ofJson? json = some shape) : Spec.shapeOf text = .ok shape := by
  obtain ⟨rest, front, ended⟩ := Json.read_eq_ok_iff.mp read
  have shaped : Spec.readShape text = .ok (shape, rest) := by
    rw [Spec.readShape, front]
    dsimp only
    rw [fits]
  rw [Spec.shapeOf, shaped, Json.ok_bind]
  dsimp only
  rw [Spec.endOf, ended]
  rfl

/-- A text that is read as a value of no shape is refused. -/
theorem shapeOf_eq_noShapeFits (read : Json.read text = .ok json)
    (none_fits : Shape.ofJson? json = none) : Spec.shapeOf text = .error noShapeFits := by
  obtain ⟨rest, front, -⟩ := Json.read_eq_ok_iff.mp read
  have unshaped : Spec.readShape text = .error noShapeFits := by
    rw [Spec.readShape, front]
    dsimp only
    rw [none_fits]
  rw [Spec.shapeOf, unshaped]
  rfl

/-- Settings of a numeric mask are loaded as they are read. -/
theorem load_eq_numeric {config : NumericConfig} (read : Json.read text = .ok json)
    (fits : Shape.ofJson? json = some (.item (.numeric config))) :
    Spec.load compiler text = .ok (.numeric config, []) := by
  rw [Spec.load, shapeOf_eq_ok read fits]
  rfl

/-- A list of items is loaded as its alternatives, or fails as they do. -/
theorem load_eq_alternatives (compiler : Compiler) {items : List Item}
    (shaped : Spec.shapeOf text = .ok (.list items)) :
    Spec.load compiler text =
      match Spec.alternativesOf compiler items with
      | .error invalid => .error (.invalidPattern invalid)
      | .ok list => .ok (.alternatives list, Spec.shapeEvents (.list items)) := by
  rw [Spec.load, shaped]
  dsimp only
  rw [Spec.ofShape]
  cases Spec.alternativesOf compiler items with
  | error invalid => rfl
  | ok list => rfl

theorem load_eq_noShapeFits (read : Json.read text = .ok json)
    (none_fits : Shape.ofJson? json = none) :
    Spec.load compiler text = .error (.invalidSpec noShapeFits) := by
  rw [Spec.load, shapeOf_eq_noShapeFits read none_fits]

end InputMask
