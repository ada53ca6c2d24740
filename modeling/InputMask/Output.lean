/-!
# Masked and unmasked text

What masking a value produces: the text to show, literals included, and the canonical
text, which holds only what was taken from the value.
-/

namespace InputMask

/-- The two texts a mask makes of a value. -/
structure Output where
  masked : List Char
  unmasked : List Char
  deriving DecidableEq, Repr

namespace Output

/-- Nothing was written. -/
def empty : Output :=
  ⟨[], []⟩

/-- Whether both texts are empty. -/
def isEmpty (out : Output) : Bool :=
  out.masked.isEmpty && out.unmasked.isEmpty

/-- Keeps at most the given number of characters of the unmasked text. -/
def truncateUnmasked (out : Output) (limit : Nat) : Output :=
  { out with unmasked := out.unmasked.take limit }

@[simp]
theorem masked_truncateUnmasked (out : Output) (limit : Nat) :
    (out.truncateUnmasked limit).masked = out.masked := rfl

@[simp]
theorem unmasked_truncateUnmasked (out : Output) (limit : Nat) :
    (out.truncateUnmasked limit).unmasked = out.unmasked.take limit := rfl

@[simp]
theorem isEmpty_iff (out : Output) : out.isEmpty = true ↔ out = empty := by
  cases out
  simp [isEmpty, empty]

end Output

end InputMask
