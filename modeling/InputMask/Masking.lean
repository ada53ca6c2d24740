import InputMask.Alignment
import InputMask.Numeric.Format
import InputMask.Selection

/-!
# Masking a value

A numeric specification formats the value as it is. Any other cleans it, chooses a
template, reads it and applies it. Masking never fails.

## Main definitions

* `Spec.mask`: the output for a value
* `Spec.maskEvents`: what is reported meanwhile
-/

namespace InputMask

namespace Spec

/-- The output of a specification for a value. -/
def mask (spec : Spec) (value : List Char) : Output :=
  match spec with
  | numeric config => formatNumeric config value
  | spec =>
    let raw := clean value
    let template := Template.ofText (spec.select raw).template
    (template.apply raw).truncateUnmasked template.maxLength

/-- The output for a value that may be missing; a missing one counts as empty. -/
def maskOption (spec : Spec) (value : Option (List Char)) : Output :=
  spec.mask (value.getD [])

/-- The events reported while a value is masked. -/
def maskEvents (spec : Spec) (value : List Char) : List Event :=
  match spec with
  | numeric config => (malformedNumber? config value).toList.map .numberRejected
  | spec =>
    let raw := clean value
    let selection := spec.select raw
    (selection.event? raw.length).toList ++ [.applying selection.template raw]

end Spec

end InputMask
