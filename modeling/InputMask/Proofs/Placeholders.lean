import InputMask.Template

/-!
# The placeholders of a template

What a template asks of the raw text is a list of character classes: those of its mandatory
placeholders, in order, and for each group those of its items.

## Main definitions

* `classes`, `slotClasses`: the classes of the placeholders among tokens and among items

## Main results

* `length_classes`, `minLength_ofText`: the least length of a template is the number of its
  mandatory placeholders
-/

namespace InputMask

/-- The class of a placeholder item. -/
def Slot.placeholder? : Slot → Option CharClass
  | literal _ => none
  | placeholder k => some k

/-- The class of a mandatory placeholder. -/
def Token.placeholder? : Token → Option CharClass
  | literal _ => none
  | placeholder k => some k
  | group _ => none

/-- The classes of the placeholders among some items, in order. -/
def slotClasses (items : List Slot) : List CharClass :=
  items.filterMap Slot.placeholder?

/-- The classes of the mandatory placeholders among some tokens, in order. -/
def classes (tokens : List Token) : List CharClass :=
  tokens.filterMap Token.placeholder?

section Items

variable (items : List Slot)

@[simp] theorem slotClasses_nil : slotClasses [] = [] := rfl

@[simp] theorem slotClasses_literal (c : Char) :
    slotClasses (.literal c :: items) = slotClasses items := rfl

@[simp] theorem slotClasses_placeholder (k : CharClass) :
    slotClasses (.placeholder k :: items) = k :: slotClasses items := rfl

@[simp] theorem slotClasses_append (others : List Slot) :
    slotClasses (items ++ others) = slotClasses items ++ slotClasses others :=
  List.filterMap_append

variable {items}

theorem mem_slotClasses {k : CharClass} :
    k ∈ slotClasses items ↔ .placeholder k ∈ items := by
  induction items with
  | nil => simp
  | cons item items ih => cases item <;> simp [ih]

/-- Items without a placeholder end in a literal. -/
theorem exists_getLast?_literal (some_item : items ≠ []) (none : slotClasses items = []) :
    ∃ c, items.getLast? = some (.literal c) := by
  have last := List.getLast?_eq_some_getLast some_item
  cases item : items.getLast some_item with
  | literal c => exact ⟨c, item ▸ last⟩
  | placeholder k =>
    have member : k ∈ slotClasses items := mem_slotClasses.mpr (item ▸ List.getLast_mem _)
    simp [none] at member

end Items

section Tokens

variable (tokens others : List Token)

@[simp] theorem classes_nil : classes [] = [] := rfl

@[simp] theorem classes_literal (c : Char) :
    classes (.literal c :: tokens) = classes tokens := rfl

@[simp] theorem classes_placeholder (k : CharClass) :
    classes (.placeholder k :: tokens) = k :: classes tokens := rfl

@[simp] theorem classes_group (items : List Slot) :
    classes (.group items :: tokens) = classes tokens := rfl

@[simp] theorem classes_append :
    classes (tokens ++ others) = classes tokens ++ classes others :=
  List.filterMap_append

@[simp] theorem mandatory_nil : Template.mandatory [] = 0 := rfl

@[simp] theorem mandatory_literal (c : Char) :
    Template.mandatory (.literal c :: tokens) = Template.mandatory tokens := rfl

@[simp] theorem mandatory_placeholder (k : CharClass) :
    Template.mandatory (.placeholder k :: tokens) = Template.mandatory tokens + 1 :=
  List.countP_cons_of_pos rfl

@[simp] theorem mandatory_group (items : List Slot) :
    Template.mandatory (.group items :: tokens) = Template.mandatory tokens := rfl

@[simp] theorem mandatory_append :
    Template.mandatory (tokens ++ others) =
      Template.mandatory tokens + Template.mandatory others :=
  List.countP_append

@[simp] theorem length_classes : (classes tokens).length = Template.mandatory tokens := by
  induction tokens with
  | nil => rfl
  | cons token tokens ih => cases token <;> simp [ih]

end Tokens

theorem mandatory_cons (token : Token) (tokens : List Token) :
    Template.mandatory (token :: tokens) = token.minWidth + Template.mandatory tokens := by
  cases token <;> simp [Token.minWidth, Nat.add_comm]

/-- The least length of a template that was read is the number of its mandatory
placeholders. -/
theorem minLength_ofText (text : List Char) :
    (Template.ofText text).minLength = Template.mandatory (Template.ofText text).tokens := by
  fun_induction Template.ofText text <;> simp_all [mandatory_cons, Template.empty]

end InputMask
