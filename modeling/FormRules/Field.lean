import FormRules.Text.Blank

/-!
# Fields and forms

What the rules see of a form: controls with a key, a kind, a value and attributes, and forms that
hold controls. Where they come from is up to the host, which makes its types instances.

* `Attributed`, `Field`, `Form`: what a host provides.
* `Field.value`, `Field.placeholder?`: what follows from it.
* `Resolved`: the value of a field as the presence check sees it.
* `Field.resolve`, `Field.operand`: values of a field or of one that it refers to.
-/

namespace FormRules

/-- The identity of a field (`FieldKey`), under which its display state is kept. -/
structure FieldKey where
  text : String
  deriving DecidableEq, Repr, Inhabited

/-- The identity of a form (`FormKey`). -/
structure FormKey where
  text : String
  deriving DecidableEq, Repr, Inhabited

/-- The kinds of controls (`FieldKind`). -/
inductive FieldKind
  | text | checkbox | radio | select | textArea
  deriving DecidableEq, Repr, Inhabited

/-- The name of a kind (`FieldKind.as_str`). -/
def FieldKind.name : FieldKind → String
  | text => "text"
  | checkbox => "checkbox"
  | radio => "radio"
  | select => "select"
  | textArea => "textarea"

/-! ## Hosts -/

/-- Things with attributes (`AttributeSource`). -/
class Attributed (α : Type) where
  /-- The value of an attribute. -/
  attribute? : α → String → Option String

export Attributed (attribute?)

/-- Whether an attribute is there, whatever its value (`has_attribute`). -/
def hasAttribute {α : Type} [Attributed α] (a : α) (name : String) : Bool :=
  (attribute? a name).isSome

/-- The value of an attribute that is there and not empty. `effective_rule_spec`, `record_failure`
and `unload_warning` read their texts so. -/
def filledAttribute? {α : Type} [Attributed α] (a : α) (name : String) : Option String :=
  (attribute? a name).filter (!·.isEmpty)

/-- Controls as the rules see them (`FieldContext`). -/
class Field (φ : Type) extends Attributed φ where
  key : φ → FieldKey
  kind : φ → FieldKind
  /-- Whether the control is disabled, by itself or by something around it. -/
  isDisabled : φ → Bool
  /-- The value with the blanks around it. -/
  rawValue : φ → String
  isChecked : φ → Bool
  /-- The value of the checked member of the group of a radio button. -/
  checkedGroupValue? : φ → Option String
  /-- The control with an identifier (`lookup`). -/
  peer? : φ → String → Option φ

/-- Forms, with controls that are validated together (`FormContext`). -/
class Form (γ : Type) (φ : outParam Type) extends Attributed γ where
  key : γ → FormKey
  controls : γ → List φ

namespace Field

variable {φ : Type} [Field φ]

/-- The value without the blanks around it (`FieldContext.value`). -/
def value (f : φ) : String := Text.trim (rawValue f)

/-- The placeholder as it is written (`FieldContext.placeholder`). -/
def placeholder? (f : φ) : Option String := attribute? f "placeholder"

end Field

/-! ## Values of fields -/

/-- The value of a field as the presence check sees it (`ResolvedValue`). -/
structure Resolved where
  /-- The value without the blanks around it; for a radio button that of the checked member of its
  group. -/
  text : String := ""
  /-- Whether a checkbox is checked; none for all other kinds. -/
  checked : Option Bool := none
  /-- The placeholder without the blanks around it, unless it is blank. -/
  placeholder : Option String := none
  deriving DecidableEq, Repr, Inhabited

namespace Resolved

/-- Whether there is no value (`is_empty`): no text, or a checkbox that is not checked. -/
def isEmpty (r : Resolved) : Bool := r.text.isEmpty || r.checked == some false

/-- Whether the text is that of the placeholder (`matches_placeholder`). -/
def matchesPlaceholder (r : Resolved) : Bool := r.placeholder == some r.text

end Resolved

/-- The identifier that a reference `#identifier` names, as `resolve_value`, `resolve_operand` and
`select_one` split it off. -/
def reference? (token : String) : Option String :=
  match token.toList with
  | '#' :: id => some (String.ofList id)
  | _ => none

namespace Field

variable {φ : Type} [Field φ]

/-- The value of a field itself (`extract`). -/
def resolved (f : φ) : Resolved where
  text := if kind f = .radio then ((checkedGroupValue? f).map Text.trim).getD "" else value f
  checked := if kind f = .checkbox then some (isChecked f) else none
  placeholder := ((placeholder? f).map Text.trim).filter (!·.isEmpty)

/-- The value that a token stands for, seen from a field (`resolve_value`): a reference stands for
the field of that identifier, which has an empty value when it is missing; all else stands for the
field itself. -/
def resolve (f : φ) (token : Option String) : Resolved :=
  match token.bind reference? with
  | some id => ((peer? f id).map resolved).getD {}
  | none => resolved f

/-- The target of a comparison (`resolve_operand`): the value of the field that a reference names,
empty when it is missing, and any other token as it is. -/
def operand (f : φ) (token : String) : String :=
  match reference? token with
  | some id => ((peer? f id).map value).getD ""
  | none => token

end Field

end FormRules
