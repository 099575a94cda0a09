import FormRules.Dict
import FormRules.Field

/-!
# Plain forms

A host without a document: forms and fields are records. Fields and forms are named by identifiers,
and of several with one identifier the first is meant.

* `PlainField`, `PlainForm`: the records.
* `PlainControl`: a field in its form, as the rules see it.
* `PlainForm.modifyField`, `PlainForm.modify`: changes of the first record of an identifier.
-/

namespace FormRules

/-- A field. -/
structure PlainField where
  id : String
  kind : FieldKind := .text
  value : String := ""
  checked : Bool := false
  disabled : Bool := false
  /-- The value of the checked member of its group. -/
  group : Option String := none
  attributes : Dict String String := ∅
  deriving DecidableEq, Repr, Inhabited

/-- A form with its fields in order. -/
structure PlainForm where
  id : String
  attributes : Dict String String := ∅
  fields : List PlainField := []
  deriving DecidableEq, Repr, Inhabited

/-- A field in its form. -/
structure PlainControl where
  form : PlainForm
  field : PlainField
  deriving DecidableEq, Repr, Inhabited

namespace PlainForm

/-- The form of an identifier. -/
def find? (id : String) (forms : List PlainForm) : Option PlainForm := forms.find? (·.id == id)

/-- The field of an identifier. -/
def control? (form : PlainForm) (id : String) : Option PlainControl :=
  (form.fields.find? (·.id == id)).map (⟨form, ·⟩)

/-- Changes the first element of a list that passes a test. -/
def modifyFirst {α : Type} (test : α → Bool) (change : α → α) : List α → List α
  | [] => []
  | a :: rest => if test a then change a :: rest else a :: modifyFirst test change rest

/-- Changes the form of an identifier. -/
def modify (id : String) (change : PlainForm → PlainForm) (forms : List PlainForm) :
    List PlainForm :=
  modifyFirst (·.id == id) change forms

/-- Changes the field of an identifier. -/
def modifyField (id : String) (change : PlainField → PlainField) (form : PlainForm) : PlainForm :=
  { form with fields := modifyFirst (·.id == id) change form.fields }

end PlainForm

instance : Attributed PlainControl where
  attribute? c name := c.field.attributes.get? name

instance : Field PlainControl where
  key c := ⟨c.form.id ++ "/" ++ c.field.id⟩
  kind c := c.field.kind
  isDisabled c := c.field.disabled
  rawValue c := c.field.value
  isChecked c := c.field.checked
  checkedGroupValue? c := c.field.group
  peer? c id := c.form.control? id

instance : Attributed PlainForm where
  attribute? f name := f.attributes.get? name

instance : Form PlainForm PlainControl where
  key f := ⟨f.id⟩
  controls f := f.fields.map (⟨f, ·⟩)

end FormRules
