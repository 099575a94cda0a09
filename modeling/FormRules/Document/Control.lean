import FormRules.Document.Build

/-!
# Controls and forms of documents

The views under which rules see a document.

* `isDisabled`: a control is disabled by itself or by a disabled fieldset around it, unless it
  stands in the first legend of that fieldset.
* `Control`, `FormNode`, `ElementNode`: a control, a form and any element, each in its document.
-/

namespace FormRules

namespace Document

/-! ## Disabling -/

/-- Whether a node is a disabled fieldset: the `is_disabled_fieldset` of `is_disabled_control`. -/
def isDisabledFieldset (d : Document) (n : Nat) : Bool :=
  d.isTag "fieldset" n && d.hasAttribute n "disabled"

/-- The first child of a node that is a legend: the `first_legend` of `is_disabled_control`. -/
def firstLegend? (d : Document) (n : Nat) : Option Nat :=
  (d.children n).find? (d.isTag "legend")

/-- Whether a node disables what stands in one of its children: a turn of the loop of
`is_disabled_control`, which came from that child. -/
def disablesFrom (d : Document) (child n : Nat) : Bool :=
  d.isDisabledFieldset n && d.firstLegend? n != some child

/-- Whether a control is disabled (`is_disabled_control`). Each node above it is looked at with the
child on the way. -/
def isDisabled (d : Document) (n : Nat) : Bool :=
  d.hasAttribute n "disabled" ||
    ((n :: d.ancestors n).zip (d.ancestors n)).any fun (child, above) => d.disablesFrom child above

/-! ## Keys -/

/-- The text of the key of a node (`node_key`). -/
def keyText (n : Nat) : String := "node:" ++ toString n

/-- The key of a control (`field_key`). -/
def fieldKey (n : Nat) : FieldKey := ⟨keyText n⟩

/-- The key of a form (`form_key`). -/
def formKey (n : Nat) : FormKey := ⟨keyText n⟩

/-- The value of the first checked member of the group of a radio button
(`DocumentField.checked_group_value`). -/
def checkedGroupValue? (d : Document) (n : Nat) : Option String :=
  ((d.radioGroup n).find? (d.checked? · == some true)).bind d.value?

end Document

/-! ## Views -/

/-- An element in its document (`ElementRef`). -/
structure ElementNode where
  document : Document
  node : Nat

instance : Attributed ElementNode where
  attribute? e name := e.document.attribute? e.node name

/-- A control in its document (`DocumentField`). -/
structure Control where
  document : Document
  node : Nat
  kind : FieldKind

/-- A form in its document (`DocumentForm`). -/
structure FormNode where
  document : Document
  node : Nat

namespace Document

/-- The view of a node as an element (`Document.element_ref`). -/
def elementNode? (d : Document) (n : Nat) : Option ElementNode :=
  if d.isElement n then some ⟨d, n⟩ else none

/-- The view of a node as a control (`Document.field`). -/
def control? (d : Document) (n : Nat) : Option Control := (d.fieldKind? n).map (⟨d, n, ·⟩)

/-- The view of a node as a form (`Document.form`). -/
def formNode? (d : Document) (n : Nat) : Option FormNode :=
  if d.isTag "form" n then some ⟨d, n⟩ else none

end Document

instance : Attributed Control where
  attribute? c name := c.document.attribute? c.node name

instance : Field Control where
  key c := Document.fieldKey c.node
  kind := Control.kind
  isDisabled c := c.document.isDisabled c.node
  rawValue c := (c.document.value? c.node).getD ""
  isChecked c := (c.document.checked? c.node).getD false
  checkedGroupValue? c := c.document.checkedGroupValue? c.node
  peer? c id := (c.document.elementById? id).bind c.document.control?

instance : Attributed FormNode where
  attribute? f name := f.document.attribute? f.node name

instance : Form FormNode Control where
  key f := Document.formKey f.node
  controls f := (f.document.controlsOf f.node).filterMap f.document.control?

end FormRules
