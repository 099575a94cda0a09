import FormRules.Document

/-!
# Values and changes

The values of controls, and the changes that a document takes: values, checked flags, selected
options and attributes.

* `value?`, `checked?`: the state of a control.
* `setChecked`: checking a radio button unchecks the others of its group.
* `selectOption`, `setValue`: changes of values.
* `setAttribute`, `removeAttribute`: changes of attributes, which keep the identifiers in step.
-/

namespace FormRules.Document

/-! ## Values -/

/-- The error for a node that is no element where one is needed (`element_or_err`). -/
def mismatch (n : Nat) (expected : String) : Error :=
  .typeMismatch ("node:" ++ toString n) expected "non-element node"

/-- The value of an option (`option_effective_value`): its attribute, else its text without the
blanks around it. -/
def optionValue (d : Document) (n : Nat) : String :=
  (d.attribute? n "value").getD (Text.trim (d.textContent n))

/-- The options of a selection (`select_options`). -/
def options (d : Document) (n : Nat) : List Nat := d.descendantsByTag "option" n

/-- The option that counts in `select_value_from_options`: the first that is selected, else the
first. -/
def currentOption? (d : Document) (n : Nat) : Option Nat :=
  (d.options n).find? (d.hasAttribute · "selected") <|> (d.options n).head?

/-- The value of an element, where `Document.value` gives one. A selection has that of its option; a
checkbox or radio button without a value attribute has the value `on`. -/
def value? (d : Document) (n : Nat) : Option String :=
  (d.element? n).map fun e =>
    if e.isTag "select" then ((d.currentOption? n).map d.optionValue).getD ""
    else if e.isCheckable ∧ e.attribute? "value" = none then "on"
    else e.value

/-- The value of an element, or an error (`Document.value`). -/
def value (d : Document) (n : Nat) : Except Error String :=
  match d.value? n with
  | some value => .ok value
  | none => .error (mismatch n "form control")

/-- The checked flag of an element, where `Document.checked` gives one. -/
def checked? (d : Document) (n : Nat) : Option Bool := (d.element? n).map Element.checked

/-- The checked flag of an element, or an error (`Document.checked`). -/
def checked (d : Document) (n : Nat) : Except Error Bool :=
  match d.checked? n with
  | some checked => .ok checked
  | none => .error (mismatch n "checkable input")

/-! ## Checked flags -/

/-- Changes the checked flag of an element alone. -/
def flag (checked : Bool) (n : Nat) (d : Document) : Document :=
  d.modifyElement n fun e => { e with checked }

/-- Changes the checked flag of an element, as `Document.set_checked` does. A radio button that is
checked unchecks the others of its group. -/
def check (checked : Bool) (n : Nat) (d : Document) : Document :=
  let others := if checked && d.isRadio n then (d.radioGroup n).filter (· ≠ n) else []
  (others.foldl (fun d m => d.flag false m) d).flag checked n

/-- Changes the checked flag of a node that has to be an element (`Document.set_checked`). -/
def setChecked (n : Nat) (checked : Bool) (d : Document) : Except Error Document :=
  if d.isElement n then .ok (d.check checked n) else .error (.markup (.notAnElement "checked"))

/-! ## Values -/

/-- Marks an option as the selected one, or as none: the body of the loop of `select_option`. -/
def mark (selected : Bool) (n : Nat) (d : Document) : Document :=
  d.modifyElement n fun e =>
    if selected then e.setAttribute "selected" "selected" else e.removeAttribute "selected"

/-- Selects the first option of a value and no other (`Document.select_option`). Without such an
option none is selected. -/
def selectOption (n : Nat) (value : String) (d : Document) : Except Error Document :=
  if d.isTag "select" n then
    let options := d.options n
    let chosen := options.find? (d.optionValue · == value)
    .ok (options.foldl (fun d m => d.mark (chosen == some m) m) d)
  else
    .error (.typeMismatch ("node:" ++ toString n) "select" ((d.tag? n).getD "non-element"))

/-- Sets the value of an element (`Document.set_value`); a checkbox or radio button keeps it as its
attribute too. -/
def setValue (n : Nat) (value : String) (d : Document) : Except Error Document :=
  if d.isTag "select" n then d.selectOption n value
  else if d.isElement n then
    .ok (d.modifyElement n fun e =>
      { if e.isCheckable then e.setAttribute "value" value else e with value })
  else .error (.markup (.notAnElement "value"))

/-! ## Attributes -/

/-- Takes an identifier away from a node, if it is the one that has it, as `set_attribute` and
`remove_attribute` do with the previous value of `id`. -/
def releaseId (id : Option String) (n : Nat) (d : Document) : Document :=
  match id with
  | some id => if d.elementById? id = some n then { d with ids := d.ids.erase id } else d
  | none => d

/-- Gives an identifier to a node, even if another one has it, as `set_attribute` does. -/
def claimId (id : String) (n : Nat) (d : Document) : Document :=
  { d with ids := d.ids.insert id n }

/-- Sets an attribute (`Document.set_attribute`). A new identifier takes the place of the old one,
and a `checked` attribute checks the element. -/
def setAttribute (n : Nat) (name value : String) (d : Document) : Except Error Document :=
  if d.isElement n then
    let name := lowerText name
    let previous := d.attribute? n name
    let d := d.modifyElement n (·.setAttribute name value)
    if name = "id" then .ok ((d.releaseId previous n).claimId value n)
    else if name = "checked" then .ok (d.check true n)
    else .ok d
  else .error (.markup (.notAnElement "attribute"))

/-- Removes an attribute (`Document.remove_attribute`). -/
def removeAttribute (n : Nat) (name : String) (d : Document) : Except Error Document :=
  if d.isElement n then
    let name := lowerText name
    let previous := d.attribute? n name
    let d := d.modifyElement n (·.removeAttribute name)
    .ok (if name = "id" then d.releaseId previous n else d)
  else .error (.markup (.notAnElement "attribute"))

end FormRules.Document
