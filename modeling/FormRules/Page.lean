import FormRules.Document.Control
import FormRules.Validator.Submission

/-!
# Pages

A page is a document with a validator, driven as a user would. Controls and forms are named by
selectors `#identifier`.

* `selectOne`, `selectControl`, `selectForm`: what a selector names.
* `typeText`, `setChecked`, `select`, `change`, `validate`, `submit`: the user's actions. Disabled
  controls do not react to input.
* `expectDisplay`, `expectValue`, `expectChecked`: statements about a page, false ones being errors.
-/

namespace FormRules

/-- A document with a validator (`Page`). -/
structure Page where
  document : Document
  validator : Validator Control

namespace Page

/-- The page of a text (`Page.with_validator`). -/
def ofHtml (html : String) (validator : Validator Control) : Except Error Page :=
  match Document.ofHtml html with
  | .ok document => .ok ⟨document, validator⟩
  | .error e => .error e

/-! ## Selectors -/

/-- The identifier of a selector, as `select_one` takes it off: behind a number sign, not empty and
without blanks. -/
def identifier? (selector : String) : Option String :=
  (reference? selector).filter fun id => !id.isEmpty && !id.toList.any Text.isBlank

/-- The element that a selector names (`select_one`). -/
def selectOne (p : Page) (selector : String) : Except Error Nat :=
  match identifier? selector with
  | none => .error (.unsupportedSelector selector)
  | some id =>
    match p.document.elementById? id with
    | none => .error (.selectorNotFound selector)
    | some n => .ok n

/-- The words for a node in errors (`describe`): its tag, for an input with its type. -/
def describe (d : Document) (n : Nat) : String :=
  let tag := (d.tag? n).getD "non-element"
  match d.attribute? n "type" with
  | some type => if tag = "input" then "input[type=" ++ lowerText type ++ "]" else tag
  | none => tag

/-- The error for a node that is not what an action needs. -/
def mismatch (p : Page) (selector expected : String) (n : Nat) : Error :=
  .typeMismatch selector expected (describe p.document n)

/-- The control that a selector names (`select_control`). -/
def selectControl (p : Page) (selector : String) : Except Error Control :=
  match p.selectOne selector with
  | .error e => .error e
  | .ok n =>
    match p.document.control? n with
    | none => .error (p.mismatch selector "input, select or textarea" n)
    | some c => .ok c

/-- The form that a selector names (`select_form`). -/
def selectForm (p : Page) (selector : String) : Except Error FormNode :=
  match p.selectOne selector with
  | .error e => .error e
  | .ok n =>
    match p.document.formNode? n with
    | none => .error (p.mismatch selector "form" n)
    | some f => .ok f

/-! ## Actions -/

/-- Tells the validator that a control changed (`change_node`). -/
def changed (p : Page) (n : Nat) : Page × Except Error (Option Report) :=
  match p.document.control? n with
  | none => (p, .ok none)
  | some c =>
    let form := (p.document.owningForm? n).bind p.document.formNode?
    let (validator, result) := p.validator.change c form
    ({ p with validator }, result)

/-- Does an action on a control of a certain kind: the control has to be fit, and unless it is idle
the document is edited and the change is told. This is the common course of `type_text`,
`set_checked` and `select`. -/
def act (p : Page) (selector expected : String) (isFit isIdle : Control → Bool)
    (edit : Nat → Document → Except Error Document) : Page × Except Error (Option Report) :=
  match p.selectControl selector with
  | .error e => (p, .error e)
  | .ok c =>
    if !isFit c then (p, .error (p.mismatch selector expected c.node))
    else if isIdle c then (p, .ok none)
    else match edit c.node p.document with
      | .error e => (p, .error e)
      | .ok document => { p with document }.changed c.node

/-- Replaces the value of an input or text area (`Page.type_text`). -/
def typeText (p : Page) (selector text : String) : Page × Except Error (Option Report) :=
  p.act selector "input or textarea"
    (fun c => p.document.tag? c.node == some "input" || p.document.tag? c.node == some "textarea")
    Field.isDisabled fun n d => d.setValue n text

/-- Checks or unchecks a checkbox or radio button (`Page.set_checked`). Nothing happens when it is
so already. -/
def setChecked (p : Page) (selector : String) (checked : Bool) :
    Page × Except Error (Option Report) :=
  p.act selector "input[type=checkbox|radio]"
    (fun c =>
      ["input[type=checkbox]", "input[type=radio]"].contains (describe p.document c.node))
    (fun c => Field.isDisabled c || Field.isChecked c == checked)
    fun n d => d.setChecked n checked

/-- Selects an option by its value (`Page.select`). -/
def select (p : Page) (selector value : String) : Page × Except Error (Option Report) :=
  p.act selector "select" (fun c => p.document.tag? c.node == some "select")
    Field.isDisabled fun n d => d.selectOption n value

/-- Tells the validator of a change without making one (`Page.change`). -/
def change (p : Page) (selector : String) : Page × Except Error (Option Report) :=
  match p.selectControl selector with
  | .error e => (p, .error e)
  | .ok c => p.changed c.node

/-- One session over a control (`Page.validate`). -/
def validate (p : Page) (selector : String) (mode : Option Mode) : Page × Except Error Report :=
  match p.selectControl selector with
  | .error e => (p, .error e)
  | .ok c =>
    let (validator, result) := p.validator.validate c mode
    ({ p with validator }, result)

/-- Submits a form, through a control if one is named (`Page.submit`). -/
def submit (p : Page) (selector : String) (submitter : Option String) :
    Page × Except Error Decision :=
  match p.selectForm selector with
  | .error e => (p, .error e)
  | .ok form =>
    match submitter.mapM p.selectOne with
    | .error e => (p, .error e)
    | .ok submitter =>
      let (validator, result) := p.validator.submit form (submitter.bind p.document.elementNode?)
      ({ p with validator }, result)

/-- Edits the document at the element that a selector names: the common course of `set_attribute`
and `remove_attribute`. -/
def editOne (p : Page) (selector : String) (edit : Nat → Document → Except Error Document) :
    Page × Except Error Unit :=
  match p.selectOne selector with
  | .error e => (p, .error e)
  | .ok n =>
    match edit n p.document with
    | .error e => (p, .error e)
    | .ok document => ({ p with document }, .ok ())

/-- Sets an attribute (`Page.set_attribute`). -/
def setAttribute (p : Page) (selector name value : String) : Page × Except Error Unit :=
  p.editOne selector fun n d => d.setAttribute n name value

/-- Removes an attribute (`Page.remove_attribute`). -/
def removeAttribute (p : Page) (selector name : String) : Page × Except Error Unit :=
  p.editOne selector fun n d => d.removeAttribute n name

/-! ## Views -/

/-- The display state of a control (`Page.display_state`). -/
def displayState (p : Page) (selector : String) : Except Error DisplayState :=
  (p.selectControl selector).map fun c => p.validator.displayState (Field.key c)

/-- Whether a form changed (`Page.is_dirty`). -/
def isDirty (p : Page) (selector : String) : Except Error Bool :=
  (p.selectForm selector).map fun f => p.validator.isDirty (Form.key f)

/-- The forms of the page, as `Page.leave_warning` collects them. -/
def forms (p : Page) : List FormNode := p.document.forms.filterMap p.document.formNode?

/-- The warning on leaving the page (`Page.leave_warning`). -/
def leaveWarning (p : Page) : Option String := p.validator.leaveWarning p.forms

/-! ## Statements -/

/-- An error unless two texts are equal, which is what the three statements below come to. -/
def expect (selector expected actual : String) : Except Error Unit :=
  if actual = expected then .ok () else .error (.assertionFailed selector expected actual)

/-- States the display state of a control (`assert_display`). -/
def expectDisplay (p : Page) (selector : String) (expected : DisplayState) : Except Error Unit := do
  expect selector expected.name (← p.displayState selector).name

/-- States the value of an element (`assert_value`). -/
def expectValue (p : Page) (selector expected : String) : Except Error Unit := do
  expect selector expected (← p.document.value (← p.selectOne selector))

/-- States the checked flag of an element (`assert_checked`). -/
def expectChecked (p : Page) (selector : String) (expected : Bool) : Except Error Unit := do
  expect selector (toString expected) (toString (← p.document.checked (← p.selectOne selector)))

end Page

end FormRules
