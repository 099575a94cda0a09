import FormRules.Validator.Session

/-!
# Submitting and changing forms

A form is submitted when none of its controls is left invalid. A change of a control is judged at
once and marks its form.

* `Decision`: whether a submission goes ahead.
* `LeaveTexts`: what a warning on leaving is made of.
* `Validator.validateAll`: sessions over controls, one after the other.
* `Validator.submit`, `Validator.change`: the two events.
* `Validator.leaveWarning`: the warning on leaving.
-/

namespace FormRules

/-- Whether a submission goes ahead, and if not, which enabled controls are invalid
(`SubmitDecision`). -/
inductive Decision
  | proceed
  | cancel (invalid : List FieldKey)
  deriving DecidableEq, Repr, Inhabited

/-- The texts that are read from forms for the warning on leaving: the `custom` and `needs_default`
of `unload_warning`. -/
structure LeaveTexts where
  /-- The texts of the forms that have one, each on a line. -/
  own : String := ""
  /-- Whether some form has none. -/
  needsDefault : Bool := false
  deriving DecidableEq, Repr, Inhabited

namespace LeaveTexts

/-- The texts with that of one more form. -/
def add (texts : LeaveTexts) : Option String → LeaveTexts
  | some text => { texts with own := texts.own ++ text ++ "\n" }
  | none => { texts with needsDefault := true }

/-- The default text once, if a form needs it, before the texts of the others. -/
def warning (texts : LeaveTexts) (default : String) : String :=
  (if texts.needsDefault then default ++ "\n" else "") ++ texts.own

end LeaveTexts

namespace Validator

variable {φ γ σ : Type} [Field φ] [Form γ φ] [Attributed σ]

/-- Whether a form turns validation off (`opts_out`). -/
def optsOut (v : Validator φ) (form : γ) : Bool := hasAttribute form v.config.optOutAttribute

/-- Sessions over controls in their order, none left out after a failure or an error: the loop of
`Validator.submit`. The result holds the errors. -/
def validateAll (v : Validator φ) (mode : Option Mode) : List φ → Validator φ × List Error
  | [] => (v, [])
  | f :: rest =>
    let (v, result) := v.validate f mode
    let (v, errors) := v.validateAll mode rest
    match result with
    | .error e => (v, e :: errors)
    | .ok _ => (v, errors)

/-- The keys of the enabled controls that display an invalid state: the `invalid` of
`Validator.submit`. -/
def invalidControls (v : Validator φ) (controls : List φ) : List FieldKey :=
  ((controls.filter (!Field.isDisabled ·)).map Field.key).filter (v.displayState · == .invalid)

/-- A submission without validation: the controls become neutral. This is the first branch of
`Validator.submit`. -/
def release (v : Validator φ) (form : γ) : Validator φ :=
  let controls := Form.controls form
  (controls.foldl (fun v f => v.display (Field.key f) .neutral) v).say
    (.optedOut (Form.key form) controls.length)

/-- An attempt to submit a form through a control (`Validator.submit`). The form or the control may
turn validation off. Else all controls are judged, and the first error among them is the result; the
form stays marked as changed unless the submission goes ahead. -/
def submit (v : Validator φ) (form : γ) (submitter : Option σ) :
    Validator φ × Except Error Decision :=
  let k := Form.key form
  if v.optsOut form || submitter.any (hasAttribute · v.config.submitterOptOutAttribute) then
    (v.release form, .ok .proceed)
  else
    let controls := Form.controls form
    let (v, errors) := v.validateAll (some .submit) controls
    match errors with
    | e :: _ => (v.say (.aborted k), .error e)
    | [] =>
      match v.invalidControls controls with
      | [] => ((v.markClean k).say (.proceed k), .ok .proceed)
      | invalid => (v.say (.cancel k invalid.length), .ok (.cancel invalid))

/-- A change of a field that belongs to a form or to none (`Validator.change`). Nothing happens when
the form turns validation off. -/
def change (v : Validator φ) (f : φ) (form : Option γ) :
    Validator φ × Except Error (Option Report) :=
  if form.any (v.optsOut ·) then (v, .ok none)
  else
    let (v, result) := v.validate f (some .change)
    match result with
    | .error e => (v, .error e)
    | .ok report =>
      match form with
      | none => (v, .ok (some report))
      | some form =>
        ((v.say (.dirty (Form.key form))).markDirty (Form.key form), .ok (some report))

/-! ## Leaving -/

/-- Whether a form asks for a warning on leaving (`wants_leave_guard`). -/
def asksToStay (v : Validator φ) (form : γ) : Bool :=
  (attribute? form v.config.ruleAttribute).any fun text =>
    (Text.words text.toList).contains v.config.leaveDirective.toList

/-- Whether a form has a say in the warning on leaving: `unload_warning` skips the others. -/
def warnsFor (v : Validator φ) (form : γ) : Bool :=
  v.isDirty (Form.key form) && !v.optsOut form && v.asksToStay form

/-- The texts of the forms that have a say, in their order: the loop of `unload_warning`. -/
def leaveTexts (v : Validator φ) (forms : List γ) : LeaveTexts :=
  forms.foldl (fun texts form =>
    if v.warnsFor form then texts.add (filledAttribute? form v.config.errorTextAttribute)
    else texts) {}

/-- The warning on leaving (`unload_warning`): the default text when some form has no text of its
own, then the texts of the others. -/
def leaveWarning (v : Validator φ) (forms : List γ) : Option String :=
  let warning := (v.leaveTexts forms).warning v.config.defaultLeaveWarning
  if warning.isEmpty then none else some warning

end Validator

end FormRules
