import FormRules.Proofs.History.Marks
import FormRules.Proofs.Text.Words
import Mathlib.Data.List.Induction

/-!
# The warning on leaving

One pass over the forms collects their texts, and whether there is a warning is asked of the text
that came of it. Every form that has a say brings the end of a line at least, so the text is empty
exactly if there is no such form, even where the default text is empty itself.

* `Validator.Warns`, `Validator.warners`: the forms that have a say in the warning.
* `ownLines`, `defaultLine`: what forms bring into a warning.
* `Collects`, `collects_leaveTexts`: what the pass over the forms has read.
* `lines_eq_empty_iff`: no form brings nothing.
* `leaveWarning_eq_and_not_warns_submit`: the warning, and which forms have no say in it after a
  submission.
-/

namespace FormRules

variable {φ γ σ : Type} [Form γ φ]

/-! ## Specification -/

/-- The form changed, does not turn validation off, and has the leave directive for a word of its
rules. -/
structure Validator.Warns (v : Validator φ) (form : γ) : Prop where
  isDirty : v.isDirty (Form.key form) = true
  validates : hasAttribute form v.config.optOutAttribute = false
  directive : ∃ rules, attribute? form v.config.ruleAttribute = some rules ∧
    Text.IsWord v.config.leaveDirective.toList rules.toList

theorem Validator.warnsFor_iff (v : Validator φ) (form : γ) :
    v.warnsFor form = true ↔ v.Warns form := by
  have hasks : v.asksToStay form = true ↔ ∃ rules,
      attribute? form v.config.ruleAttribute = some rules ∧
        Text.IsWord v.config.leaveDirective.toList rules.toList := by
    simp only [asksToStay, Option.any_eq_true, List.contains_iff_mem, Text.mem_words_iff]
  rw [warnsFor, Bool.and_eq_true, Bool.and_eq_true, hasks, optsOut, Bool.not_eq_true']
  constructor
  · rintro ⟨⟨hdirty, hvalidates⟩, hdirective⟩
    exact ⟨hdirty, hvalidates, hdirective⟩
  · rintro ⟨hdirty, hvalidates, hdirective⟩
    exact ⟨⟨hdirty, hvalidates⟩, hdirective⟩

instance (v : Validator φ) (form : γ) : Decidable (v.Warns form) :=
  decidable_of_iff _ (v.warnsFor_iff form)

/-- The forms among others that have a say in the warning, in their order. -/
def Validator.warners (v : Validator φ) (forms : List γ) : List γ := forms.filter (v.Warns ·)

/-- The texts of the forms that have one of their own, each on a line. -/
def ownLines (c : Config) (forms : List γ) : String :=
  String.join ((forms.filterMap (filledAttribute? · c.errorTextAttribute)).map (· ++ "\n"))

/-- The default text on a line, once, if some form has no text of its own. -/
def defaultLine (c : Config) (forms : List γ) : String :=
  if ∃ form ∈ forms, filledAttribute? form c.errorTextAttribute = none then
    c.defaultLeaveWarning ++ "\n"
  else ""

/-! ## The pass over the forms -/

section

variable {c : Config} {forms : List γ} {texts : LeaveTexts}

/-- What the pass has read once it is through some forms that have a say. -/
structure Collects (c : Config) (forms : List γ) (texts : LeaveTexts) : Prop where
  own : texts.own = ownLines c forms
  needsDefault : texts.needsDefault = true ↔
    ∃ form ∈ forms, filledAttribute? form c.errorTextAttribute = none

theorem collects_nil (c : Config) : Collects c ([] : List γ) {} := by
  constructor
  · simp [ownLines]
  · simp

/-- Reading one more form. -/
theorem Collects.add (h : Collects c forms texts) (form : γ) :
    Collects c (forms ++ [form]) (texts.add (filledAttribute? form c.errorTextAttribute)) := by
  cases htext : filledAttribute? form c.errorTextAttribute with
  | none =>
    constructor
    · show texts.own = _
      simp [h.own, ownLines, htext]
    · show true = true ↔ _
      simp [htext]
  | some text =>
    constructor
    · show texts.own ++ text ++ "\n" = _
      simp [h.own, ownLines, htext, String.append_assoc]
    · show texts.needsDefault = true ↔ _
      simp [h.needsDefault, htext]

theorem Collects.warning_eq (h : Collects c forms texts) :
    texts.warning c.defaultLeaveWarning = defaultLine c forms ++ ownLines c forms := by
  simp only [LeaveTexts.warning, defaultLine, h.own, h.needsDefault]

theorem ownLines_eq_empty_iff (c : Config) (forms : List γ) :
    ownLines c forms = "" ↔ ∀ form ∈ forms, filledAttribute? form c.errorTextAttribute = none := by
  induction forms with
  | nil => simp [ownLines]
  | cons form forms ih =>
    cases htext : filledAttribute? form c.errorTextAttribute with
    | none =>
      have hskip : ownLines c (form :: forms) = ownLines c forms := by simp [ownLines, htext]
      rw [hskip, ih]
      simp [htext]
    | some text => simp [ownLines, htext]

theorem defaultLine_eq_empty_iff (c : Config) (forms : List γ) :
    defaultLine c forms = "" ↔
      ∀ form ∈ forms, filledAttribute? form c.errorTextAttribute ≠ none := by
  rw [defaultLine]
  by_cases h : ∃ form ∈ forms, filledAttribute? form c.errorTextAttribute = none
  · rw [if_pos h]
    simpa using h
  · rw [if_neg h]
    simpa using h

/-- No form brings nothing: with a text of its own it brings a line, without one the default. -/
theorem lines_eq_empty_iff (c : Config) (forms : List γ) :
    defaultLine c forms ++ ownLines c forms = "" ↔ forms = [] := by
  rw [String.append_eq_empty_iff, defaultLine_eq_empty_iff, ownLines_eq_empty_iff]
  constructor
  · rintro ⟨hsome, hnone⟩
    rw [List.eq_nil_iff_forall_not_mem]
    exact fun form hform => hsome form hform (hnone form hform)
  · rintro rfl
    simp

end

namespace Validator

/-- The pass reads the forms that have a say and no others. -/
theorem collects_leaveTexts (v : Validator φ) (forms : List γ) :
    Collects v.config (v.warners forms) (v.leaveTexts forms) := by
  induction forms using List.reverseRecOn with
  | nil => exact collects_nil v.config
  | append_singleton forms form ih =>
    have hpass : v.leaveTexts (forms ++ [form]) =
        if v.warnsFor form then
          (v.leaveTexts forms).add (filledAttribute? form v.config.errorTextAttribute)
        else v.leaveTexts forms := by
      rw [leaveTexts, List.foldl_append]
      rfl
    rw [hpass, warners, List.filter_append]
    by_cases hw : v.Warns form
    · rw [if_pos ((v.warnsFor_iff form).2 hw), List.filter_cons_of_pos (by simpa using hw)]
      exact ih.add form
    · rw [if_neg (mt (v.warnsFor_iff form).1 hw), List.filter_cons_of_neg (by simpa using hw),
        List.filter_nil, List.append_nil]
      exact ih

/-- The warning is the text of the forms that have a say, and none if that is empty. -/
theorem leaveWarning_eq (v : Validator φ) (forms : List γ) :
    v.leaveWarning forms =
      if v.warners forms = [] then none
      else some (defaultLine v.config (v.warners forms) ++
        ownLines v.config (v.warners forms)) := by
  have hlines := (v.collects_leaveTexts forms).warning_eq
  simp only [leaveWarning, hlines, String.isEmpty_iff, lines_eq_empty_iff]

/-- A form that has no say may as well not be there. -/
theorem leaveWarning_of_not_warns {v : Validator φ} {form : γ} (h : ¬ v.Warns form)
    (s t : List γ) : v.leaveWarning (s ++ form :: t) = v.leaveWarning (s ++ t) := by
  have hwarners : v.warners (s ++ form :: t) = v.warners (s ++ t) := by
    simp [warners, h]
  rw [leaveWarning_eq, leaveWarning_eq, hwarners]

/-- Once a form was submitted with validation and went ahead, it is not marked, and no form with
its key is. -/
theorem not_warns_submit [Field φ] [Attributed σ] {v : Validator φ} {form : γ}
    {submitter : Option σ} (ho : ¬ OptedOut v.config form submitter)
    (hr : (v.submit form submitter).2 = .ok .proceed) {other : γ}
    (hkey : Form.key other = Form.key form) : ¬ (v.submit form submitter).1.Warns other := by
  intro h
  have hdirty := h.isDirty
  rw [hkey, isDirty_submit] at hdirty
  exact hdirty.2 ⟨rfl, ho, hr⟩

/-- **The warning on leaving.** There is none exactly if no form has a say. Else it is the default
text on a line, if some form that has a say has no text of its own, and then the texts of the others
in the order of the forms, each on a line. After a submission with validation that went ahead, the
form and all that share its key have no say: with or without them the warning is the same. -/
theorem leaveWarning_eq_and_not_warns_submit [Field φ] [Attributed σ] (v : Validator φ)
    (forms : List γ) :
    (v.leaveWarning forms = none ↔ v.warners forms = []) ∧
    (v.warners forms ≠ [] → v.leaveWarning forms =
      some (defaultLine v.config (v.warners forms) ++ ownLines v.config (v.warners forms))) ∧
    ∀ (form : γ) (submitter : Option σ), ¬ OptedOut v.config form submitter →
      (v.submit form submitter).2 = .ok .proceed →
        ∀ other : γ, Form.key other = Form.key form →
          ¬ (v.submit form submitter).1.Warns other ∧
          ∀ s t, (v.submit form submitter).1.leaveWarning (s ++ other :: t) =
            (v.submit form submitter).1.leaveWarning (s ++ t) := by
  refine ⟨?_, ?_, ?_⟩
  · rw [leaveWarning_eq]
    by_cases h : v.warners forms = []
    · simp [h]
    · simp [h]
  · intro h
    rw [leaveWarning_eq, if_neg h]
  · intro form submitter ho hr other hkey
    have hnot := not_warns_submit ho hr hkey
    exact ⟨hnot, leaveWarning_of_not_warns hnot⟩

end Validator

/-! ## Forms that were changed -/

/-- A form with a text of its own. -/
def orderForm : PlainForm where
  id := "order"
  attributes := .ofList
    [("data-validate", "submitted"), ("data-validate-error-text", "Your order is not sent.")]
  fields := [{ id := "a" }]

/-- A form without one, that has the directive among other words. -/
def noteForm : PlainForm where
  id := "note"
  attributes := .ofList
    [("data-validate", "required\tsubmitted "), ("data-validate-error-text", "")]

/-- A form that has the directive only as a part of a longer word. -/
def draftForm : PlainForm where
  id := "draft"
  attributes := .ofList [("data-validate", "submitted-later")]

/-- A validator with an empty default text, under which all three forms changed. -/
def changedValidator : Validator PlainControl where
  config := { defaultLeaveWarning := "" }
  registry := Registry.empty
  dirty := [⟨"order"⟩, ⟨"note"⟩, ⟨"draft"⟩]
  trace := .ofConfig {}

/-- The default line is there although it is empty, the third form has no say, and a form that is
listed twice is named twice. Once it was submitted, its text is gone. -/
theorem leaveWarning_changedForms :
    changedValidator.warners [orderForm, noteForm, draftForm, orderForm] ≠ [] ∧
      changedValidator.leaveWarning [orderForm, noteForm, draftForm, orderForm] =
        some "\nYour order is not sent.\nYour order is not sent.\n" ∧
      ¬ OptedOut changedValidator.config orderForm (none : Option PlainForm) ∧
      (changedValidator.submit orderForm (none : Option PlainForm)).2 = .ok .proceed ∧
      (changedValidator.submit orderForm (none : Option PlainForm)).1.leaveWarning
        [noteForm, orderForm] = some "\n" := by
  have hne : changedValidator.warners [orderForm, noteForm, draftForm, orderForm] ≠ [] := by
    decide +kernel
  have ho : ¬ OptedOut changedValidator.config orderForm (none : Option PlainForm) := by
    decide +kernel
  have hr : (changedValidator.submit orderForm (none : Option PlainForm)).2 = .ok .proceed := by
    decide +kernel
  obtain ⟨-, hsome, hsubmit⟩ := Validator.leaveWarning_eq_and_not_warns_submit (σ := PlainForm)
    changedValidator [orderForm, noteForm, draftForm, orderForm]
  have hlines := hsome hne
  have hgone := (hsubmit orderForm none ho hr orderForm rfl).2 [noteForm] []
  refine ⟨hne, hlines.trans ?_, ho, hr, hgone.trans ?_⟩
  · decide +kernel
  · decide +kernel

end FormRules
