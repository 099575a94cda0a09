import FormRules.Proofs.History.Marks
import FormRules.Proofs.Notices

/-!
# Submitting a form again

A submission rewrites the display states that the next one reads. What a session finds does not hang
on them, though, and what it leaves is what the next session of the same field leaves again.

* `Unmoved`: no display state and no mark changed, and no observer was told of a failure.
* `AtRest`: judging the field again leaves its display state.
* `unmoved_sessions`: sessions over fields at rest move nothing.
* `atRest_submit`: a submission leaves its controls at rest.
* `submit_submit`: a second submission has the result of the first and moves nothing.
-/

namespace FormRules

variable {φ γ σ : Type} [Field φ]

namespace Validator

/-- Display states and marks of forms are as they were, and no observer was told of a failure. -/
structure Unmoved (v v' : Validator φ) : Prop where
  displayState : ∀ k, v'.displayState k = v.displayState k
  isDirty : ∀ k, v'.isDirty k = v.isDirty k
  alarms : ∀ k, alarms k v'.journal = FormRules.alarms k v.journal

/-- Judging the field would leave its display state as it is. -/
def AtRest (v : Validator φ) (mode : Option Mode) (f : φ) : Prop :=
  (v.validate f mode).1.displayState (Field.key f) = v.displayState (Field.key f)

omit [Field φ] in
theorem Unmoved.refl (v : Validator φ) : Unmoved v v := ⟨fun _ => rfl, fun _ => rfl, fun _ => rfl⟩

omit [Field φ] in
theorem Unmoved.trans {v v' v'' : Validator φ} (h : Unmoved v v') (h' : Unmoved v' v'') :
    Unmoved v v'' where
  displayState k := (h'.displayState k).trans (h.displayState k)
  isDirty k := (h'.isDirty k).trans (h.isDirty k)
  alarms k := (h'.alarms k).trans (h.alarms k)

/-! ## Fields at rest -/

/-- A session over a field at rest turns nothing invalid, and so tells of no failure. -/
theorem unmoved_validate {v : Validator φ} {mode : Option Mode} {f : φ} (h : AtRest v mode f) :
    Unmoved v (v.validate f mode).1 where
  displayState k := by
    by_cases hk : k = Field.key f
    · rw [hk]
      exact h
    · exact displayState_validate_ne v f mode hk
  isDirty k := isDirty_of_steady (steady_validate v f mode) k
  alarms k := by
    apply alarms_of_not_alerts
    rintro ⟨rfl, hbefore, hafter⟩
    exact hbefore (h.symm.trans hafter)

theorem AtRest.congr {v w : Validator φ} {mode : Option Mode} {f : φ} (h : AtRest v mode f)
    (hc : w.config = v.config) (hr : w.registry = v.registry)
    (hs : w.displayState (Field.key f) = v.displayState (Field.key f)) : AtRest w mode f := by
  rw [AtRest, (validate_congr hc hr hs).2, hs]
  exact h

theorem unmoved_sessions {v : Validator φ} {mode : Option Mode} {fs : List φ}
    (h : ∀ f ∈ fs, AtRest v mode f) : Unmoved v (sessions mode v fs).1 := by
  induction fs generalizing v with
  | nil => exact Unmoved.refl v
  | cons f fs ih =>
    have hsteady := steady_validate v f mode
    have hmoved := unmoved_validate (h f List.mem_cons_self)
    refine hmoved.trans (ih fun g hg => ?_)
    exact (h g (List.mem_cons_of_mem f hg)).congr hsteady.config hsteady.registry
      (hmoved.displayState _)

/-- A field is at rest once it displays what a session over it left. -/
theorem atRest_of_displayState {v w : Validator φ} {mode : Option Mode} {f : φ}
    (hc : w.config = v.config) (hr : w.registry = v.registry)
    (hs : w.displayState (Field.key f) = (v.validate f mode).1.displayState (Field.key f)) :
    AtRest w mode f := by
  have hwrites : writtenState? (w.validate f mode).2 = writtenState? (v.validate f mode).2 := by
    rw [← writtenState?_map_unheard, findings_validate hc hr, writtenState?_map_unheard]
  rw [AtRest, displayState_validate, hwrites, hs, displayState_validate]
  cases writtenState? (v.validate f mode).2 <;> rfl

/-! ## The second submission -/

variable [Form γ φ] [Attributed σ]

/-- Controls without validation are neutral already. -/
theorem unmoved_release (v : Validator φ) (form : γ) :
    Unmoved (v.release form) ((v.release form).release form) := by
  have hfirst := released_release v form
  have hsecond := released_release (v.release form) form
  refine ⟨fun k => ?_, isDirty_of_steady hsecond.toSteady,
    fun k => alarms_eq_of_calls hsecond.calls⟩
  rw [hsecond.displayState]
  split
  · rename_i hk
    rw [hfirst.displayState, if_pos hk]
  · rfl

section

variable {v : Validator φ} {form : γ} {submitter : Option σ}

theorem not_optedOut_submit (hkeys : ((Form.controls form).map Field.key).Nodup)
    (h : ¬ OptedOut v.config form submitter) :
    ¬ OptedOut (v.submit form submitter).1.config form submitter := by
  rwa [(judged_submit v form submitter hkeys h).config]

/-- Behind a submission every control displays what its own session left. -/
theorem atRest_submit (hkeys : ((Form.controls form).map Field.key).Nodup)
    (h : ¬ OptedOut v.config form submitter) :
    ∀ f ∈ Form.controls form, AtRest (v.submit form submitter).1 (some .submit) f := by
  intro f hf
  have hjudged := judged_submit v form submitter hkeys h
  refine atRest_of_displayState hjudged.config hjudged.registry ?_
  rw [displayState, hjudged.states]
  exact displayState_sessions _ v hkeys hf

theorem result_submit_submit (hkeys : ((Form.controls form).map Field.key).Nodup)
    (h : ¬ OptedOut v.config form submitter) :
    ((v.submit form submitter).1.submit form submitter).2 = (v.submit form submitter).2 := by
  have hjudged := judged_submit v form submitter hkeys h
  have hmoved := unmoved_sessions (atRest_submit hkeys h)
  have h' := not_optedOut_submit hkeys h
  have hread : ∀ k,
      (sessions (some .submit) (v.submit form submitter).1 (Form.controls form)).1.displayState k =
        (sessions (some .submit) v (Form.controls form)).1.displayState k := by
    intro k
    rw [hmoved.displayState, displayState, hjudged.states]
    rfl
  rw [result_submit h', result_submit h, errorsOf_sessions _ hjudged.config hjudged.registry,
    invalidControls_congr hread]

theorem unmoved_submit (hkeys : ((Form.controls form).map Field.key).Nodup)
    (h : ¬ OptedOut v.config form submitter) :
    Unmoved (v.submit form submitter).1 ((v.submit form submitter).1.submit form submitter).1 := by
  have hjudged := judged_submit v form submitter hkeys h
  have hmoved := unmoved_sessions (atRest_submit hkeys h)
  have h' := not_optedOut_submit hkeys h
  have hsecond := judged_submit (v.submit form submitter).1 form submitter hkeys h'
  refine ⟨fun k => ?_, fun k => ?_, fun k => ?_⟩
  · rw [displayState, hsecond.states]
    exact hmoved.displayState k
  · -- The second submission takes the mark that the first has taken already.
    rw [Bool.eq_iff_iff, hsecond.isDirty, result_submit_submit hkeys h, hjudged.isDirty]
    tauto
  · rw [alarms_eq_of_calls hsecond.calls]
    exact hmoved.alarms k

end

/-- **Submitting again.** With nothing in between, a second submission of a form whose controls have
distinct keys has the result of the first, leaves every display state and every mark, and tells no
observer of a failure. -/
theorem submit_submit (v : Validator φ) (form : γ) (submitter : Option σ)
    (hkeys : ((Form.controls form).map Field.key).Nodup) :
    ((v.submit form submitter).1.submit form submitter).2 = (v.submit form submitter).2 ∧
      Unmoved (v.submit form submitter).1
        ((v.submit form submitter).1.submit form submitter).1 := by
  by_cases h : OptedOut v.config form submitter
  · have h' : OptedOut (v.release form).config form submitter := by
      rwa [(released_release v form).config]
    rw [submit_of_optedOut v h, submit_of_optedOut _ h']
    exact ⟨rfl, unmoved_release v form⟩
  · exact ⟨result_submit_submit hkeys h, unmoved_submit hkeys h⟩

end Validator

/-- A validator that reports to an observer. -/
def observedValidator : Validator PlainControl := mixedValidator.addObserver ⟨fun _ => none⟩

/-- The first submission tells the observer of the control that fails, and the second does not. -/
theorem submit_submit_mixedForm :
    ((Form.controls mixedForm).map Field.key).Nodup ∧
      (observedValidator.submit mixedForm (none : Option PlainForm)).2 =
        .ok (.cancel [⟨"f/a"⟩, ⟨"f/c"⟩]) ∧
      alarms ⟨"f/a"⟩ (observedValidator.submit mixedForm (none : Option PlainForm)).1.journal ≠ [] ∧
      ((observedValidator.submit mixedForm (none : Option PlainForm)).1.submit mixedForm
        (none : Option PlainForm)).2 = .ok (.cancel [⟨"f/a"⟩, ⟨"f/c"⟩]) ∧
      Validator.Unmoved (observedValidator.submit mixedForm (none : Option PlainForm)).1
        ((observedValidator.submit mixedForm (none : Option PlainForm)).1.submit mixedForm
          (none : Option PlainForm)).1 := by
  have hkeys : ((Form.controls mixedForm).map Field.key).Nodup := by decide
  have hfirst : (observedValidator.submit mixedForm (none : Option PlainForm)).2 =
      .ok (.cancel [⟨"f/a"⟩, ⟨"f/c"⟩]) := rfl
  obtain ⟨hresult, hunmoved⟩ :=
    Validator.submit_submit observedValidator mixedForm (none : Option PlainForm) hkeys
  exact ⟨hkeys, hfirst, by decide, hresult.trans hfirst, hunmoved⟩

end FormRules
