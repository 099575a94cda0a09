import FormRules.Proofs.History
import FormRules.Proofs.Runs

/-!
# Marks of forms over runs

A form is marked while it holds a change that was neither submitted nor marked clean. The mark is a
function of the whole history, and each of the ways out of a change or a submission treats it in its
own way.

* `Operation.Marks`, `Operation.Unmarks`: the operations that set the mark of a form and those that
  take it.
* `isDirty_perform`: what one operation does to a mark.
* `isDirty_run`: a form is marked at the end of a run exactly if an operation marked it and none has
  unmarked it since.
-/

namespace FormRules

variable {φ γ σ : Type} [Field φ] [Form γ φ] [Attributed σ]

/-! ## Specification -/

/-- The operation is a change in a form with the key `k`, and the field was judged. -/
def Operation.Marks (v : Validator φ) (k : FormKey) : Operation φ γ σ → Prop
  | change f form => (∃ owner, form = some owner ∧ Form.key owner = k) ∧
      ∃ report, (v.change f form).2 = .ok (some report)
  | _ => False

/-- The operation marks the form clean, or submits a form with the key `k` that does not turn
validation off, and the submission goes ahead. -/
def Operation.Unmarks (v : Validator φ) (k : FormKey) : Operation φ γ σ → Prop
  | markClean form => form = k
  | submit form submitter => Form.key form = k ∧ ¬ OptedOut v.config form submitter ∧
      (v.submit form submitter).2 = .ok .proceed
  | _ => False

namespace Validator

/-! ## One operation -/

omit [Field φ] in
theorem isDirty_markDirty (v : Validator φ) (k k' : FormKey) :
    (v.markDirty k).isDirty k' = true ↔ k' = k ∨ v.isDirty k' = true := by
  simp [isDirty, markDirty]

omit [Field φ] in
theorem isDirty_of_steady {v v' : Validator φ} (h : Steady v v') (k : FormKey) :
    v'.isDirty k = v.isDirty k := by
  rw [isDirty, isDirty, h.dirty]

omit [Attributed σ] in
/-- A change marks the form that it is made in, once the field was judged. -/
theorem isDirty_change (v : Validator φ) (f : φ) (form : Option γ) (k : FormKey) :
    (v.change f form).1.isDirty k = true ↔
      ((∃ owner, form = some owner ∧ Form.key owner = k) ∧
        ∃ report, (v.change f form).2 = .ok (some report)) ∨ v.isDirty k = true := by
  have hsteady := steady_validate v f (some .change)
  cases ho : form.any (v.optsOut ·) with
  | true =>
    rw [change_of_optsOut ho]
    simp
  | false =>
    cases hr : (v.validate f (some .change)).2 with
    | error e =>
      rw [change_of_error ho hr, isDirty_of_steady hsteady]
      simp
    | ok report =>
      rw [change_of_ok ho hr]
      cases form with
      | none =>
        rw [Option.elim_none, isDirty_of_steady hsteady]
        simp
      | some owner =>
        rw [Option.elim_some, isDirty_markDirty,
          isDirty_of_steady (hsteady.trans (quiet_say _ _).toSteady)]
        simp [@eq_comm _ k]

/-- A submission unmarks its form when it goes ahead with validation. -/
theorem isDirty_submit (v : Validator φ) (form : γ) (submitter : Option σ) (k : FormKey) :
    (v.submit form submitter).1.isDirty k = true ↔
      v.isDirty k = true ∧ ¬ (Operation.submit form submitter).Unmarks v k := by
  have hsteady := steady_sessions (some .submit) v (Form.controls form)
  rw [Operation.Unmarks]
  by_cases ho : OptedOut v.config form submitter
  · rw [submit_of_optedOut v ho, isDirty_of_steady (released_release v form).toSteady]
    simp [ho]
  · by_cases hr : (v.submit form submitter).2 = .ok .proceed
    · rw [isDirty_of_steady (quiet_submit_of_proceed ho hr).toSteady, isDirty_markClean,
        isDirty_of_steady hsteady]
      simp [ho, hr, @eq_comm _ k]
    · rw [isDirty_of_steady (quiet_submit_of_ne_proceed ho hr).toSteady,
        isDirty_of_steady hsteady]
      simp [hr]

/-- What an operation does to the mark of a form. -/
theorem isDirty_perform (v : Validator φ) (op : Operation φ γ σ) (k : FormKey) :
    (op.perform v).isDirty k = true ↔ op.Marks v k ∨ v.isDirty k = true ∧ ¬ op.Unmarks v k := by
  cases op with
  | validate f mode =>
    rw [Operation.perform, isDirty_of_steady (steady_validate v f mode)]
    simp [Operation.Marks, Operation.Unmarks]
  | change f form =>
    rw [Operation.perform, isDirty_change]
    simp [Operation.Marks, Operation.Unmarks]
  | submit form submitter =>
    rw [Operation.perform, isDirty_submit]
    simp [Operation.Marks]
  | markClean form =>
    rw [Operation.perform, isDirty_markClean]
    simp [Operation.Marks, Operation.Unmarks, @eq_comm _ k]
  | _ =>
    show v.isDirty k = true ↔ False ∨ v.isDirty k = true ∧ ¬ False
    simp

/-! ## Runs -/

/-- A submission that is opted out or does not go ahead leaves every mark. -/
theorem isDirty_submit_of_not_proceed {v : Validator φ} {form : γ} {submitter : Option σ}
    (h : OptedOut v.config form submitter ∨ (v.submit form submitter).2 ≠ .ok .proceed)
    (k : FormKey) : (v.submit form submitter).1.isDirty k = v.isDirty k := by
  rw [Bool.eq_iff_iff, isDirty_submit]
  refine and_iff_left ?_
  rintro ⟨-, ho, hr⟩
  exact h.elim ho fun hne => hne hr

/-- A change outside of forms, in a form that turns validation off, or with broken rules leaves
every mark. -/
theorem isDirty_change_of_not_judged {v : Validator φ} {f : φ} {form : Option γ}
    (h : form = none ∨ form.any (v.optsOut ·) = true ∨ ∃ e, (v.change f form).2 = .error e)
    (k : FormKey) : (v.change f form).1.isDirty k = v.isDirty k := by
  rw [Bool.eq_iff_iff, isDirty_change]
  refine or_iff_right ?_
  rintro ⟨⟨owner, rfl, -⟩, report, hr⟩
  obtain h | ho | ⟨e, he⟩ := h
  · cases h
  · rw [change_of_optsOut ho] at hr
    cases hr
  · rw [he] at hr
    cases hr

/-- **Marks over a run.** From its creation on, a validator marks a form exactly if a change in the
form was judged and since then the form was neither marked clean nor submitted with validation.
Submissions that are cancelled, broken or opted out take no mark, and changes that are broken,
opted out or outside of forms set none. -/
theorem isDirty_run (config : Config) (engine : Pattern.Engine) (ops : List (Operation φ γ σ))
    (k : FormKey) :
    (((ofConfig config engine).run ops).isDirty k = true ↔
      Since Operation.perform (fun v op => op.Marks v k) (fun v op => ¬ op.Unmarks v k)
        (ofConfig config engine) ops) ∧
    (∀ (v : Validator φ) (form : γ) (submitter : Option σ),
      OptedOut v.config form submitter ∨ (v.submit form submitter).2 ≠ .ok .proceed →
        (v.submit form submitter).1.isDirty k = v.isDirty k) ∧
    ∀ (v : Validator φ) (f : φ) (form : Option γ),
      form = none ∨ form.any (v.optsOut ·) = true ∨ (∃ e, (v.change f form).2 = .error e) →
        (v.change f form).1.isDirty k = v.isDirty k := by
  refine ⟨?_, fun v form submitter h => isDirty_submit_of_not_proceed h k,
    fun v f form h => isDirty_change_of_not_judged h k⟩
  have hrun := holds_foldl_iff (P := fun v => v.isDirty k = true)
    (fun v op => isDirty_perform v op k) (ofConfig config engine) ops
  have hfirst : ¬ (ofConfig config engine : Validator φ).isDirty k = true := by
    simp [isDirty, ofConfig]
  exact hrun.trans (or_iff_left fun h => hfirst h.1)

end Validator

end FormRules
