import FormRules.Validator.Submission
import FormRules.Proofs.Session.Order

/-!
# The law of a submission

A submission runs one session over each control, in order, and then reads the display states back.
The sessions rewrite the states that are read, but with distinct keys each writes only its own: what
is read at the end is what the session of that control left.

* `sessions`: sessions one after the other, with the result of each.
* `FirstError`: the error of the earliest session that has one.
* `sessions_results`, `displayState_sessions`: with distinct keys every session comes out as if it
  were the only one.
* `invalidControls_sessions`: which controls are read back as invalid.
* `Outcome`, `outcome_submit`: the ways out of a submission, in one inversion.
* `released_or_judged_submit`: what a submission does, opted out or not.
* `change_of_ok`: a change that was judged marks the form.
-/

namespace FormRules

variable {φ γ σ : Type} [Field φ] [Form γ φ] [Attributed σ]

/-! ## Specification -/

/-- The earliest error among the results of sessions. -/
def FirstError (results : List (Except Error Report)) (e : Error) : Prop :=
  ∃ i : Nat, results[i]? = some (Except.error e) ∧
    ∀ j < i, ∀ e', results[j]? ≠ some (Except.error e')

/-- The decision by the keys of the controls that are left invalid. -/
def Decision.ofInvalid : List FieldKey → Decision
  | [] => .proceed
  | invalid => .cancel invalid

/-- The result of a submission by the errors of its sessions and the controls left invalid. -/
def Decision.ofSessions : List Error → List FieldKey → Except Error Decision
  | e :: _, _ => .error e
  | [], invalid => .ok (.ofInvalid invalid)

/-- Validation is turned off, by the form or by the control that submits it. -/
def OptedOut (c : Config) (form : γ) (submitter : Option σ) : Prop :=
  hasAttribute form c.optOutAttribute = true ∨
    ∃ control, submitter = some control ∧ hasAttribute control c.submitterOptOutAttribute = true

omit [Field φ] in
theorem optedOut_iff (c : Config) (form : γ) (submitter : Option σ) :
    (hasAttribute form c.optOutAttribute ||
        submitter.any (hasAttribute · c.submitterOptOutAttribute)) = true ↔
      OptedOut c form submitter := by
  rw [OptedOut, Bool.or_eq_true]
  cases submitter <;> simp

instance (c : Config) (form : γ) (submitter : Option σ) : Decidable (OptedOut c form submitter) :=
  decidable_of_iff _ (optedOut_iff c form submitter)

namespace Validator

/-- Sessions over controls in their order: the validator after the last, and every result. -/
def sessions (mode : Option Mode) (v : Validator φ) (fs : List φ) :
    Validator φ × List (Except Error Report) :=
  v.validateEach (fs.map fun f => (f, mode))

/-- Whether a control counts as invalid once it was judged for a submission: it is enabled, and its
session failed, or it has no rules and was invalid before. -/
def leavesInvalid (v : Validator φ) (f : φ) (result : Except Error Report) : Bool :=
  !Field.isDisabled f &&
    match result with
    | .ok (.failed ..) => true
    | _ => (v.rules? f (some .submit)).isNone && v.displayState (Field.key f) == .invalid

/-- The keys of the controls that count as invalid, in the order of the controls. -/
def leftInvalid (v : Validator φ) (controls : List φ) (results : List (Except Error Report)) :
    List FieldKey :=
  ((controls.zip results).filter fun p => v.leavesInvalid p.1 p.2).map fun p => Field.key p.1

/-- A submission without validation: exactly the controls become neutral, and nothing else changes
but the trace. -/
structure Released (v : Validator φ) (controls : List φ) (v' : Validator φ) : Prop
    extends Steady v v' where
  displayState : ∀ k, v'.displayState k =
    if k ∈ controls.map Field.key then .neutral else v.displayState k
  calls : calls v'.journal = FormRules.calls v.journal

/-- A submission with validation: the sessions `run` over the controls, and what they decide. -/
structure Judged (v : Validator φ) (form : γ) (run : Validator φ × List (Except Error Report))
    (v' : Validator φ) (result : Except Error Decision) : Prop where
  config : v'.config = v.config
  registry : v'.registry = v.registry
  observers : v'.observers = v.observers
  states : v'.states = run.1.states
  calls : calls v'.journal = FormRules.calls run.1.journal
  /-- Only the form itself can lose its mark, and does so when the submission goes ahead. -/
  isDirty : ∀ k, v'.isDirty k = true ↔
    v.isDirty k = true ∧ ¬ (k = Form.key form ∧ result = .ok .proceed)
  error : ∀ e, result = .error e ↔ FirstError run.2 e
  decision : (∀ e, ¬ FirstError run.2 e) →
    result = .ok (.ofInvalid (v.leftInvalid (Form.controls form) run.2))

/-! ## Sessions one after the other -/

theorem sessions_cons (mode : Option Mode) (v : Validator φ) (f : φ) (fs : List φ) :
    sessions mode v (f :: fs) =
      ((sessions mode (v.validate f mode).1 fs).1,
        (v.validate f mode).2 :: (sessions mode (v.validate f mode).1 fs).2) :=
  rfl

theorem keysOf_map (mode : Option Mode) (fs : List φ) :
    keysOf (fs.map fun f => (f, mode)) = fs.map Field.key := by
  rw [keysOf, List.map_map]
  rfl

theorem steady_sessions (mode : Option Mode) (v : Validator φ) (fs : List φ) :
    Steady v (sessions mode v fs).1 := by
  rw [sessions]
  exact steady_validateEach v _

/-- Sessions leave the keys of other fields alone. -/
theorem displayState_sessions_of_not_mem (mode : Option Mode) (v : Validator φ) {fs : List φ}
    {k : FieldKey} (hk : k ∉ fs.map Field.key) :
    (sessions mode v fs).1.displayState k = v.displayState k := by
  rw [sessions]
  apply displayState_validateEach_of_not_mem
  rwa [keysOf_map]

theorem sessions_results (mode : Option Mode) (v : Validator φ) {fs : List φ}
    (hkeys : (fs.map Field.key).Nodup) :
    (sessions mode v fs).2 = fs.map fun f => (v.validate f mode).2 := by
  rw [← keysOf_map mode] at hkeys
  rw [sessions, results_validateEach v hkeys, List.map_map]
  rfl

theorem displayState_sessions (mode : Option Mode) (v : Validator φ) {fs : List φ}
    (hkeys : (fs.map Field.key).Nodup) {f : φ} (hf : f ∈ fs) :
    (sessions mode v fs).1.displayState (Field.key f) =
      (v.validate f mode).1.displayState (Field.key f) := by
  rw [← keysOf_map mode] at hkeys
  rw [sessions]
  exact displayState_validateEach v hkeys (List.mem_map_of_mem (f := fun f => (f, mode)) hf)

/-! ## Errors -/

/-- The errors among the results of sessions. -/
def errorsOf (results : List (Except Error Report)) : List Error :=
  results.filterMap fun
    | .error e => some e
    | .ok _ => none

theorem validateAll_eq (mode : Option Mode) (v : Validator φ) (fs : List φ) :
    v.validateAll mode fs = ((sessions mode v fs).1, errorsOf (sessions mode v fs).2) := by
  induction fs generalizing v with
  | nil => rfl
  | cons f fs ih =>
    rw [validateAll, sessions_cons]
    dsimp only
    rw [ih]
    cases (v.validate f mode).2 <;> rfl

theorem firstError_error_cons (results : List (Except Error Report)) (e e' : Error) :
    FirstError (.error e :: results) e' ↔ e = e' := by
  constructor
  · rintro ⟨i, hi, hleast⟩
    cases i with
    | zero =>
      cases hi
      rfl
    | succ i => exact absurd rfl (hleast 0 (Nat.succ_pos i) e)
  · rintro rfl
    exact ⟨0, rfl, fun j hj => absurd hj (Nat.not_lt_zero j)⟩

theorem firstError_ok_cons (report : Report) (results : List (Except Error Report)) (e : Error) :
    FirstError (.ok report :: results) e ↔ FirstError results e := by
  constructor
  · rintro ⟨i, hi, hleast⟩
    cases i with
    | zero => cases hi
    | succ i => exact ⟨i, hi, fun j hj => hleast (j + 1) (Nat.succ_lt_succ hj)⟩
  · rintro ⟨i, hi, hleast⟩
    refine ⟨i + 1, hi, fun j hj e' h => ?_⟩
    cases j with
    | zero => cases h
    | succ j => exact hleast j (Nat.lt_of_succ_lt_succ hj) e' h

theorem head?_errorsOf (results : List (Except Error Report)) (e : Error) :
    (errorsOf results).head? = some e ↔ FirstError results e := by
  induction results with
  | nil =>
    constructor
    · intro h
      cases h
    · rintro ⟨i, hi, _⟩
      cases hi
  | cons result results ih =>
    cases result with
    | error e' =>
      rw [firstError_error_cons]
      exact Option.some_inj
    | ok report =>
      rw [firstError_ok_cons, ← ih]
      rfl

theorem errorsOf_eq_nil (results : List (Except Error Report)) :
    errorsOf results = [] ↔ ∀ e, ¬ FirstError results e := by
  rw [← List.head?_eq_none_iff, Option.eq_none_iff_forall_ne_some]
  exact forall_congr' fun e => not_congr (head?_errorsOf results e)

theorem errorsOf_map (g : Report → Report) (results : List (Except Error Report)) :
    errorsOf (results.map (Except.map g)) = errorsOf results := by
  rw [errorsOf, errorsOf, List.filterMap_map]
  congr 1
  funext result
  cases result <;> rfl

/-- What sessions find does not hang on the display states before. -/
theorem findings_sessions (mode : Option Mode) {v w : Validator φ} (hc : w.config = v.config)
    (hr : w.registry = v.registry) (fs : List φ) :
    (sessions mode w fs).2.map (Except.map Report.unheard) =
      (sessions mode v fs).2.map (Except.map Report.unheard) := by
  induction fs generalizing v w with
  | nil => rfl
  | cons f fs ih =>
    have hv := steady_validate v f mode
    have hw := steady_validate w f mode
    have hc' : (w.validate f mode).1.config = (v.validate f mode).1.config := by
      rw [hw.config, hv.config, hc]
    have hr' : (w.validate f mode).1.registry = (v.validate f mode).1.registry := by
      rw [hw.registry, hv.registry, hr]
    rw [sessions_cons, sessions_cons, List.map_cons, List.map_cons, findings_validate hc hr,
      ih hc' hr']

theorem errorsOf_sessions (mode : Option Mode) {v w : Validator φ} (hc : w.config = v.config)
    (hr : w.registry = v.registry) (fs : List φ) :
    errorsOf (sessions mode w fs).2 = errorsOf (sessions mode v fs).2 := by
  rw [← errorsOf_map Report.unheard, findings_sessions mode hc hr, errorsOf_map]

/-! ## Which controls are read back as invalid -/

theorem invalidControls_congr {v w : Validator φ} (h : ∀ k, w.displayState k = v.displayState k)
    (fs : List φ) : w.invalidControls fs = v.invalidControls fs := by
  simp only [invalidControls, h]

/-- A control reads back as invalid if its session left it so. -/
theorem displayState_validate_eq_invalid (v : Validator φ) (f : φ)
    (he : ∀ e, (v.validate f (some .submit)).2 ≠ .error e) :
    (!Field.isDisabled f &&
        (v.validate f (some .submit)).1.displayState (Field.key f) == .invalid) =
      v.leavesInvalid f (v.validate f (some .submit)).2 := by
  obtain ⟨result, state, notice, h⟩ :=
    exists_session v.config v.registry f (some .submit) (v.displayState (Field.key f))
  obtain ⟨hresult, hsettled⟩ := session_validate h
  rw [hresult] at he ⊢
  rw [hsettled.displayState, if_pos rfl]
  cases h with
  | disabled hd => simp [leavesInvalid, hd]
  | noRules hd none_counts => simp [leavesInvalid, hd, rules?_eq_none.2 none_counts]
  | passed hd counts _ => simp [leavesInvalid, hd, rules?_eq_some.2 counts]
  | broken => exact absurd rfl (he _)
  | failed hd _ _ _ => simp [leavesInvalid, hd]

theorem invalidControls_sessions (v : Validator φ) {fs : List φ}
    (hkeys : (fs.map Field.key).Nodup)
    (he : errorsOf (sessions (some .submit) v fs).2 = []) :
    (sessions (some .submit) v fs).1.invalidControls fs =
      v.leftInvalid fs (sessions (some .submit) v fs).2 := by
  have hok : ∀ f ∈ fs, ∀ e, (v.validate f (some .submit)).2 ≠ .error e := by
    intro f hf e h
    have hmem : e ∈ errorsOf (sessions (some .submit) v fs).2 := by
      rw [sessions_results _ v hkeys]
      exact List.mem_filterMap.2 ⟨_, List.mem_map_of_mem hf, by rw [h]⟩
    rw [he] at hmem
    cases hmem
  have hread : ∀ f ∈ fs,
      ((sessions (some .submit) v fs).1.displayState (Field.key f) == .invalid &&
          !Field.isDisabled f) =
        v.leavesInvalid f (v.validate f (some .submit)).2 := by
    intro f hf
    rw [displayState_sessions _ v hkeys hf, Bool.and_comm,
      displayState_validate_eq_invalid v f (hok f hf)]
  rw [invalidControls, leftInvalid, sessions_results _ v hkeys, ← List.map_prod_left_eq_zip,
    List.filter_map, List.filter_filter, List.filter_map, List.map_map]
  exact congrArg (List.map Field.key) (List.filter_congr hread)

/-! ## Opting out -/

/-- Clearing controls one after the other makes exactly their keys neutral. -/
theorem displayState_clear (v : Validator φ) (fs : List φ) (k : FieldKey) :
    (fs.foldl (fun v f => v.display (Field.key f) .neutral) v).displayState k =
      if k ∈ fs.map Field.key then .neutral else v.displayState k := by
  induction fs generalizing v with
  | nil => rfl
  | cons f fs ih =>
    rw [List.foldl_cons, ih, displayState_display, List.map_cons]
    by_cases hf : k = Field.key f
    · simp [hf]
    · simp [hf]

theorem steady_clear (v : Validator φ) (fs : List φ) :
    Steady v (fs.foldl (fun v f => v.display (Field.key f) .neutral) v) := by
  induction fs generalizing v with
  | nil => exact Steady.refl v
  | cons f fs ih => exact (steady_display (Field.key f) .neutral v).trans (ih _)

theorem journal_clear (v : Validator φ) (fs : List φ) :
    (fs.foldl (fun v f => v.display (Field.key f) .neutral) v).journal = v.journal := by
  induction fs generalizing v with
  | nil => rfl
  | cons f fs ih => exact ih _

theorem released_release (v : Validator φ) (form : γ) :
    Released v (Form.controls form) (v.release form) where
  toSteady := (steady_clear v _).trans (quiet_say _ _).toSteady
  displayState k := ((quiet_say _ _).displayState k).trans (displayState_clear v _ k)
  calls := (quiet_say _ _).calls.trans (congrArg FormRules.calls (journal_clear v _))

theorem release_withRegistry (r : Registry φ) (v : Validator φ) (form : γ) :
    (v.withRegistry r).release form = (v.release form).withRegistry r := by
  rw [release, release, withRegistry_foldl r fun _ _ => rfl]
  rfl

theorem submit_of_optedOut (v : Validator φ) {form : γ} {submitter : Option σ}
    (h : OptedOut v.config form submitter) :
    v.submit form submitter = (v.release form, .ok .proceed) := by
  rw [submit, optsOut, if_pos ((optedOut_iff v.config form submitter).2 h)]

/-! ## Deciding -/

omit [Field φ] in
theorem isDirty_markClean (v : Validator φ) (k k' : FormKey) :
    (v.markClean k).isDirty k' = true ↔ v.isDirty k' = true ∧ k' ≠ k := by
  simp [isDirty, markClean]

/-- The ways out of a submission that is not opted out, by what the sessions `run` over its controls
came to. -/
inductive Outcome (k : FormKey) (controls : List φ)
    (run : Validator φ × List (Except Error Report)) : Validator φ × Except Error Decision → Prop
  | aborted {e : Error} {rest : List Error} (errors : errorsOf run.2 = e :: rest) :
    Outcome k controls run (run.1.say (.aborted k), .error e)
  | proceeds (errors : errorsOf run.2 = []) (invalid : run.1.invalidControls controls = []) :
    Outcome k controls run ((run.1.markClean k).say (.proceed k), .ok .proceed)
  | cancelled {i : FieldKey} {rest : List FieldKey} (errors : errorsOf run.2 = [])
    (invalid : run.1.invalidControls controls = i :: rest) :
    Outcome k controls run
      (run.1.say (.cancel k (i :: rest).length), .ok (.cancel (i :: rest)))

section

variable {v : Validator φ} {form : γ} {submitter : Option σ}

theorem outcome_submit (h : ¬ OptedOut v.config form submitter) :
    Outcome (Form.key form) (Form.controls form) (sessions (some .submit) v (Form.controls form))
      (v.submit form submitter) := by
  rw [submit, optsOut, if_neg (fun ho => h ((optedOut_iff v.config form submitter).1 ho))]
  simp only [validateAll_eq]
  split
  · exact .aborted ‹_›
  · split
    · exact .proceeds ‹_› ‹_›
    · obtain ⟨i, rest, hi⟩ := List.exists_cons_of_ne_nil ‹_›
      rw [hi]
      exact .cancelled ‹_› hi

/-- The result of a submission hangs on the errors of its sessions and on what is read back. -/
theorem result_submit (h : ¬ OptedOut v.config form submitter) :
    (v.submit form submitter).2 =
      Decision.ofSessions (errorsOf (sessions (some .submit) v (Form.controls form)).2)
        ((sessions (some .submit) v (Form.controls form)).1.invalidControls
          (Form.controls form)) := by
  have hout := outcome_submit h
  generalize v.submit form submitter = out at hout
  cases hout with
  | aborted errors => simp [errors, Decision.ofSessions]
  | proceeds errors invalid => simp [errors, invalid, Decision.ofSessions, Decision.ofInvalid]
  | cancelled errors invalid => simp [errors, invalid, Decision.ofSessions, Decision.ofInvalid]

/-- A submission that goes ahead does no more than its sessions and takes the mark of the form. -/
theorem quiet_submit_of_proceed (h : ¬ OptedOut v.config form submitter)
    (hr : (v.submit form submitter).2 = .ok .proceed) :
    Quiet ((sessions (some .submit) v (Form.controls form)).1.markClean (Form.key form))
      (v.submit form submitter).1 := by
  have hout := outcome_submit h
  generalize v.submit form submitter = out at hout hr
  cases hout with
  | aborted errors => cases hr
  | proceeds errors invalid => exact quiet_say _ _
  | cancelled errors invalid => cases hr

/-- Any other submission does no more than its sessions. -/
theorem quiet_submit_of_ne_proceed (h : ¬ OptedOut v.config form submitter)
    (hr : (v.submit form submitter).2 ≠ .ok .proceed) :
    Quiet (sessions (some .submit) v (Form.controls form)).1 (v.submit form submitter).1 := by
  have hout := outcome_submit h
  generalize v.submit form submitter = out at hout hr
  cases hout with
  | aborted errors => exact quiet_say _ _
  | proceeds errors invalid => exact absurd rfl hr
  | cancelled errors invalid => exact quiet_say _ _

end

/-- What comes of the sessions when one of them has an error. -/
theorem judged_of_error (v : Validator φ) (form : γ) {e : Error}
    (he : FirstError (sessions (some .submit) v (Form.controls form)).2 e) :
    Judged v form (sessions (some .submit) v (Form.controls form))
      ((sessions (some .submit) v (Form.controls form)).1.say (.aborted (Form.key form)))
      (.error e) := by
  have hrun := steady_sessions (some .submit) v (Form.controls form)
  have hsay := quiet_say (.aborted (Form.key form))
    (sessions (some .submit) v (Form.controls form)).1
  have hsteady := hrun.trans hsay.toSteady
  refine ⟨hsteady.config, hsteady.registry, hsteady.observers, hsay.states, hsay.calls,
    fun k => ?_, fun e' => ?_, fun hno => absurd he (hno e)⟩
  · rw [isDirty, hsteady.dirty]
    simp [isDirty]
  · rw [← head?_errorsOf] at he ⊢
    rw [he]
    simp

/-- What comes of the sessions when none of them has an error. -/
theorem judged_of_decision (v : Validator φ) (form : γ) {v' : Validator φ} {decision : Decision}
    (he : ∀ e, ¬ FirstError (sessions (some .submit) v (Form.controls form)).2 e)
    (hd : decision = .ofInvalid (v.leftInvalid (Form.controls form)
      (sessions (some .submit) v (Form.controls form)).2))
    (hq : Quiet
      (if decision = .proceed then
        (sessions (some .submit) v (Form.controls form)).1.markClean (Form.key form)
      else (sessions (some .submit) v (Form.controls form)).1) v') :
    Judged v form (sessions (some .submit) v (Form.controls form)) v' (.ok decision) := by
  have hrun := steady_sessions (some .submit) v (Form.controls form)
  by_cases hp : decision = .proceed
  · rw [if_pos hp] at hq
    refine ⟨hq.config.trans hrun.config, hq.registry.trans hrun.registry,
      hq.observers.trans hrun.observers, hq.states, hq.calls, fun k => ?_,
      fun e => by simpa using he e, fun _ => congrArg _ hd⟩
    rw [isDirty, hq.dirty, ← isDirty, isDirty_markClean, isDirty, hrun.dirty]
    simp [hp, isDirty]
  · rw [if_neg hp] at hq
    refine ⟨hq.config.trans hrun.config, hq.registry.trans hrun.registry,
      hq.observers.trans hrun.observers, hq.states, hq.calls, fun k => ?_,
      fun e => by simpa using he e, fun _ => congrArg _ hd⟩
    rw [isDirty, hq.dirty, hrun.dirty]
    simp [hp, isDirty]

theorem judged_submit (v : Validator φ) (form : γ) (submitter : Option σ)
    (hkeys : ((Form.controls form).map Field.key).Nodup)
    (h : ¬ OptedOut v.config form submitter) :
    Judged v form (sessions (some .submit) v (Form.controls form)) (v.submit form submitter).1
      (v.submit form submitter).2 := by
  have hout := outcome_submit h
  generalize v.submit form submitter = out at hout
  cases hout with
  | aborted errors => exact judged_of_error v form ((head?_errorsOf _ _).1 (by rw [errors]; rfl))
  | proceeds errors invalid =>
    have hread := invalidControls_sessions v hkeys errors
    exact judged_of_decision v form ((errorsOf_eq_nil _).1 errors) (by rw [← hread, invalid]; rfl)
      (quiet_say _ _)
  | cancelled errors invalid =>
    have hread := invalidControls_sessions v hkeys errors
    exact judged_of_decision v form ((errorsOf_eq_nil _).1 errors) (by rw [← hread, invalid]; rfl)
      (quiet_say _ _)

/-- **The law of a submission** of a form whose controls have distinct keys. Opted out, it goes
ahead, makes exactly the controls neutral and puts no rule to a handler, so that it is the same for
all operators. Else every control has one session, which comes out as if it were the only one, and
the sessions decide. -/
theorem released_or_judged_submit (v : Validator φ) (form : γ) (submitter : Option σ)
    (hkeys : ((Form.controls form).map Field.key).Nodup) :
    (OptedOut v.config form submitter →
      (v.submit form submitter).2 = .ok .proceed ∧
      Released v (Form.controls form) (v.submit form submitter).1 ∧
      ∀ r : Registry φ, (v.withRegistry r).submit form submitter =
        ((v.submit form submitter).1.withRegistry r, (v.submit form submitter).2)) ∧
    (¬ OptedOut v.config form submitter →
      ∃ run, run = sessions (some .submit) v (Form.controls form) ∧
        Judged v form run (v.submit form submitter).1 (v.submit form submitter).2 ∧
        run.2 = (Form.controls form).map (fun f => (v.validate f (some .submit)).2) ∧
        (∀ f ∈ Form.controls form, run.1.displayState (Field.key f) =
          (v.validate f (some .submit)).1.displayState (Field.key f)) ∧
        ∀ k, k ∉ (Form.controls form).map Field.key →
          run.1.displayState k = v.displayState k) := by
  constructor
  · intro h
    have hr (r : Registry φ) : OptedOut (v.withRegistry r).config form submitter := h
    rw [submit_of_optedOut v h]
    refine ⟨rfl, released_release v form, fun r => ?_⟩
    rw [submit_of_optedOut _ (hr r), release_withRegistry]
  · intro h
    exact ⟨_, rfl, judged_submit v form submitter hkeys h, sessions_results _ v hkeys,
      fun f hf => displayState_sessions _ v hkeys hf,
      fun k hk => displayState_sessions_of_not_mem _ v hk⟩

/-! ## Changing a control -/

section

variable {v : Validator φ} {f : φ} {form : Option γ}

theorem change_of_optsOut (h : form.any (v.optsOut ·) = true) :
    v.change f form = (v, .ok none) := by
  rw [change, if_pos h]

theorem change_of_error {e : Error} (h : form.any (v.optsOut ·) = false)
    (he : (v.validate f (some .change)).2 = .error e) :
    v.change f form = ((v.validate f (some .change)).1, .error e) := by
  simp [change, h, he]

/-- A change that was judged marks the form, if there is one. -/
theorem change_of_ok {report : Report} (h : form.any (v.optsOut ·) = false)
    (hr : (v.validate f (some .change)).2 = .ok report) :
    v.change f form =
      (form.elim (v.validate f (some .change)).1 fun owner =>
        ((v.validate f (some .change)).1.say (.dirty (Form.key owner))).markDirty (Form.key owner),
        .ok (some report)) := by
  cases form <;> simp [change, h, hr]

end

end Validator

/-! ## A form of every kind of control -/

/-- A control that fails, one that is disabled and one without rules. -/
def mixedForm : PlainForm where
  id := "f"
  fields :=
    [{ id := "a", attributes := .ofList [("data-validate", "never")] },
      { id := "b", disabled := true, attributes := .ofList [("data-validate", "never")] },
      { id := "c" }]

/-- A validator under which the control without rules was invalid before. -/
def mixedValidator : Validator PlainControl where
  config := {}
  registry := Registry.empty.register "never" fun _ _ _ => .fail
  states := DisplayStates.set ⟨"f/c"⟩ .invalid {}
  trace := .ofConfig {}

/-- The control that fails and the one that was invalid before keep the form from being submitted;
the disabled one does not. -/
theorem submit_mixedForm :
    ((Form.controls mixedForm).map Field.key).Nodup ∧
      ¬ OptedOut mixedValidator.config mixedForm (none : Option PlainForm) ∧
      (mixedValidator.submit mixedForm (none : Option PlainForm)).2 =
        .ok (.cancel [⟨"f/a"⟩, ⟨"f/c"⟩]) := by
  have hkeys : ((Form.controls mixedForm).map Field.key).Nodup := by decide
  have hout : ¬ OptedOut mixedValidator.config mixedForm (none : Option PlainForm) := by
    rintro (h | ⟨control, h, -⟩)
    · cases h
    · cases h
  obtain ⟨run, rfl, hjudged, -⟩ :=
    (Validator.released_or_judged_submit mixedValidator mixedForm none hkeys).2 hout
  exact ⟨hkeys, hout, hjudged.decision ((Validator.errorsOf_eq_nil _).1 rfl)⟩

end FormRules
