import FormRules.Proofs.History.Marks
import FormRules.Proofs.Notices
import Mathlib.Data.List.Forall2

/-!
# Observers and the trace only watch

Observers are told and trace lines are kept in the middle of every way through a session, a change
or a submission. None of it feeds back: two validators that differ in nothing else stay so, and they
answer every call alike.

* `Call`, `Call.answer`: what a host asks of a validator, and the answers.
* `Call.watches`: the calls that are about observers and the trace.
* `Validator.Alike`: the validators differ in observers, trace and journal at most.
* `alike_validate`, `alike_change`, `alike_submit`: the same call of alike validators gives the same
  answer and leaves them alike.
* `alike_run`: so do runs that make the same calls but for those that watch.
-/

namespace FormRules

variable {φ γ σ : Type}

/-! ## Specification -/

/-- What a host asks of a validator: an operation, or the warning on leaving. -/
inductive Call (φ γ σ : Type)
  | operation (op : Operation φ γ σ)
  | leaveWarning (forms : List γ)

/-- What a call answers. -/
inductive Answer (φ : Type)
  | report (result : Except Error Report)
  | change (result : Except Error (Option Report))
  | decision (result : Except Error Decision)
  | warning (text : Option String)
  /-- The handler that an operator had before. -/
  | replaced (handler : Option (Handler φ))
  | lines (taken : List TraceLine)
  | nothing

/-- The call is about observers or the trace. -/
def Call.watches : Call φ γ σ → Bool
  | operation (.addObserver _) => true
  | operation (.enableTrace _) => true
  | operation .takeTrace => true
  | _ => false

/-- The calls that do more than watch. -/
def Call.unwatched (calls : List (Call φ γ σ)) : List (Call φ γ σ) :=
  calls.filter fun call => !call.watches

variable [Field φ] [Form γ φ] [Attributed σ]

/-- The answer of an operation. -/
def Operation.answer (v : Validator φ) : Operation φ γ σ → Answer φ
  | validate f mode => .report (v.validate f mode).2
  | change f form => .change (v.change f form).2
  | submit form submitter => .decision (v.submit form submitter).2
  | register name _ => .replaced (v.registry.handler? name)
  | unregister name => .replaced (v.registry.handler? name)
  | takeTrace => .lines v.takeTrace.1
  | _ => .nothing

/-- The answer of a call. -/
def Call.answer (v : Validator φ) : Call φ γ σ → Answer φ
  | operation op => op.answer v
  | leaveWarning forms => .warning (v.leaveWarning forms)

/-- The validator after a call. -/
def Call.perform (v : Validator φ) : Call φ γ σ → Validator φ
  | operation op => op.perform v
  | leaveWarning _ => v

namespace Validator

/-- The validator after calls one after the other. -/
def after (v : Validator φ) (calls : List (Call φ γ σ)) : Validator φ :=
  calls.foldl Call.perform v

/-- The answers of the calls that do more than watch, each with the validator that the call left. -/
def trail (v : Validator φ) : List (Call φ γ σ) → List (Answer φ × Validator φ)
  | [] => []
  | call :: rest =>
    if call.watches then (call.perform v).trail rest
    else (call.answer v, call.perform v) :: (call.perform v).trail rest

/-- The validators differ in observers, in the trace and in what they said so far at most. -/
structure Alike (v w : Validator φ) : Prop where
  config : ∃ trace, w.config = { v.config with trace := trace }
  handler? : ∀ name, w.registry.handler? name = v.registry.handler? name
  displayState : ∀ k, w.displayState k = v.displayState k
  isDirty : ∀ k, w.isDirty k = v.isDirty k

/-! ## Small changes -/

section

omit [Field φ]

variable {v w u : Validator φ}

theorem Alike.refl (v : Validator φ) : Alike v v where
  config := ⟨v.config.trace, rfl⟩
  handler? _ := rfl
  displayState _ := rfl
  isDirty _ := rfl

theorem Alike.symm (h : Alike v w) : Alike w v where
  config := by
    obtain ⟨trace, hc⟩ := h.config
    exact ⟨v.config.trace, by rw [hc]⟩
  handler? name := (h.handler? name).symm
  displayState k := (h.displayState k).symm
  isDirty k := (h.isDirty k).symm

theorem Alike.trans (h : Alike v w) (h' : Alike w u) : Alike v u where
  config := by
    obtain ⟨trace, hc⟩ := h.config
    obtain ⟨trace', hc'⟩ := h'.config
    exact ⟨trace', by rw [hc', hc]⟩
  handler? name := (h'.handler? name).trans (h.handler? name)
  displayState k := (h'.displayState k).trans (h.displayState k)
  isDirty k := (h'.isDirty k).trans (h.isDirty k)

/-- Steady changes of alike validators leave them alike if they leave the display states alike. -/
theorem Alike.of_steady {v' w' : Validator φ} (h : Alike v w) (hv : Steady v v')
    (hw : Steady w w') (hs : ∀ k, w'.displayState k = v'.displayState k) : Alike v' w' where
  config := by
    obtain ⟨trace, hc⟩ := h.config
    exact ⟨trace, by rw [hw.config, hv.config, hc]⟩
  handler? name := by rw [hw.registry, hv.registry, h.handler?]
  displayState := hs
  isDirty k := by rw [isDirty_of_steady hw, isDirty_of_steady hv, h.isDirty]

theorem Alike.of_quiet {v' w' : Validator φ} (h : Alike v w) (hv : Quiet v v') (hw : Quiet w w') :
    Alike v' w' :=
  h.of_steady hv.toSteady hw.toSteady fun k => by
    rw [hw.displayState, hv.displayState, h.displayState]

theorem Alike.markDirty (h : Alike v w) (k : FormKey) : Alike (v.markDirty k) (w.markDirty k) where
  config := h.config
  handler? := h.handler?
  displayState := h.displayState
  isDirty k' := by rw [Bool.eq_iff_iff, isDirty_markDirty, isDirty_markDirty, h.isDirty]

theorem Alike.markClean (h : Alike v w) (k : FormKey) : Alike (v.markClean k) (w.markClean k) where
  config := h.config
  handler? := h.handler?
  displayState := h.displayState
  isDirty k' := by rw [Bool.eq_iff_iff, isDirty_markClean, isDirty_markClean, h.isDirty]

theorem Alike.register (h : Alike v w) (name : String) (handler : Handler φ) :
    Alike (v.register name handler) (w.register name handler) where
  config := h.config
  handler? name' := by
    show (w.registry.handlers.insert name handler).get? name' =
      (v.registry.handlers.insert name handler).get? name'
    rw [Dict.get?_insert, Dict.get?_insert]
    exact congrArg (if name' = name then some handler else ·) (h.handler? name')
  displayState := h.displayState
  isDirty := h.isDirty

theorem Alike.unregister (h : Alike v w) (name : String) :
    Alike (v.unregister name) (w.unregister name) where
  config := h.config
  handler? name' := by
    show (w.registry.handlers.erase name).get? name' = (v.registry.handlers.erase name).get? name'
    rw [Dict.get?_erase, Dict.get?_erase]
    exact congrArg (if name' = name then none else ·) (h.handler? name')
  displayState := h.displayState
  isDirty := h.isDirty

end

end Validator

/-! ## Sessions -/

section

variable {c : Config} {trace : TraceConfig} {r r' : Registry φ} {f : φ} {mode : Option Mode}

theorem ruleText_withTrace {text : String} :
    RuleText { c with trace := trace } f mode text ↔ RuleText c f mode text := by
  constructor
  · rintro (⟨hm, there, filled⟩ | ⟨other, there, filled⟩)
    · exact .ofMode hm there filled
    · exact .general other there filled
  · rintro (⟨hm, there, filled⟩ | ⟨other, there, filled⟩)
    · exact .ofMode hm there filled
    · exact .general other there filled

namespace Registry

omit [Field φ]

theorem reply?_congr (hr : ∀ name, r'.handler? name = r.handler? name) (rule : Rule) :
    r'.reply? f mode rule = r.reply? f mode rule := by
  rw [reply?, reply?, hr]

theorem UndecidedBefore.congr (hr : ∀ name, r'.handler? name = r.handler? name)
    {rules : List Rule} {n : Nat} (h : r.UndecidedBefore f mode rules n) :
    r'.UndecidedBefore f mode rules n := by
  intro j hj rule hrule reply hreply
  rw [reply?_congr hr] at hreply
  exact h j hj rule hrule reply hreply

theorem DecidesAt.congr (hr : ∀ name, r'.handler? name = r.handler? name) {rules : List Rule}
    {i : Nat} {rule : Rule} {reply : Reply} (h : r.DecidesAt f mode rules i rule reply) :
    r'.DecidesAt f mode rules i rule reply where
  rule_at := h.rule_at
  reply_eq := by rw [reply?_congr hr, h.reply_eq]
  decisive := h.decisive
  least := h.least.congr hr

end Registry

/-- A session does not hang on the trace, and on no more of the operators than their handlers. -/
theorem Session.congr (hr : ∀ name, r'.handler? name = r.handler? name) {before : DisplayState}
    {result : Except Error Report} {state : DisplayState} {notice : Option Notice}
    (h : Session c r f mode before result state notice) :
    Session { c with trace := trace } r' f mode before result state notice := by
  cases h with
  | disabled hd => exact .disabled hd
  | noRules hd none_counts =>
    exact .noRules hd fun text counts => none_counts text (ruleText_withTrace.1 counts)
  | passed hd counts undecided =>
    exact .passed hd (ruleText_withTrace.2 counts) (undecided.congr hr)
  | broken hd counts decides error =>
    exact .broken hd (ruleText_withTrace.2 counts) (decides.congr hr) error
  | failed hd counts decides sound =>
    exact .failed hd (ruleText_withTrace.2 counts) (decides.congr hr) sound

end

namespace Validator

variable {v w : Validator φ}

theorem alike_validate (h : Alike v w) (f : φ) (mode : Option Mode) :
    (v.validate f mode).2 = (w.validate f mode).2 ∧
      Alike (v.validate f mode).1 (w.validate f mode).1 := by
  obtain ⟨trace, hc⟩ := h.config
  obtain ⟨result, state, notice, hsession⟩ :=
    exists_session v.config v.registry f mode (v.displayState (Field.key f))
  have hsession' : Session w.config w.registry f mode (w.displayState (Field.key f)) result state
      notice := by
    rw [hc, h.displayState]
    exact hsession.congr h.handler?
  obtain ⟨hv, hvs⟩ := session_validate hsession
  obtain ⟨hw, hws⟩ := session_validate hsession'
  refine ⟨hv.trans hw.symm, h.of_steady hvs.toSteady hws.toSteady fun k => ?_⟩
  rw [hws.displayState, hvs.displayState, h.displayState]

theorem alike_sessions (h : Alike v w) (mode : Option Mode) (fs : List φ) :
    (sessions mode v fs).2 = (sessions mode w fs).2 ∧
      Alike (sessions mode v fs).1 (sessions mode w fs).1 := by
  induction fs generalizing v w with
  | nil => exact ⟨rfl, h⟩
  | cons f fs ih =>
    obtain ⟨hresult, hfirst⟩ := alike_validate h f mode
    obtain ⟨hresults, hrest⟩ := ih hfirst
    exact ⟨congrArg₂ List.cons hresult hresults, hrest⟩

/-! ## Changes and submissions -/

omit [Field φ] in
theorem Alike.optsOut (h : Alike v w) (form : γ) : w.optsOut form = v.optsOut form := by
  obtain ⟨trace, hc⟩ := h.config
  rw [Validator.optsOut, Validator.optsOut, hc]

omit [Field φ] in
theorem Alike.optedOut_iff (h : Alike v w) (form : γ) (submitter : Option σ) :
    OptedOut w.config form submitter ↔ OptedOut v.config form submitter := by
  obtain ⟨trace, hc⟩ := h.config
  rw [hc]
  rfl

theorem alike_release (h : Alike v w) (form : γ) : Alike (v.release form) (w.release form) := by
  have hv := released_release v form
  have hw := released_release w form
  refine h.of_steady hv.toSteady hw.toSteady fun k => ?_
  rw [hw.displayState, hv.displayState, h.displayState]

theorem alike_change (h : Alike v w) (f : φ) (form : Option γ) :
    (v.change f form).2 = (w.change f form).2 ∧
      Alike (v.change f form).1 (w.change f form).1 := by
  have hopts : form.any (w.optsOut ·) = form.any (v.optsOut ·) := by
    simp only [h.optsOut]
  obtain ⟨hresult, hsession⟩ := alike_validate h f (some .change)
  cases ho : form.any (v.optsOut ·) with
  | true =>
    rw [change_of_optsOut ho, change_of_optsOut (hopts.trans ho)]
    exact ⟨rfl, h⟩
  | false =>
    cases hr : (v.validate f (some .change)).2 with
    | error e =>
      rw [change_of_error ho hr, change_of_error (hopts.trans ho) (hresult.symm.trans hr)]
      exact ⟨rfl, hsession⟩
    | ok report =>
      rw [change_of_ok ho hr, change_of_ok (hopts.trans ho) (hresult.symm.trans hr)]
      refine ⟨rfl, ?_⟩
      cases form with
      | none => exact hsession
      | some owner => exact (hsession.of_quiet (quiet_say _ _) (quiet_say _ _)).markDirty _

theorem alike_submit (h : Alike v w) (form : γ) (submitter : Option σ) :
    (v.submit form submitter).2 = (w.submit form submitter).2 ∧
      Alike (v.submit form submitter).1 (w.submit form submitter).1 := by
  by_cases ho : OptedOut v.config form submitter
  · rw [submit_of_optedOut v ho, submit_of_optedOut w ((h.optedOut_iff form submitter).2 ho)]
    exact ⟨rfl, alike_release h form⟩
  · have ho' := mt (h.optedOut_iff form submitter).1 ho
    obtain ⟨hresults, hsessions⟩ := alike_sessions h (some .submit) (Form.controls form)
    have hresult : (v.submit form submitter).2 = (w.submit form submitter).2 := by
      rw [result_submit ho, result_submit ho', hresults,
        invalidControls_congr hsessions.displayState]
    refine ⟨hresult, ?_⟩
    by_cases hp : (v.submit form submitter).2 = .ok .proceed
    · exact (hsessions.markClean (Form.key form)).of_quiet (quiet_submit_of_proceed ho hp)
        (quiet_submit_of_proceed ho' (hresult ▸ hp))
    · exact hsessions.of_quiet (quiet_submit_of_ne_proceed ho hp)
        (quiet_submit_of_ne_proceed ho' (hresult ▸ hp))

omit [Field φ] in
theorem Alike.leaveWarning (h : Alike v w) (forms : List γ) :
    w.leaveWarning forms = v.leaveWarning forms := by
  obtain ⟨trace, hc⟩ := h.config
  have hwarns (form : γ) : w.warnsFor form = v.warnsFor form := by
    rw [warnsFor, warnsFor, h.isDirty, h.optsOut, asksToStay, asksToStay, hc]
  have htexts : w.leaveTexts forms = v.leaveTexts forms := by
    rw [leaveTexts, leaveTexts, hc]
    congr 1
    funext texts form
    rw [hwarns]
  rw [Validator.leaveWarning, Validator.leaveWarning, htexts, hc]

/-! ## Calls -/

/-- A call that does more than watch has the same answer from alike validators. -/
theorem alike_perform (h : Alike v w) {call : Call φ γ σ} (hcall : call.watches = false) :
    call.answer v = call.answer w ∧ Alike (call.perform v) (call.perform w) := by
  cases call with
  | leaveWarning forms => exact ⟨congrArg Answer.warning (h.leaveWarning forms).symm, h⟩
  | operation op =>
    cases op with
    | validate f mode =>
      obtain ⟨hresult, hafter⟩ := alike_validate h f mode
      exact ⟨congrArg Answer.report hresult, hafter⟩
    | change f form =>
      obtain ⟨hresult, hafter⟩ := alike_change h f form
      exact ⟨congrArg Answer.change hresult, hafter⟩
    | submit form submitter =>
      obtain ⟨hresult, hafter⟩ := alike_submit h form submitter
      exact ⟨congrArg Answer.decision hresult, hafter⟩
    | markClean form => exact ⟨rfl, h.markClean form⟩
    | register name handler =>
      exact ⟨congrArg Answer.replaced (h.handler? name).symm, h.register name handler⟩
    | unregister name =>
      exact ⟨congrArg Answer.replaced (h.handler? name).symm, h.unregister name⟩
    | addObserver o => cases hcall
    | enableTrace enabled => cases hcall
    | takeTrace => cases hcall

/-- A call that watches leaves a validator that is alike. -/
theorem alike_of_watches {call : Call φ γ σ} (hcall : call.watches = true) (v : Validator φ) :
    Alike v (call.perform v) := by
  cases call with
  | leaveWarning forms => cases hcall
  | operation op =>
    have hsame := Alike.refl v
    cases op with
    | addObserver o => exact ⟨hsame.config, hsame.handler?, hsame.displayState, hsame.isDirty⟩
    | enableTrace enabled =>
      exact ⟨hsame.config, hsame.handler?, hsame.displayState, hsame.isDirty⟩
    | takeTrace => exact ⟨hsame.config, hsame.handler?, hsame.displayState, hsame.isDirty⟩
    | _ => cases hcall

/-- Calls that watch leave no trail. -/
theorem trail_of_watches {calls : List (Call φ γ σ)} (h : ∀ call ∈ calls, call.watches = true)
    (v : Validator φ) (rest : List (Call φ γ σ)) :
    v.trail (calls ++ rest) = (v.after calls).trail rest ∧ Alike v (v.after calls) := by
  induction calls generalizing v with
  | nil => exact ⟨rfl, Alike.refl v⟩
  | cons call calls ih =>
    have hcall := h call List.mem_cons_self
    obtain ⟨htrail, halike⟩ :=
      ih (fun c hc => h c (List.mem_cons_of_mem call hc)) (call.perform v)
    rw [List.cons_append, trail, if_pos hcall]
    exact ⟨htrail, (alike_of_watches hcall v).trans halike⟩

/-- Up to its first call that does more, a run only watches. -/
theorem exists_split_of_unwatched {calls rest : List (Call φ γ σ)} {call : Call φ γ σ}
    (h : Call.unwatched calls = call :: rest) (v : Validator φ) :
    ∃ u later, Alike v u ∧ call.watches = false ∧ Call.unwatched later = rest ∧
      v.trail calls = (call.answer u, call.perform u) :: (call.perform u).trail later ∧
      v.after calls = (call.perform u).after later := by
  obtain ⟨early, later, rfl, hearly, hcall, hlater⟩ := List.filter_eq_cons_iff.1 h
  rw [Bool.not_eq_true'] at hcall
  obtain ⟨htrail, halike⟩ := trail_of_watches (fun c hc => by simpa using hearly c hc) v
    (call :: later)
  refine ⟨v.after early, later, halike, hcall, hlater, ?_, ?_⟩
  · rw [htrail, trail, if_neg (by simp [hcall])]
  · rw [after, List.foldl_append]
    rfl

/-! ## Runs -/

/-- **Observers and the trace do not interfere.** Two validators that differ in observers, trace and
journal at most make two runs with the same calls, but for calls about observers and the trace that
either run makes for itself. Then all answers are the same, and after each of the shared calls and
at the end the validators differ in observers, trace and journal at most. -/
theorem alike_run {v w : Validator φ} (h : Alike v w) {s t : List (Call φ γ σ)}
    (hst : Call.unwatched s = Call.unwatched t) :
    List.Forall₂ (fun a b => a.1 = b.1 ∧ Alike a.2 b.2) (v.trail s) (w.trail t) ∧
      Alike (v.after s) (w.after t) := by
  generalize ht : Call.unwatched t = calls at hst
  -- Both runs are taken apart along the calls that they share.
  induction calls generalizing v w s t with
  | nil =>
    have hs : ∀ call ∈ s, call.watches = true := by simpa [Call.unwatched] using hst
    have ht : ∀ call ∈ t, call.watches = true := by simpa [Call.unwatched] using ht
    obtain ⟨htrail, hv⟩ := trail_of_watches hs v []
    obtain ⟨htrail', hw⟩ := trail_of_watches ht w []
    rw [List.append_nil] at htrail htrail'
    rw [htrail, htrail']
    exact ⟨.nil, hv.symm.trans (h.trans hw)⟩
  | cons call calls ih =>
    obtain ⟨v', s', hv, hcall, hs', htrail, hafter⟩ := exists_split_of_unwatched hst v
    obtain ⟨w', t', hw, -, ht', htrail', hafter'⟩ := exists_split_of_unwatched ht w
    obtain ⟨hanswer, halike⟩ := alike_perform (hv.symm.trans (h.trans hw)) hcall
    obtain ⟨hrest, hend⟩ := ih halike ht' hs'
    rw [htrail, htrail', hafter, hafter']
    exact ⟨.cons ⟨hanswer, halike⟩ hrest, hend⟩

end Validator

/-! ## A form that is watched -/

/-- The validator with an observer that refuses every notice and with a trace of one line. -/
def watchedValidator : Validator PlainControl :=
  { mixedValidator with
    config := { mixedValidator.config with trace := ⟨true, 1⟩ }
    observers := [⟨fun _ => some "busy"⟩]
    trace := .ofConfig ⟨true, 1⟩ }

/-- A submission and a look at the warning on leaving. -/
def plainCalls : List (Call PlainControl PlainForm PlainForm) :=
  [.operation (.submit mixedForm none), .leaveWarning [mixedForm]]

/-- The same calls, between others that watch. -/
def watchedCalls : List (Call PlainControl PlainForm PlainForm) :=
  [.operation (.addObserver ⟨fun _ => none⟩), .operation (.submit mixedForm none),
    .operation .takeTrace, .leaveWarning [mixedForm], .operation (.enableTrace false)]

/-- Only one of the two validators tells observers of the failure, and both decide alike. -/
theorem alike_run_mixedForm :
    Validator.Alike mixedValidator watchedValidator ∧
      Call.unwatched plainCalls = Call.unwatched watchedCalls ∧
      alarms ⟨"f/a"⟩ (mixedValidator.after plainCalls).journal = [] ∧
      alarms ⟨"f/a"⟩ (watchedValidator.after watchedCalls).journal ≠ [] ∧
      List.Forall₂ (fun a b => a.1 = b.1 ∧ Validator.Alike a.2 b.2)
        (mixedValidator.trail plainCalls) (watchedValidator.trail watchedCalls) ∧
      Validator.Alike (mixedValidator.after plainCalls) (watchedValidator.after watchedCalls) := by
  have halike : Validator.Alike mixedValidator watchedValidator :=
    ⟨⟨⟨true, 1⟩, rfl⟩, fun _ => rfl, fun _ => rfl, fun _ => rfl⟩
  have hcalls : Call.unwatched plainCalls = Call.unwatched watchedCalls := rfl
  exact ⟨halike, hcalls, by decide, by decide, Validator.alike_run halike hcalls⟩

end FormRules
