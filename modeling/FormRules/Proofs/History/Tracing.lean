import FormRules.Proofs.History
import FormRules.Proofs.Trace

/-!
# What a validator says and what its trace keeps

Every trace line is said in two places: the journal holds it for good, and the trace takes it in. So
what happens to the trace in a run can be read off the journal, and the trace at the end is the one
that these events make of a new trace, whatever else the validator did in between.

* `linesOf`, `Validator.traceEvents`: the lines of a journal, and what a run does to the trace.
* `Validator.Talks`: some lines were said, and nothing else was done to the trace.
* `talks_validate`, `talks_performAll`: sessions, and acts that leave the trace to itself, only
  talk.
* `trace_run`: the trace at the end of a run.
* `takes_latest`: what a taking of the trace gives.
-/

namespace FormRules

variable {φ γ σ : Type}

/-! ## Specification -/

/-- The trace line that an effect is. -/
def Effect.line? : Effect → Option TraceLine
  | traced line => some line
  | _ => none

/-- The trace lines of a journal in their order. -/
def linesOf (journal : List Effect) : List TraceLine := journal.filterMap Effect.line?

variable [Field φ] [Form γ φ] [Attributed σ]

/-- What an operation does to the trace. If it is not about the trace, it says the lines that it
adds to the journal. -/
def Operation.traceEvents (v : Validator φ) : Operation φ γ σ → List TraceEvent
  | enableTrace enabled => [.switched enabled]
  | takeTrace => [.taken]
  | op => ((linesOf (op.perform v).journal).drop (linesOf v.journal).length).map .said

/-- What a run does to the trace. -/
def Validator.traceEvents (v : Validator φ) : List (Operation φ γ σ) → List TraceEvent
  | [] => []
  | op :: ops => op.traceEvents v ++ (op.perform v).traceEvents ops

/-! ## Talking -/

namespace Validator

section

omit [Field φ]

variable {v v' v'' : Validator φ}

/-- Some lines were said, and nothing else was done to the trace. -/
def Talks (v v' : Validator φ) : Prop :=
  ∃ said, linesOf v'.journal = linesOf v.journal ++ said ∧
    v'.trace = v.trace.after (said.map .said)

/-- No line was said, and nothing was done to the trace. -/
theorem talks_of_eq (hjournal : linesOf v'.journal = linesOf v.journal)
    (htrace : v'.trace = v.trace) : Talks v v' :=
  ⟨[], by rw [hjournal, List.append_nil], htrace⟩

theorem Talks.refl (v : Validator φ) : Talks v v := talks_of_eq rfl rfl

theorem Talks.trans (h : Talks v v') (h' : Talks v' v'') : Talks v v'' := by
  obtain ⟨said, hjournal, htrace⟩ := h
  obtain ⟨said', hjournal', htrace'⟩ := h'
  refine ⟨said ++ said', ?_, ?_⟩
  · rw [hjournal', hjournal, List.append_assoc]
  · rw [htrace', htrace, List.map_append, Trace.after_append]

theorem talks_foldl {α : Type} {change : Validator φ → α → Validator φ}
    (h : ∀ v a, Talks v (change v a)) (l : List α) (v : Validator φ) :
    Talks v (l.foldl change v) := by
  induction l generalizing v with
  | nil => exact Talks.refl v
  | cons a l ih => exact (h v a).trans (ih (change v a))

/-- The lines that were said are those that the journal has more. -/
theorem Talks.trace_eq (h : Talks v v') :
    v'.trace = v.trace.after
      (((linesOf v'.journal).drop (linesOf v.journal).length).map .said) := by
  obtain ⟨said, hjournal, htrace⟩ := h
  rw [hjournal, List.drop_left, htrace]

/-! ### Small changes -/

theorem talks_say (line : TraceLine) (v : Validator φ) : Talks v (v.say line) :=
  ⟨[line], List.filterMap_append, rfl⟩

theorem talks_tell (notice : Notice) (v : Validator φ) : Talks v (v.tell notice) := by
  refine talks_of_eq ?_ rfl
  have hnone : linesOf ((List.range v.observers.length).map fun i => .told i notice) = [] := by
    rw [linesOf, List.filterMap_map]
    exact List.filterMap_eq_nil_iff.2 fun _ _ => rfl
  show linesOf (v.journal ++ _) = _
  rw [linesOf, List.filterMap_append, ← linesOf, ← linesOf, hnone, List.append_nil]

theorem talks_ignore (k : FieldKey) (refusal : String) (v : Validator φ) :
    Talks v (v.ignore k refusal) := by
  have hrecord : Talks v (v.record (.warned k refusal)) := by
    refine talks_of_eq ?_ rfl
    show linesOf (v.journal ++ [.warned k refusal]) = _
    rw [linesOf, List.filterMap_append]
    exact List.append_nil _
  exact hrecord.trans (talks_say _ _)

theorem talks_display (k : FieldKey) (state : DisplayState) (v : Validator φ) :
    Talks v (v.display k state) := talks_of_eq rfl rfl

theorem talks_notify (k : FieldKey) (failure : Failure) (message : String) (v : Validator φ) :
    Talks v (v.notify k failure message) :=
  (talks_tell _ v).trans (talks_foldl (fun v refusal => talks_ignore k refusal v) _ _)

end

/-! ## Sessions and runs -/

theorem talks_conclude (v : Validator φ) (f : φ) (ruling : Ruling) :
    Talks v (v.conclude f ruling).1 := by
  cases ruling with
  | passed => exact ((talks_display _ _ v).trans (talks_say _ _)).trans (talks_tell _ _)
  | failed failure =>
    have hsaid := (talks_display (Field.key f) .invalid v).trans
      (talks_say (.invalid (Field.key f) failure.index failure.operator
        (v.displayState (Field.key f) != .invalid)) _)
    simp only [conclude, fail]
    split_ifs
    · exact hsaid.trans (talks_notify _ _ _ _)
    · exact hsaid
  | broken index operator e => exact talks_say _ v

theorem talks_validate (v : Validator φ) (f : φ) (mode : Option Mode) :
    Talks v (v.validate f mode).1 := by
  unfold validate
  dsimp only
  split_ifs
  · exact (talks_display _ _ v).trans (talks_say _ _)
  · split
    · exact talks_say _ v
    · exact (talks_foldl (fun v _ => talks_say _ v) _ v).trans (talks_conclude _ f _)

end Validator

/-- The act is about the trace. -/
def Act.HandlesTrace : Act φ → Prop
  | enableTrace _ => True
  | takeTrace => True
  | _ => False

/-- The operation is about the trace. -/
def Operation.HandlesTrace : Operation φ γ σ → Prop
  | enableTrace _ => True
  | takeTrace => True
  | _ => False

omit [Field φ] in
theorem not_handlesTrace_closeChange (form : Option γ) (result : Except Error Report) :
    ∀ a : Act φ, a ∈ closeChange form result → ¬ a.HandlesTrace := by
  cases result with
  | error e => simp [closeChange]
  | ok report => cases form <;> simp [closeChange, Act.HandlesTrace]

omit [Field φ] in
theorem not_handlesTrace_closeSubmit (form : FormKey) (result : Except Error Decision) :
    ∀ a : Act φ, a ∈ closeSubmit form result → ¬ a.HandlesTrace := by
  cases result with
  | error e => simp [closeSubmit, Act.HandlesTrace]
  | ok decision => cases decision <;> simp [closeSubmit, Act.HandlesTrace]

/-- Only operations about the trace have acts about the trace. -/
theorem not_handlesTrace_of_mem_acts {op : Operation φ γ σ} (h : ¬ op.HandlesTrace)
    (v : Validator φ) : ∀ a ∈ op.acts v, ¬ a.HandlesTrace := by
  cases op with
  | change f form =>
    rw [Operation.acts]
    split_ifs
    · simp
    · rw [List.forall_mem_cons]
      exact ⟨not_false, not_handlesTrace_closeChange form _⟩
  | submit form submitter =>
    rw [Operation.acts]
    split_ifs
    · rw [List.forall_mem_append, List.forall_mem_map, List.forall_mem_singleton]
      exact ⟨fun _ _ => not_false, not_false⟩
    · rw [List.forall_mem_append, List.forall_mem_map]
      exact ⟨fun _ _ => not_false, not_handlesTrace_closeSubmit (Form.key form) _⟩
  | enableTrace enabled => exact absurd trivial h
  | takeTrace => exact absurd trivial h
  | _ => simp [Operation.acts, Act.HandlesTrace]

namespace Validator

theorem talks_act {a : Act φ} (h : ¬ a.HandlesTrace) (v : Validator φ) :
    Talks v (a.perform v) := by
  cases a with
  | session f mode => exact talks_validate v f mode
  | say line => exact talks_say line v
  | enableTrace enabled => exact absurd trivial h
  | takeTrace => exact absurd trivial h
  | _ => exact talks_of_eq rfl rfl

theorem talks_performAll {acts : List (Act φ)} (h : ∀ a ∈ acts, ¬ a.HandlesTrace)
    (v : Validator φ) : Talks v (v.performAll acts) := by
  induction acts generalizing v with
  | nil => exact Talks.refl v
  | cons a acts ih =>
    obtain ⟨ha, hacts⟩ := List.forall_mem_cons.1 h
    exact (talks_act ha v).trans (ih hacts (a.perform v))

/-- What one operation does to the trace. -/
theorem trace_perform (v : Validator φ) (op : Operation φ γ σ) :
    (op.perform v).trace = v.trace.after (op.traceEvents v) := by
  by_cases h : op.HandlesTrace
  · cases op with
    | enableTrace enabled => rfl
    | takeTrace => rfl
    | _ => exact h.elim
  · have htalks : Talks v (op.perform v) := by
      rw [perform_eq_performAll]
      exact talks_performAll (not_handlesTrace_of_mem_acts h v) v
    cases op with
    | enableTrace enabled => exact absurd trivial h
    | takeTrace => exact absurd trivial h
    | _ => exact htalks.trace_eq

/-- The trace at the end of a run is what the run did to it. -/
theorem trace_run (v : Validator φ) (ops : List (Operation φ γ σ)) :
    (v.run ops).trace = v.trace.after (v.traceEvents ops) := by
  induction ops generalizing v with
  | nil => rfl
  | cons op ops ih =>
    rw [traceEvents, Trace.after_append, ← trace_perform]
    exact ih (op.perform v)

end Validator

/-! ## Taking the trace -/

/-- **The trace.** Let anything happen to a trace that was configured: lines are said, it is turned
on and off, and it is taken, the last time before the events `since`, if ever. Then it is no longer
than the limit, where a limit of zero counts as one; a taking gives the latest of the lines that
were said since while the trace was on, in their order and as many as the limit allows, and leaves
none. Turning the trace on or off keeps its lines, and while it is off it takes in none. The trace
of a validator is such a trace, with the lines that the validator says in a run. -/
theorem takes_latest (c : TraceConfig) {before since : List TraceEvent} {t : Trace}
    (ht : t = (Trace.ofConfig c).after (before ++ since)) (hbefore : EndsTaken before)
    (hsince : .taken ∉ since) :
    t.lines.length ≤ max c.limit 1 ∧
    (t.take.1 <:+ saidWhileOn (isOn c.enabled before) since ∧
      t.take.1.length =
        min (saidWhileOn (isOn c.enabled before) since).length (max c.limit 1)) ∧
    t.take.2.lines = [] ∧
    (∀ on, (t.step (.switched on)).lines = t.lines) ∧
    (isOn c.enabled (before ++ since) = false → ∀ line, t.step (.said line) = t) ∧
    ∀ (config : Config) (engine : Pattern.Engine) (ops : List (Operation φ γ σ)),
      config.trace = c →
      (Validator.ofConfig config engine : Validator φ).traceEvents ops = before ++ since →
      ((Validator.ofConfig config engine : Validator φ).run ops).trace = t := by
  have hlimit : t.limit = max c.limit 1 := by
    rw [ht, Trace.limit_after]
    rfl
  have hkeeps : t.Keeps (saidWhileOn (isOn c.enabled before) since) := by
    rw [ht]
    exact Trace.keeps_after_ofConfig c hbefore hsince
  refine ⟨?_, ⟨hkeeps.suffix, ?_⟩, rfl, fun _ => rfl, fun hoff line => ?_, ?_⟩
  · rw [hkeeps.length_eq, hlimit]
    exact min_le_right _ _
  · rw [← hlimit]
    exact hkeeps.length_eq
  · refine Trace.add_of_not_enabled ?_ line
    rw [ht, Trace.enabled_after]
    exact hoff
  · intro config engine ops hconfig hevents
    rw [Validator.trace_run, hevents, ht, ← hconfig]
    rfl

/-! ## A trace of one line -/

/-- A field that is required and empty. -/
def emptyControl : PlainControl where
  form := { id := "f" }
  field := { id := "a", attributes := .ofList [("data-validate", "required")] }

/-- A field without rules. -/
def freeControl : PlainControl where
  form := { id := "f" }
  field := { id := "b" }

/-- Two sessions between a taking of the trace and its end. -/
def tracedRun : List (Operation PlainControl PlainForm PlainForm) :=
  [.validate emptyControl none, .takeTrace, .validate emptyControl none,
    .validate freeControl none, .enableTrace false, .validate emptyControl none]

/-- What the run does to the trace up to the taking. -/
def tracedBefore : List TraceEvent := [.said (.invalid ⟨"f/a"⟩ 0 "required" true), .taken]

/-- What it does to the trace from then on. -/
def tracedSince : List TraceEvent :=
  [.said (.invalid ⟨"f/a"⟩ 0 "required" false), .said (.exempt ⟨"f/b"⟩ none .noRules),
    .switched false, .said (.invalid ⟨"f/a"⟩ 0 "required" false)]

/-- A limit of zero leaves room for one line. It is that of the second session behind the taking, as
the trace hears nothing of the third. -/
theorem takes_latest_tracedRun :
    EndsTaken tracedBefore ∧ .taken ∉ tracedSince ∧
      saidWhileOn (isOn true tracedBefore) tracedSince =
        [.invalid ⟨"f/a"⟩ 0 "required" false, .exempt ⟨"f/b"⟩ none .noRules] ∧
      (Validator.ofConfig { trace := ⟨true, 0⟩ } : Validator PlainControl).traceEvents tracedRun =
        tracedBefore ++ tracedSince ∧
      isOn true (tracedBefore ++ tracedSince) = false ∧
      ((Validator.ofConfig { trace := ⟨true, 0⟩ }).run tracedRun).takeTrace.1 =
        [.exempt ⟨"f/b"⟩ none .noRules] := by
  have hbefore : EndsTaken tracedBefore := .inr ⟨[_], rfl⟩
  have hsince : .taken ∉ tracedSince := by decide
  have hevents : (Validator.ofConfig { trace := ⟨true, 0⟩ } : Validator PlainControl).traceEvents
      tracedRun = tracedBefore ++ tracedSince := by decide
  obtain ⟨-, ⟨hsuffix, hlength⟩, -, -, -, hrun⟩ := takes_latest (φ := PlainControl)
    (γ := PlainForm) (σ := PlainForm) ⟨true, 0⟩ rfl hbefore hsince
  have htrace := hrun { trace := ⟨true, 0⟩ } .standard tracedRun rfl hevents
  refine ⟨hbefore, hsince, rfl, hevents, rfl, ?_⟩
  rw [Validator.takeTrace, htrace, List.suffix_iff_eq_drop.1 hsuffix, hlength]
  rfl

end FormRules
