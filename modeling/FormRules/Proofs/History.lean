import FormRules.Proofs.Submission

/-!
# Runs of a validator

What a host does with a validator is a sequence of operations. A change or a submission is made of
smaller acts, and what a validator owes to its history is stated of acts: one session, one clearing,
one mark.

* `Operation`, `Validator.run`: the operations, and a run of them.
* `Act`, `Validator.acts`: the acts, and those that a run consists of, in order.
* `run_eq_performAll`: a run does what its acts do one after the other.
* `Act.Touches`, `Operation.Reaches`: the fields that are judged or cleared; the display states of
  all others stay, and disabled ones become neutral.
-/

namespace FormRules

variable {φ γ σ : Type}

/-! ## Operations -/

/-- What a host does with a validator: the public functions of `Validator` that change it. Whatever
a host does to the registry as a whole (`registry_mut`) comes to registering and unregistering
operators. -/
inductive Operation (φ γ σ : Type)
  | validate (f : φ) (mode : Option Mode)
  | change (f : φ) (form : Option γ)
  | submit (form : γ) (submitter : Option σ)
  | markClean (form : FormKey)
  | register (name : String) (handler : Handler φ)
  | unregister (name : String)
  | addObserver (o : Observer)
  | enableTrace (enabled : Bool)
  | takeTrace

/-- The smallest changes that operations are made of. -/
inductive Act (φ : Type)
  | session (f : φ) (mode : Option Mode)
  /-- A control becomes neutral because its form is submitted without validation. -/
  | clear (k : FieldKey)
  | say (line : TraceLine)
  | markDirty (form : FormKey)
  | markClean (form : FormKey)
  | register (name : String) (handler : Handler φ)
  | unregister (name : String)
  | addObserver (o : Observer)
  | enableTrace (enabled : Bool)
  | takeTrace

variable [Field φ] [Form γ φ] [Attributed σ]

/-- The validator after an operation. -/
def Operation.perform (v : Validator φ) : Operation φ γ σ → Validator φ
  | validate f mode => (v.validate f mode).1
  | change f form => (v.change f form).1
  | submit form submitter => (v.submit form submitter).1
  | markClean form => v.markClean form
  | register name handler => v.register name handler
  | unregister name => v.unregister name
  | addObserver o => v.addObserver o
  | enableTrace enabled => v.enableTrace enabled
  | takeTrace => v.takeTrace.2

/-- The validator after an act. -/
def Act.perform (v : Validator φ) : Act φ → Validator φ
  | session f mode => (v.validate f mode).1
  | clear k => v.display k .neutral
  | say line => v.say line
  | markDirty form => v.markDirty form
  | markClean form => v.markClean form
  | register name handler => v.register name handler
  | unregister name => v.unregister name
  | addObserver o => v.addObserver o
  | enableTrace enabled => v.enableTrace enabled
  | takeTrace => v.takeTrace.2

/-! ## The acts of an operation -/

/-- What a change does once its session is over: it marks the form, unless the rules were broken. -/
def closeChange (form : Option γ) : Except Error Report → List (Act φ)
  | .ok _ =>
    match form with
    | some form => [.say (.dirty (Form.key form)), .markDirty (Form.key form)]
    | none => []
  | .error _ => []

/-- What a submission does once its sessions are over. -/
def closeSubmit (k : FormKey) : Except Error Decision → List (Act φ)
  | .ok .proceed => [.markClean k, .say (.proceed k)]
  | .ok (.cancel invalid) => [.say (.cancel k invalid.length)]
  | .error _ => [.say (.aborted k)]

/-- The acts that an operation is made of. A change has one session and a submission one for each
control, unless validation is turned off. -/
def Operation.acts (v : Validator φ) : Operation φ γ σ → List (Act φ)
  | validate f mode => [.session f mode]
  | change f form =>
    if form.any (v.optsOut ·) then []
    else .session f (some .change) :: closeChange form (v.validate f (some .change)).2
  | submit form submitter =>
    if OptedOut v.config form submitter then
      (Form.controls form).map (fun f => .clear (Field.key f)) ++
        [.say (.optedOut (Form.key form) (Form.controls form).length)]
    else
      (Form.controls form).map (fun f => .session f (some .submit)) ++
        closeSubmit (Form.key form) (v.submit form submitter).2
  | markClean form => [.markClean form]
  | register name handler => [.register name handler]
  | unregister name => [.unregister name]
  | addObserver o => [.addObserver o]
  | enableTrace enabled => [.enableTrace enabled]
  | takeTrace => [.takeTrace]

namespace Validator

/-- The validator after a run of operations. -/
def run (v : Validator φ) (ops : List (Operation φ γ σ)) : Validator φ :=
  ops.foldl Operation.perform v

/-- The validator after acts one after the other. -/
def performAll (v : Validator φ) (acts : List (Act φ)) : Validator φ := acts.foldl Act.perform v

/-- The acts of a run in order. -/
def acts (v : Validator φ) : List (Operation φ γ σ) → List (Act φ)
  | [] => []
  | op :: ops => op.acts v ++ (op.perform v).acts ops

/-! ## A run is what its acts do -/

@[simp] theorem performAll_cons (v : Validator φ) (a : Act φ) (acts : List (Act φ)) :
    v.performAll (a :: acts) = (a.perform v).performAll acts := rfl

theorem performAll_append (v : Validator φ) (s t : List (Act φ)) :
    v.performAll (s ++ t) = (v.performAll s).performAll t :=
  List.foldl_append

theorem performAll_sessions (v : Validator φ) (mode : Option Mode) (fs : List φ) :
    v.performAll (fs.map fun f => .session f mode) = (sessions mode v fs).1 := by
  induction fs generalizing v with
  | nil => rfl
  | cons f fs ih =>
    rw [List.map_cons, performAll_cons, ih]
    rfl

theorem performAll_clear (v : Validator φ) (fs : List φ) :
    v.performAll (fs.map fun f => .clear (Field.key f)) =
      fs.foldl (fun v f => v.display (Field.key f) .neutral) v := by
  rw [performAll, List.foldl_map]
  rfl

theorem change_eq_performAll (v : Validator φ) (f : φ) (form : Option γ) :
    (v.change f form).1 = v.performAll ((Operation.change f form : Operation φ γ σ).acts v) := by
  rw [Operation.acts]
  cases ho : form.any (v.optsOut ·) with
  | true =>
    rw [change_of_optsOut ho]
    rfl
  | false =>
    cases hr : (v.validate f (some .change)).2 with
    | error e =>
      rw [change_of_error ho hr]
      rfl
    | ok report =>
      rw [change_of_ok ho hr]
      cases form <;> rfl

theorem submit_eq_performAll (v : Validator φ) (form : γ) (submitter : Option σ) :
    (v.submit form submitter).1 = v.performAll ((Operation.submit form submitter).acts v) := by
  rw [Operation.acts]
  by_cases ho : OptedOut v.config form submitter
  · rw [if_pos ho, submit_of_optedOut v ho, performAll_append, performAll_clear]
    rfl
  · rw [if_neg ho, performAll_append, performAll_sessions]
    have hout := outcome_submit ho
    generalize v.submit form submitter = out at hout
    cases hout <;> rfl

theorem perform_eq_performAll (v : Validator φ) (op : Operation φ γ σ) :
    op.perform v = v.performAll (op.acts v) := by
  cases op with
  | change f form => exact change_eq_performAll v f form
  | submit form submitter => exact submit_eq_performAll v form submitter
  | _ => rfl

/-- A run does what its acts do one after the other. -/
theorem run_eq_performAll (v : Validator φ) (ops : List (Operation φ γ σ)) :
    v.run ops = v.performAll (v.acts ops) := by
  induction ops generalizing v with
  | nil => rfl
  | cons op ops ih =>
    rw [acts, performAll_append, ← perform_eq_performAll, ← ih]
    rfl

end Validator

/-! ## The fields that an operation reaches -/

/-- An act judges a field or clears it. -/
def Act.Touches (k : FieldKey) : Act φ → Prop
  | session f _ => Field.key f = k
  | clear k' => k' = k
  | _ => False

/-- An operation judges a field or clears it. A change does so unless the form of the field turns
validation off, and a submission does so with all controls of the form. -/
def Operation.Reaches (v : Validator φ) (k : FieldKey) : Operation φ γ σ → Prop
  | validate f _ => Field.key f = k
  | change f form => Field.key f = k ∧ form.any (v.optsOut ·) = false
  | submit form _ => k ∈ (Form.controls form).map Field.key
  | _ => False

/-- The fields that an operation may judge. -/
def Operation.fields : Operation φ γ σ → List φ
  | validate f _ => [f]
  | change f _ => [f]
  | submit form _ => Form.controls form
  | _ => []

theorem not_touches_closeChange (k : FieldKey) (form : Option γ) (result : Except Error Report) :
    ∀ a : Act φ, a ∈ closeChange form result → ¬ a.Touches k := by
  cases result with
  | error e => simp [closeChange]
  | ok report => cases form <;> simp [closeChange, Act.Touches]

theorem not_touches_closeSubmit (k : FieldKey) (form : FormKey) (result : Except Error Decision) :
    ∀ a : Act φ, a ∈ closeSubmit form result → ¬ a.Touches k := by
  cases result with
  | error e => simp [closeSubmit, Act.Touches]
  | ok decision => cases decision <;> simp [closeSubmit, Act.Touches]

/-- The fields that are touched by one act for each of them, and by none of the other acts. -/
theorem exists_touches_map_append {k : FieldKey} {act : φ → Act φ}
    (hact : ∀ f, (act f).Touches k ↔ Field.key f = k) {rest : List (Act φ)}
    (hrest : ∀ a ∈ rest, ¬ a.Touches k) (fs : List φ) :
    (∃ a ∈ fs.map act ++ rest, a.Touches k) ↔ k ∈ fs.map Field.key := by
  rw [List.mem_map]
  constructor
  · rintro ⟨a, ha, htouches⟩
    obtain ha | ha := List.mem_append.1 ha
    · obtain ⟨f, hf, rfl⟩ := List.mem_map.1 ha
      exact ⟨f, hf, (hact f).1 htouches⟩
    · exact absurd htouches (hrest a ha)
  · rintro ⟨f, hf, hk⟩
    exact ⟨act f, List.mem_append_left _ (List.mem_map_of_mem hf), (hact f).2 hk⟩

/-- An operation reaches the fields that its acts touch. -/
theorem reaches_iff_exists_touches (v : Validator φ) (op : Operation φ γ σ) (k : FieldKey) :
    op.Reaches v k ↔ ∃ a ∈ op.acts v, a.Touches k := by
  cases op with
  | validate f mode => simp [Operation.Reaches, Operation.acts, Act.Touches]
  | change f form =>
    have hclose : ∀ a : Act φ, _ → ¬ a.Touches k :=
      not_touches_closeChange k form (v.validate f (some .change)).2
    rw [Operation.Reaches, Operation.acts]
    by_cases ho : form.any (v.optsOut ·) = true
    · simp [ho]
    · rw [Bool.not_eq_true] at ho
      simp only [ho, and_true, Bool.false_eq_true, if_false, List.mem_cons, exists_eq_or_imp]
      constructor
      · exact .inl
      · rintro (hk | ⟨a, ha, htouches⟩)
        · exact hk
        · exact absurd htouches (hclose a ha)
  | submit form submitter =>
    have hclose : ∀ a : Act φ, _ → ¬ a.Touches k :=
      not_touches_closeSubmit k (Form.key form) (v.submit form submitter).2
    rw [Operation.Reaches, Operation.acts]
    split
    · refine (exists_touches_map_append (fun _ => Iff.rfl) ?_ _).symm
      simp [Act.Touches]
    · exact (exists_touches_map_append (fun _ => Iff.rfl) hclose _).symm
  | _ => simp [Operation.Reaches, Operation.acts, Act.Touches]

/-- An operation judges its fields only. -/
theorem mem_fields_of_session {v : Validator φ} {op : Operation φ γ σ} {f : φ} {mode : Option Mode}
    (h : .session f mode ∈ op.acts v) : f ∈ op.fields := by
  cases op with
  | validate f' mode' =>
    obtain ⟨rfl, -⟩ := Act.session.inj (List.mem_singleton.1 h)
    exact List.mem_singleton_self f
  | change f' form =>
    rw [Operation.acts] at h
    split at h
    · cases h
    · obtain h | h := List.mem_cons.1 h
      · obtain ⟨rfl, -⟩ := Act.session.inj h
        exact List.mem_singleton_self f
      · exact absurd rfl (not_touches_closeChange (Field.key f) form _ _ h)
  | submit form submitter =>
    rw [Operation.acts] at h
    split at h
    · simp at h
    · obtain h | h := List.mem_append.1 h
      · obtain ⟨f', hf, heq⟩ := List.mem_map.1 h
        obtain ⟨rfl, -⟩ := Act.session.inj heq
        exact hf
      · exact absurd rfl (not_touches_closeSubmit (Field.key f) (Form.key form) _ _ h)
  | _ => simp [Operation.acts] at h

namespace Validator

/-- An act that does not touch a field leaves its display state. -/
theorem displayState_act_of_not_touches {a : Act φ} {k : FieldKey} (h : ¬ a.Touches k)
    (v : Validator φ) : (a.perform v).displayState k = v.displayState k := by
  cases a with
  | session f mode => exact displayState_validate_ne v f mode (Ne.symm h)
  | clear k' => exact (displayState_display k' k .neutral v).trans (if_neg (Ne.symm h))
  | say line => exact (quiet_say line v).displayState k
  | _ => rfl

theorem displayState_performAll_of_not_touches {acts : List (Act φ)} {k : FieldKey}
    (h : ∀ a ∈ acts, ¬ a.Touches k) (v : Validator φ) :
    (v.performAll acts).displayState k = v.displayState k := by
  induction acts generalizing v with
  | nil => rfl
  | cons a acts ih =>
    rw [performAll_cons, ih (fun b hb => h b (List.mem_cons_of_mem a hb))]
    exact displayState_act_of_not_touches (h a List.mem_cons_self) v

/-- A session over a disabled field makes it neutral. -/
theorem displayState_validate_of_isDisabled (v : Validator φ) {f : φ}
    (h : Field.isDisabled f = true) (mode : Option Mode) :
    (v.validate f mode).1.displayState (Field.key f) = .neutral := by
  rw [validate, if_pos h]
  exact ((quiet_say _ _).displayState _).trans ((displayState_display ..).trans (if_pos rfl))

/-- Acts that touch a field make it neutral if it is disabled whenever it is judged. -/
theorem displayState_performAll_of_isDisabled {acts : List (Act φ)} {k : FieldKey}
    (hd : ∀ f mode, .session f mode ∈ acts → Field.key f = k → Field.isDisabled f = true)
    (h : ∃ a ∈ acts, a.Touches k) (v : Validator φ) :
    (v.performAll acts).displayState k = .neutral := by
  induction acts generalizing v with
  | nil =>
    obtain ⟨a, ha, -⟩ := h
    cases ha
  | cons a acts ih =>
    rw [performAll_cons]
    have hd' : ∀ f mode, .session f mode ∈ acts → Field.key f = k → Field.isDisabled f = true :=
      fun f mode hf => hd f mode (List.mem_cons_of_mem a hf)
    by_cases hlater : ∃ b ∈ acts, b.Touches k
    · exact ih hd' hlater (a.perform v)
    · simp only [not_exists, not_and] at hlater
      rw [displayState_performAll_of_not_touches hlater]
      -- So it is the first act that touches the field.
      obtain ⟨b, hb, htouches⟩ := h
      obtain rfl | hb := List.mem_cons.1 hb
      · cases b with
        | session f mode =>
          rw [← show Field.key f = k from htouches]
          exact displayState_validate_of_isDisabled v (hd f mode List.mem_cons_self htouches) mode
        | clear k' => exact (displayState_display ..).trans (if_pos htouches.symm)
        | _ => exact htouches.elim
      · exact absurd htouches (hlater b hb)

/-- An operation that does not reach a field leaves its display state. -/
theorem displayState_operation_of_not_reaches (v : Validator φ) {op : Operation φ γ σ}
    {k : FieldKey} (h : ¬ op.Reaches v k) : (op.perform v).displayState k = v.displayState k := by
  rw [perform_eq_performAll]
  apply displayState_performAll_of_not_touches
  intro a ha htouches
  exact h ((reaches_iff_exists_touches v op k).2 ⟨a, ha, htouches⟩)

/-- An operation that reaches a disabled field makes it neutral. -/
theorem displayState_operation_of_isDisabled (v : Validator φ) {op : Operation φ γ σ}
    {k : FieldKey} (hd : ∀ f ∈ op.fields, Field.key f = k → Field.isDisabled f = true)
    (h : op.Reaches v k) : (op.perform v).displayState k = .neutral := by
  rw [perform_eq_performAll]
  apply displayState_performAll_of_isDisabled
  · intro f mode hf
    exact hd f (mem_fields_of_session hf)
  · exact (reaches_iff_exists_touches v op k).1 h

end Validator

end FormRules
