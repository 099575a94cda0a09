import FormRules.Proofs.History

/-!
# When observers are told of failures

Observers are told of a failure when a field turns invalid, and not again while it stays so. That is
a matter of the display state which earlier acts left, so it is stated of every act of a run.

* `alarms`: the notices of failures of one field, each with the observer that got it.
* `Act.Alerts`: the act is a session that turns a field invalid.
* `alarms_of_alerts`, `alarms_of_not_alerts`: such a session tells every observer once, and nothing
  else tells any.
* `Act.Relieves`: the act makes an invalid field valid or neutral.
* `exists_relieves`: between two states, invalid and not, lies an act that relieves.
* `run_notices`: what this means for a run.
-/

namespace FormRules

/-- The field of which a notice tells that it failed. -/
def Notice.failedField? : Notice → Option FieldKey
  | .valid _ => none
  | .invalid k _ _ => some k

/-- The notices of failures of a field, in the order in which observers got them. -/
def alarms (k : FieldKey) (journal : List Effect) : List (Nat × Notice) :=
  (calls journal).filter fun call => call.2.failedField? = some k

variable {φ γ σ : Type} [Field φ]

/-! ## Specification -/

/-- The act is a session of the field `k` that turns it invalid. -/
def Act.Alerts (v : Validator φ) (k : FieldKey) : Act φ → Prop
  | .session f mode => Field.key f = k ∧ v.displayState k ≠ .invalid ∧
      (v.validate f mode).1.displayState k = .invalid
  | _ => False

/-- The act tells an observer of a failure of the field `k`. -/
def Act.Tells (v : Validator φ) (k : FieldKey) (observer : Nat) (a : Act φ) : Prop :=
  ∃ told, alarms k (a.perform v).journal = alarms k v.journal ++ told ∧
    ∃ notice, (observer, notice) ∈ told

/-- The act makes the field `k` leave the invalid state: a session that passes or finds it disabled,
or a clearing. -/
def Act.Relieves (v : Validator φ) (k : FieldKey) (a : Act φ) : Prop :=
  v.displayState k = .invalid ∧ (a.perform v).displayState k ≠ .invalid ∧
    ((∃ f mode, a = .session f mode ∧ Field.key f = k ∧
        ((v.validate f mode).2 = .ok .passed ∨
          (v.validate f mode).2 = .ok (.exempt .disabled))) ∨
      a = .clear k)

/-! ## One act -/

theorem alarms_eq_of_calls {k : FieldKey} {s t : List Effect} (h : calls s = calls t) :
    alarms k s = alarms k t := by
  rw [alarms, alarms, h]

/-- Of the calls of all observers with one notice, either all or none are alarms. -/
theorem filter_callsOf (k : FieldKey) (count : Nat) (notice : Notice) :
    ((callsOf count notice).filter fun call => call.2.failedField? = some k) =
      if notice.failedField? = some k then callsOf count notice else [] := by
  split
  · rename_i h
    refine List.filter_eq_self.2 fun call hc => ?_
    obtain ⟨i, -, rfl⟩ := List.mem_map.1 hc
    simpa using h
  · rename_i h
    refine List.filter_eq_nil_iff.2 fun call hc => ?_
    obtain ⟨i, -, rfl⟩ := List.mem_map.1 hc
    simpa using h

namespace Validator

omit [Field φ] in
theorem Settled.alarms {v v' : Validator φ} {k k' : FieldKey} {state : DisplayState}
    {notice : Option Notice} (h : Settled v k state notice v') :
    alarms k' v'.journal = FormRules.alarms k' v.journal ++
      notice.toList.flatMap fun n =>
        if n.failedField? = some k' then callsOf v.observers.length n else [] := by
  rw [FormRules.alarms, h.calls, List.filter_append]
  cases notice with
  | none => rfl
  | some n => simp [FormRules.alarms, filter_callsOf]

/-- A session that turns its field invalid failed, and tells every observer of that failure once, in
their order. -/
theorem alarms_of_alerts {v : Validator φ} {f : φ} {mode : Option Mode}
    (hb : v.displayState (Field.key f) ≠ .invalid)
    (ha : (v.validate f mode).1.displayState (Field.key f) = .invalid) :
    ∃ failure, (v.validate f mode).2 = .ok (.failed failure true) ∧
      alarms (Field.key f) (v.validate f mode).1.journal =
        alarms (Field.key f) v.journal ++ callsOf v.observers.length
          (.invalid (Field.key f) failure (v.config.failureText f)) := by
  obtain ⟨result, state, notice, h⟩ :=
    exists_session v.config v.registry f mode (v.displayState (Field.key f))
  obtain ⟨hresult, hsettled⟩ := session_validate h
  rw [hsettled.displayState, if_pos rfl] at ha
  rw [hresult, hsettled.alarms]
  cases h with
  | disabled => cases ha
  | noRules => exact absurd ha hb
  | passed => cases ha
  | broken => exact absurd ha hb
  | @failed text i rule reply =>
    refine ⟨⟨i, rule.operator, rule.args⟩, by simp [hb], ?_⟩
    simp [hb, Notice.failedField?]

/-- Any other session tells no observer of a failure. -/
theorem alarms_of_not_alerts {v : Validator φ} {f : φ} {mode : Option Mode} {k : FieldKey}
    (hn : ¬ (Act.session f mode).Alerts v k) :
    alarms k (v.validate f mode).1.journal = alarms k v.journal := by
  obtain ⟨result, state, notice, h⟩ :=
    exists_session v.config v.registry f mode (v.displayState (Field.key f))
  obtain ⟨-, hsettled⟩ := session_validate h
  rw [hsettled.alarms]
  cases h with
  | disabled => exact List.append_nil _
  | noRules => exact List.append_nil _
  | passed => simp [Notice.failedField?]
  | broken => exact List.append_nil _
  | failed =>
    by_cases hb : v.displayState (Field.key f) = .invalid
    · simp [hb]
    · have hk : Field.key f ≠ k := by
        rintro rfl
        exact hn ⟨rfl, hb, by rw [hsettled.displayState, if_pos rfl]⟩
      simp [hb, Notice.failedField?, hk]

/-- The report of a failed session says whether the session turned its field invalid. -/
theorem notified_iff_alerts {v : Validator φ} {f : φ} {mode : Option Mode} {failure : Failure}
    {notified : Bool} (hr : (v.validate f mode).2 = .ok (.failed failure notified)) :
    notified = true ↔ (Act.session f mode).Alerts v (Field.key f) := by
  obtain ⟨result, state, notice, h⟩ :=
    exists_session v.config v.registry f mode (v.displayState (Field.key f))
  obtain ⟨hresult, hsettled⟩ := session_validate h
  rw [hresult] at hr
  rw [Act.Alerts, hsettled.displayState, if_pos rfl]
  cases h <;> cases hr
  simp

/-- Acts that are no such session tell no observer of a failure. -/
theorem alarms_perform_of_not_alerts {v : Validator φ} {a : Act φ} {k : FieldKey}
    (hn : ¬ a.Alerts v k) : alarms k (a.perform v).journal = alarms k v.journal := by
  cases a with
  | session f mode => exact alarms_of_not_alerts hn
  | say line => exact alarms_eq_of_calls (quiet_say line v).calls
  | _ => rfl

theorem alarms_perform_of_alerts {v : Validator φ} {a : Act φ} {k : FieldKey}
    (ha : a.Alerts v k) :
    ∃ failure message, alarms k (a.perform v).journal =
      alarms k v.journal ++ callsOf v.observers.length (.invalid k failure message) := by
  cases a with
  | session f mode =>
    obtain ⟨rfl, hb, ha⟩ := ha
    obtain ⟨failure, -, h⟩ := alarms_of_alerts hb ha
    exact ⟨failure, _, h⟩
  | _ => cases ha

/-! ## Turning invalid and leaving it -/

/-- Only a session that turns the field invalid tells of its failures. -/
theorem alerts_of_tells {v : Validator φ} {a : Act φ} {k : FieldKey} {observer : Nat}
    (h : a.Tells v k observer) : a.Alerts v k := by
  refine Classical.byContradiction fun hn => ?_
  obtain ⟨told, htold, notice, hmem⟩ := h
  rw [alarms_perform_of_not_alerts hn, List.self_eq_append_right] at htold
  rw [htold] at hmem
  cases hmem

theorem displayState_of_alerts {v : Validator φ} {a : Act φ} {k : FieldKey} (h : a.Alerts v k) :
    v.displayState k ≠ .invalid ∧ (a.perform v).displayState k = .invalid := by
  cases a with
  | session f mode => exact h.2
  | _ => cases h

/-- An invalid field is left so by every act but a session that passes or finds it disabled, and a
clearing. -/
theorem relieves_of_displayState {v : Validator φ} {a : Act φ} {k : FieldKey}
    (hb : v.displayState k = .invalid) (ha : (a.perform v).displayState k ≠ .invalid) :
    a.Relieves v k := by
  refine ⟨hb, ha, ?_⟩
  cases a with
  | session f mode =>
    obtain ⟨result, state, notice, h⟩ :=
      exists_session v.config v.registry f mode (v.displayState (Field.key f))
    obtain ⟨hresult, hsettled⟩ := session_validate h
    rw [Act.perform, hsettled.displayState] at ha
    by_cases hk : k = Field.key f
    · subst hk
      rw [if_pos rfl] at ha
      refine .inl ⟨f, mode, rfl, rfl, ?_⟩
      rw [hresult]
      cases h with
      | disabled => exact .inr rfl
      | noRules => exact absurd hb ha
      | passed => exact .inl rfl
      | broken => exact absurd hb ha
      | failed => exact absurd rfl ha
    · rw [if_neg hk] at ha
      exact absurd hb ha
  | clear k' =>
    rw [Act.perform, displayState_display] at ha
    by_cases hk : k = k'
    · exact .inr (hk ▸ rfl)
    · rw [if_neg hk] at ha
      exact absurd hb ha
  | _ => exact absurd hb ha

/-- A field that was invalid and is not any more was relieved in between. -/
theorem exists_relieves {v : Validator φ} {acts : List (Act φ)} {k : FieldKey}
    (hb : v.displayState k = .invalid) (ha : (v.performAll acts).displayState k ≠ .invalid) :
    ∃ s a t, acts = s ++ a :: t ∧ a.Relieves (v.performAll s) k := by
  induction acts generalizing v with
  | nil => exact absurd hb ha
  | cons a acts ih =>
    by_cases hs : (a.perform v).displayState k = .invalid
    · obtain ⟨s, b, t, rfl, h⟩ := ih hs ha
      exact ⟨a :: s, b, t, rfl, h⟩
    · exact ⟨[], a, acts, rfl, relieves_of_displayState hb hs⟩

/-- **Notices of failures over a run.** The run does what its acts do. Of these, exactly the
sessions that turn a field invalid tell of its failures, every observer once and in their order, and
exactly those report that they told. Between two times that one observer is told of the failures of
one field, something relieves the field. -/
theorem run_notices [Form γ φ] [Attributed σ] (v : Validator φ) (ops : List (Operation φ γ σ))
    (k : FieldKey) :
    v.run ops = v.performAll (v.acts ops) ∧
    (∀ s a t, v.acts ops = s ++ a :: t →
      (a.Alerts (v.performAll s) k → ∃ failure message,
        alarms k (a.perform (v.performAll s)).journal = alarms k (v.performAll s).journal ++
          callsOf (v.performAll s).observers.length (.invalid k failure message)) ∧
      (¬ a.Alerts (v.performAll s) k →
        alarms k (a.perform (v.performAll s)).journal = alarms k (v.performAll s).journal) ∧
      (∀ f mode failure notified, a = .session f mode → Field.key f = k →
        ((v.performAll s).validate f mode).2 = .ok (.failed failure notified) →
        (notified = true ↔ a.Alerts (v.performAll s) k))) ∧
    (∀ s a m b t, v.acts ops = s ++ a :: (m ++ b :: t) → ∀ observer,
      a.Tells (v.performAll s) k observer →
      b.Tells (v.performAll (s ++ a :: m)) k observer →
      ∃ m₁ c m₂, m = m₁ ++ c :: m₂ ∧ c.Relieves (v.performAll (s ++ a :: m₁)) k) := by
  refine ⟨run_eq_performAll v ops, fun s a t _ => ⟨alarms_perform_of_alerts,
    alarms_perform_of_not_alerts, ?_⟩, fun s a m b t _ observer ha hb => ?_⟩
  · rintro f mode failure notified rfl rfl hr
    exact notified_iff_alerts hr
  · have hstart := (displayState_of_alerts (alerts_of_tells ha)).2
    have hend := (displayState_of_alerts (alerts_of_tells hb)).1
    rw [performAll_append, performAll_cons] at hend
    obtain ⟨m₁, c, m₂, hm, hc⟩ := exists_relieves hstart hend
    rw [← performAll_cons, ← performAll_append] at hc
    exact ⟨m₁, c, m₂, hm, hc⟩

end Validator

end FormRules
