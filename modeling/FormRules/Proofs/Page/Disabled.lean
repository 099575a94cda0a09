import FormRules.Proofs.Document.Disabling
import FormRules.Proofs.Page.Actions
import FormRules.Proofs.Runs

/-!
# The display states of disabled controls

A session over a disabled control makes it neutral, but nothing does so at the moment at which it
is disabled: it then displays what it was judged before, until a pass reaches it.

* `Outdated`: a disabled control still displays a judgement.
* `Action.Outdates`, `Action.Spares`: how this comes about, and how it stays.
* `outdated_perform_iff`: what one action does.
* `run_outdated_iff`: what a run does: no other disabled control displays a judgement.
-/

namespace FormRules.Page

/-- A control is disabled and is not neutral. -/
def Outdated (p : Page) (n : Nat) : Prop :=
  p.document.isDisabled n = true ∧ p.validator.displayState (Document.fieldKey n) ≠ .neutral

/-- An action has the validator judge a control or clear it. Inputs are left out, as only enabled
controls react to them. -/
def Action.Reaches (p : Page) (n : Nat) (a : Action) : Prop :=
  ∃ op, a.pass? p = some op ∧ op.Reaches p.validator (Document.fieldKey n)

/-- An action disables a control that displays a judgement. -/
def Action.Outdates (p : Page) (n : Nat) (a : Action) : Prop :=
  p.document.isDisabled n = false ∧ (a.perform p).document.isDisabled n = true ∧
    p.validator.displayState (Document.fieldKey n) ≠ .neutral

/-- An action leaves a control disabled and does not reach it. -/
def Action.Spares (p : Page) (n : Nat) (a : Action) : Prop :=
  (a.perform p).document.isDisabled n = true ∧ ¬ a.Reaches p n

variable {p : Page} {n : Nat} {a : Action}

/-! ## One action -/

/-- The pass over an enabled control does not reach disabled ones. -/
theorem not_reaches_changePass {c : Control} (henabled : p.document.isDisabled c.node = false)
    (h : p.document.isDisabled n = true) :
    ¬ (p.changePass c).Reaches p.validator (Document.fieldKey n) := by
  rintro ⟨hkey, -⟩
  have hn : c.node = n := Document.keyText_injective (congrArg FieldKey.text hkey)
  rw [hn, h] at henabled
  cases henabled

/-- The change of an enabled control leaves the display states of disabled ones. -/
theorem displayState_changed {m : Nat} (henabled : p.document.isDisabled m = false)
    (h : p.document.isDisabled n = true) :
    (p.changed m).1.validator.displayState (Document.fieldKey n) =
      p.validator.displayState (Document.fieldKey n) := by
  cases hc : p.document.control? m with
  | none => rw [changed_of_not_control? hc]
  | some c =>
    rw [changed_of_control? hc]
    apply Validator.displayState_operation_of_not_reaches
    exact not_reaches_changePass (Document.node_of_control? hc ▸ henabled) h

/-- A pass makes the disabled controls that it reaches neutral. -/
theorem displayState_pass {op : Pass} (hpass : a.pass? p = some op)
    (h : p.document.isDisabled n = true) (hreaches : op.Reaches p.validator (Document.fieldKey n)) :
    (op.perform p.validator).displayState (Document.fieldKey n) = .neutral := by
  apply Validator.displayState_operation_of_isDisabled _ _ hreaches
  intro c hc hkey
  have hn : c.node = n := Document.keyText_injective (congrArg FieldKey.text hkey)
  show c.document.isDisabled c.node = true
  rw [document_of_mem_fields hpass hc, hn, h]

theorem not_reaches_of_pass? (hpass : a.pass? p = none) : ¬ a.Reaches p n := by
  rintro ⟨op, hop, -⟩
  rw [hpass] at hop
  cases hop

/-- A control that is disabled after an action displays a judgement if it did so before, unless the
action reaches it. -/
theorem displayState_perform_iff (h : (a.perform p).document.isDisabled n = true) :
    (a.perform p).validator.displayState (Document.fieldKey n) ≠ .neutral ↔
      p.validator.displayState (Document.fieldKey n) ≠ .neutral ∧ ¬ a.Reaches p n := by
  have hstep : a.Step p (a.perform p) := a.step p
  generalize a.perform p = p' at h hstep
  cases hstep with
  | refused hpass => simp [not_reaches_of_pass? hpass]
  | edit hpass hedit => simp [not_reaches_of_pass? hpass]
  | @input c change hpass hc henabled hassigns =>
    rw [document_changed] at h
    -- The input leaves its control enabled, so the pass that follows is not over this one.
    have hbefore : p.document.isDisabled c.node = false := by
      rw [← Document.document_of_control? hc]
      exact henabled
    have hother : (change.perform p.document).isDisabled c.node = false := by
      rw [Bool.eq_false_iff] at hbefore ⊢
      exact fun hdisabled => hbefore (Document.isDisabled_of_perform hassigns hdisabled)
    have hkept := displayState_changed (p := { p with document := change.perform p.document })
      hother h
    rw [hkept]
    simp [not_reaches_of_pass? hpass]
  | @pass op hpass =>
    have hreaches : a.Reaches p n ↔ op.Reaches p.validator (Document.fieldKey n) := by
      simp [Action.Reaches, hpass]
    rw [hreaches]
    by_cases hop : op.Reaches p.validator (Document.fieldKey n)
    · simp [displayState_pass hpass h hop, hop]
    · simp [Validator.displayState_operation_of_not_reaches p.validator hop, hop]

/-- Only setting the attribute `disabled` of what governs a control disables it. -/
theorem exists_setAttribute_of_disables (hbefore : p.document.isDisabled n = false)
    (h : (a.perform p).document.isDisabled n = true) :
    ∃ selector name value m, a = .setAttribute selector name value ∧ lowerText name = "disabled" ∧
      p.selectOne selector = .ok m ∧ p.document.Governs m n := by
  have hnot : p.document.isDisabled n ≠ true := Bool.eq_false_iff.1 hbefore
  have hstep : a.Step p (a.perform p) := a.step p
  generalize a.perform p = p' at h hstep
  cases hstep with
  | refused hpass => exact absurd h hnot
  | pass hpass => exact absurd h hnot
  | input hpass hc henabled hassigns =>
    rw [document_changed] at h
    exact absurd (Document.isDisabled_of_perform hassigns h) hnot
  | edit hpass hedit =>
    obtain ⟨m, name, value, rfl, hname, hgoverns⟩ :=
      Document.exists_setAttribute_of_isDisabled h hbefore
    cases a with
    | setAttribute selector name' value' =>
      rw [Action.edit?, Option.map_eq_some_iff] at hedit
      obtain ⟨m', hm, hchange⟩ := hedit
      cases hchange
      exact ⟨selector, name, value, m, rfl, hname, ok_of_toOption hm, hgoverns⟩
    | removeAttribute selector name' =>
      rw [Action.edit?, Option.map_eq_some_iff] at hedit
      obtain ⟨m', -, hchange⟩ := hedit
      cases hchange
    | _ => cases hedit

/-- After one action a disabled control displays a judgement if the action disabled it with one, or
if it did so before and the action spares it. -/
theorem outdated_perform_iff (p : Page) (a : Action) (n : Nat) :
    (a.perform p).Outdated n ↔ a.Outdates p n ∨ p.Outdated n ∧ a.Spares p n := by
  rw [Outdated, Outdated, Action.Outdates, Action.Spares]
  by_cases h : (a.perform p).document.isDisabled n = true
  · rw [displayState_perform_iff h]
    cases hbefore : p.document.isDisabled n with
    | true => simp [h]
    | false =>
      -- What disables the control is no pass.
      obtain ⟨selector, name, value, m, rfl, -⟩ := exists_setAttribute_of_disables hbefore h
      have hreaches : ¬ Action.Reaches p n (.setAttribute selector name value) :=
        not_reaches_of_pass? rfl
      simp [h, hreaches]
  · simp [h]

/-! ## Runs -/

/-- A run of actions spares a control. -/
def Spared (p : Page) (n : Nat) (actions : List Action) : Prop :=
  ∀ s a t, actions = s ++ a :: t → a.Spares (p.run s) n

theorem spared_iff_always (p : Page) (n : Nat) (actions : List Action) :
    p.Spared n actions ↔ Always Action.perform (fun q a => a.Spares q n) p actions :=
  Iff.rfl

@[simp] theorem spared_nil (p : Page) (n : Nat) : p.Spared n [] :=
  (spared_iff_always p n []).2 always_nil

theorem spared_cons (p : Page) (n : Nat) (a : Action) (actions : List Action) :
    p.Spared n (a :: actions) ↔ a.Spares p n ∧ (a.perform p).Spared n actions := by
  simp only [spared_iff_always, always_cons]

/-- An action of a run disables a control that displays a judgement, and the rest of the run spares
the control. -/
def OutdatedBy (p : Page) (n : Nat) (actions : List Action) : Prop :=
  ∃ s a t, actions = s ++ a :: t ∧ a.Outdates (p.run s) n ∧ (p.run (s ++ [a])).Spared n t

theorem outdatedBy_iff_since (p : Page) (n : Nat) (actions : List Action) :
    p.OutdatedBy n actions ↔
      Since Action.perform (fun q a => a.Outdates q n) (fun q a => a.Spares q n) p actions :=
  Iff.rfl

theorem not_outdatedBy_nil (p : Page) (n : Nat) : ¬ p.OutdatedBy n [] :=
  (outdatedBy_iff_since p n []).not.2 not_since_nil

theorem outdatedBy_cons (p : Page) (n : Nat) (a : Action) (actions : List Action) :
    p.OutdatedBy n (a :: actions) ↔
      a.Outdates p n ∧ (a.perform p).Spared n actions ∨ (a.perform p).OutdatedBy n actions := by
  simp only [outdatedBy_iff_since, spared_iff_always, since_cons]

/-- **Disabled controls.** After a run of actions a disabled control displays a judgement exactly
if it did so when an action of the run disabled it, or at the start, and every action since then
left it disabled and did not reach it. An action that disables it sets the attribute `disabled` of
the control or of a fieldset above it. -/
theorem run_outdated_iff (p : Page) (actions : List Action) (n : Nat) :
    ((p.run actions).Outdated n ↔
      p.OutdatedBy n actions ∨ p.Outdated n ∧ p.Spared n actions) ∧
    ∀ q a, Action.Outdates q n a →
      ∃ selector name value m, a = .setAttribute selector name value ∧
        lowerText name = "disabled" ∧ q.selectOne selector = .ok m ∧ q.document.Governs m n := by
  constructor
  · induction actions generalizing p with
    | nil => simp [not_outdatedBy_nil]
    | cons a actions ih =>
      rw [run_cons, ih, outdated_perform_iff, outdatedBy_cons, spared_cons]
      tauto
  · rintro q a ⟨hbefore, hafter, -⟩
    exact exists_setAttribute_of_disables hbefore hafter

/-- A form with one control. -/
def lonelyControl : String := "<form id=f><input id=x data-validate=required></form>"

/-- The control is judged, and then it is disabled. -/
def lateDisabling : List Action := [.change "#x", .setAttribute "#x" "disabled" ""]

/-- So not every disabled control of a page is neutral. -/
theorem not_forall_disabled_neutral :
    ¬ ∀ html validator p, ofHtml html validator = .ok p → ∀ actions n c,
      (p.run actions).document.control? n = some c → Field.isDisabled c = true →
        (p.run actions).validator.displayState (Field.key c) = .neutral := by
  intro h
  have hread : ((ofHtml lonelyControl (Validator.ofConfig {})).toOption.map fun p =>
      ((p.run lateDisabling).document.control? 2).map fun c =>
        (Field.isDisabled c, (p.run lateDisabling).validator.displayState (Field.key c))) =
      some (some (true, .invalid)) := by
    decide +kernel
  obtain ⟨p, hp, hcontrol⟩ := Option.map_eq_some_iff.1 hread
  obtain ⟨c, hc, hstate⟩ := Option.map_eq_some_iff.1 hcontrol
  obtain ⟨hdisabled, hinvalid⟩ := Prod.mk.inj hstate
  have hneutral := h _ _ p (ok_of_toOption hp) lateDisabling 2 c hc hdisabled
  have hsame : DisplayState.invalid = .neutral := hinvalid.symm.trans hneutral
  cases hsame

end FormRules.Page
