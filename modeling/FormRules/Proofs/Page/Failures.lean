import FormRules.Proofs.Document.Identifiers
import FormRules.Proofs.Operator.Builtin
import FormRules.Proofs.Page.Actions

/-!
# Actions that fail

An action fails in one of two ways. It asks for what is not there, and then nothing happens at all.
Or a rule is broken, and then the document has been edited, but what is displayed stays as it was.
The faults that a document finds in a change do not come up, since a selector names an element.

* `isBrokenRule_of_validate`: built-in operators find nothing wrong but rules.
* `Operation.error?`, `Action.error?`: the errors of operations on a validator and of actions.
* `Change.Fits`: the changes that a document takes.
* `Action.fails`: all ways in which an action can fail.
* `document_perform_withValidator`: the document after an action is the same for all validators.
* `perform_of_error?`: what a failed action leaves.
-/

namespace FormRules

/-- The error that a result is, if it is one. -/
def errorOf? {α : Type} : Except Error α → Option Error
  | .error e => some e
  | .ok _ => none

theorem errorOf?_eq_some {α : Type} {result : Except Error α} {e : Error} :
    errorOf? result = some e ↔ result = .error e := by
  cases result <;> simp [errorOf?]

theorem Error.not_isRefusal_of_isBrokenRule {e : Error} (h : e.IsBrokenRule) : ¬ e.IsRefusal := by
  cases e <;> first | exact id | exact h.elim

/-! ## Errors of sessions -/

section

variable {φ γ σ : Type} [Field φ]

namespace Validator

variable {v : Validator φ} {f : φ} {mode : Option Mode} {e : Error}

/-- The error of a session is that of a handler. -/
theorem exists_reply_of_error (he : (v.validate f mode).2 = .error e) :
    ∃ rule reply, v.registry.reply? f mode rule = some reply ∧ reply.error? = some e := by
  obtain ⟨result, state, notice, h⟩ :=
    exists_session v.config v.registry f mode (v.displayState (Field.key f))
  rw [(session_validate h).1] at he
  cases h with
  | broken henabled counts decides error =>
    cases he
    exact ⟨_, _, decides.reply_eq, error⟩
  | _ => cases he

theorem isBrokenRule_of_validate (hr : v.registry.OnlyBuiltins)
    (he : (v.validate f mode).2 = .error e) : e.IsBrokenRule := by
  obtain ⟨rule, reply, hreply, herror⟩ := exists_reply_of_error he
  rw [Registry.reply?, Option.map_eq_some_iff] at hreply
  obtain ⟨handler, hhandler, rfl⟩ := hreply
  obtain ⟨format, engine, hb⟩ := hr _ _ hhandler
  exact Operator.isBrokenRule_of_isBuiltin hb herror

/-- A session with an error leaves all display states. -/
theorem displayState_validate_of_error (he : (v.validate f mode).2 = .error e) (k : FieldKey) :
    (v.validate f mode).1.displayState k = v.displayState k := by
  by_cases hk : k = Field.key f
  · rw [hk, displayState_validate, he]
    rfl
  · exact displayState_validate_ne v f mode hk

theorem isBrokenRule_of_sessions {fs : List φ} (hr : v.registry.OnlyBuiltins)
    (he : .error e ∈ (sessions mode v fs).2) : e.IsBrokenRule := by
  induction fs generalizing v with
  | nil => cases he
  | cons f fs ih =>
    obtain he | he := List.mem_cons.1 he
    · exact isBrokenRule_of_validate hr he.symm
    · have hrest : .error e ∈ (sessions mode (v.validate f mode).1 fs).2 := he
      have hregistry : (v.validate f mode).1.registry.OnlyBuiltins := by
        rwa [(steady_validate v f mode).registry]
      exact ih hregistry hrest

end Validator

/-! ## Errors of operations -/

variable [Form γ φ] [Attributed σ]

namespace Validator

variable {v : Validator φ} {f : φ} {form : γ} {e : Error}

theorem validate_eq_error_of_change {owner : Option γ} (he : (v.change f owner).2 = .error e) :
    (v.validate f (some .change)).2 = .error e ∧
      (v.change f owner).1 = (v.validate f (some .change)).1 := by
  cases hout : owner.any (v.optsOut ·) with
  | true =>
    rw [change_of_optsOut hout] at he
    cases he
  | false =>
    cases hresult : (v.validate f (some .change)).2 with
    | error e' =>
      rw [change_of_error hout hresult] at he ⊢
      cases he
      exact ⟨rfl, rfl⟩
    | ok report =>
      rw [change_of_ok hout hresult] at he
      cases he

theorem mem_sessions_of_submit {submitter : Option σ}
    (he : (v.submit form submitter).2 = .error e) :
    .error e ∈ (sessions (some .submit) v (Form.controls form)).2 := by
  by_cases hout : OptedOut v.config form submitter
  · rw [submit_of_optedOut v hout] at he
    cases he
  · have h := outcome_submit hout
    generalize v.submit form submitter = out at h he
    cases h with
    | @aborted e' rest errors =>
      cases he
      have hmem : e ∈ errorsOf (sessions (some .submit) v (Form.controls form)).2 := by
        rw [errors]
        exact List.mem_cons_self
      obtain ⟨result, hresult, he⟩ := List.mem_filterMap.1 hmem
      cases result with
      | error e' =>
        cases he
        exact hresult
      | ok report => cases he
    | _ => cases he

end Validator

/-- The error that an operation comes to, if it comes to one. -/
def Operation.error? (v : Validator φ) : Operation φ γ σ → Option Error
  | validate f mode => errorOf? (v.validate f mode).2
  | change f form => errorOf? (v.change f form).2
  | submit form submitter => errorOf? (v.submit form submitter).2
  | _ => none

/-- An operation judges one field by itself. -/
def Operation.JudgesOne : Operation φ γ σ → Prop
  | validate _ _ => True
  | change _ _ => True
  | _ => False

section

variable {v : Validator φ} {op : Operation φ γ σ} {e : Error}

theorem Operation.isBrokenRule_of_error? (hr : v.registry.OnlyBuiltins)
    (he : op.error? v = some e) : e.IsBrokenRule := by
  cases op with
  | validate f mode => exact Validator.isBrokenRule_of_validate hr (errorOf?_eq_some.1 he)
  | change f form =>
    have hvalidate := (Validator.validate_eq_error_of_change (errorOf?_eq_some.1 he)).1
    exact Validator.isBrokenRule_of_validate hr hvalidate
  | submit form submitter =>
    have hmem := Validator.mem_sessions_of_submit (errorOf?_eq_some.1 he)
    exact Validator.isBrokenRule_of_sessions hr hmem
  | _ => cases he

/-- An operation over one field that comes to an error leaves all display states and all marks. -/
theorem Operation.unmoved_of_error? (hone : op.JudgesOne) (he : op.error? v = some e) :
    (∀ k, (op.perform v).displayState k = v.displayState k) ∧
      ∀ k, (op.perform v).isDirty k = v.isDirty k := by
  have hsession : ∃ f mode, (v.validate f mode).2 = .error e ∧
      op.perform v = (v.validate f mode).1 := by
    cases op with
    | validate f mode => exact ⟨f, mode, errorOf?_eq_some.1 he, rfl⟩
    | change f form =>
      exact ⟨f, some .change, Validator.validate_eq_error_of_change (errorOf?_eq_some.1 he)⟩
    | _ => exact hone.elim
  obtain ⟨f, mode, hvalidate, hperform⟩ := hsession
  rw [hperform]
  refine ⟨Validator.displayState_validate_of_error hvalidate, fun k => ?_⟩
  rw [Validator.isDirty, (Validator.steady_validate v f mode).dirty, Validator.isDirty]

end

end

/-! ## Changes that a document takes -/

/-- What is to be changed is an element, and a selection where an option is to be selected. -/
def Change.Fits (d : Document) : Change → Prop
  | setValue n _ => d.isElement n = true
  | setChecked n _ => d.isElement n = true
  | selectOption n _ => d.isTag "select" n = true
  | setAttribute n _ _ => d.isElement n = true
  | removeAttribute n _ => d.isElement n = true

theorem Change.Fits.apply_eq {d : Document} {change : Change} (h : change.Fits d) :
    change.apply d = .ok (change.perform d) := by
  have hok : ∃ d', change.apply d = .ok d' := by
    cases change with
    | setValue n value =>
      have h : d.isElement n = true := h
      simp only [apply, Document.setValue, Document.selectOption, h, if_true]
      split
      · exact ⟨_, rfl⟩
      · exact ⟨_, rfl⟩
    | setChecked n checked => exact ⟨_, if_pos h⟩
    | selectOption n value => exact ⟨_, if_pos h⟩
    | setAttribute n name value =>
      have h : d.isElement n = true := h
      simp only [apply, Document.setAttribute, h, if_true]
      split
      · exact ⟨_, rfl⟩
      · split
        · exact ⟨_, rfl⟩
        · exact ⟨_, rfl⟩
    | removeAttribute n name => exact ⟨_, if_pos h⟩
  obtain ⟨d', hd'⟩ := hok
  rw [perform, hd']

theorem Document.isElement_of_control? {d : Document} {n : Nat} {c : Control}
    (h : d.control? n = some c) : d.isElement n = true := by
  rw [control?, Option.map_eq_some_iff] at h
  obtain ⟨kind, hkind, -⟩ := h
  exact isElement_of_fieldKind? (Option.isSome_of_eq_some hkind)

namespace Page

/-! ## Errors of actions -/

/-- The error that an action comes to, if it comes to one. -/
def Action.error? (p : Page) : Action → Option Error
  | typeText selector text => errorOf? (p.typeText selector text).2
  | setChecked selector checked => errorOf? (p.setChecked selector checked).2
  | select selector value => errorOf? (p.select selector value).2
  | change selector => errorOf? (p.change selector).2
  | validate selector mode => errorOf? (p.validate selector mode).2
  | submit selector submitter => errorOf? (p.submit selector submitter).2
  | setAttribute selector name value => errorOf? (p.setAttribute selector name value).2
  | removeAttribute selector name => errorOf? (p.removeAttribute selector name).2

/-- The change of the document that an input makes, if its selector names a control. -/
def Action.input? (p : Page) : Action → Option Change
  | typeText selector text =>
    (p.selectControl selector).toOption.map fun c => .setValue c.node text
  | setChecked selector checked =>
    (p.selectControl selector).toOption.map fun c => .setChecked c.node checked
  | select selector value =>
    (p.selectControl selector).toOption.map fun c => .selectOption c.node value
  | _ => none

/-- An action submits a form. -/
def Action.IsSubmission : Action → Prop
  | submit _ _ => True
  | _ => False

/-- The ways in which an action can fail, with the page that it leaves. -/
inductive Action.Fails (p : Page) (a : Action) (e : Error) : Page → Prop
  /-- Nothing happens, as there is not what the action asks for. -/
  | refused (he : e.IsRefusal) : Fails p a e p
  /-- A pass comes to an error, behind the change of the document if the action is an input. -/
  | broken {op : Pass} (herror : op.error? p.validator = some e)
      (hone : ¬ a.IsSubmission → op.JudgesOne) :
      Fails p a e
        ⟨(a.input? p).elim p.document (·.perform p.document), op.perform p.validator⟩

variable {p : Page} {n : Nat} {c : Control} {a : Action} {e : Error}

theorem changed_of_error (he : errorOf? (p.changed n).2 = some e) :
    ∃ c, (p.changePass c).error? p.validator = some e ∧
      (p.changed n).1 = { p with validator := (p.changePass c).perform p.validator } := by
  cases hc : p.document.control? n with
  | none =>
    rw [changed, hc] at he
    cases he
  | some c =>
    refine ⟨c, ?_, changed_of_control? hc⟩
    rw [← he, changed, hc, ← Document.node_of_control? hc]
    rfl

theorem isElement_of_selectOne {selector : String} (hcurrent : p.document.IdsCurrent)
    (h : p.selectOne selector = .ok n) : p.document.isElement n = true := by
  rw [selectOne] at h
  split at h
  · cases h
  · split at h
    · cases h
    · rename_i hn
      cases h
      exact Document.isElement_of_attribute? (hcurrent _ _ hn)

theorem isRefusal_of_mapM_selectOne {selector : Option String}
    (h : selector.mapM p.selectOne = .error e) : e.IsRefusal := by
  cases selector with
  | none => cases h
  | some selector =>
    cases hn : p.selectOne selector with
    | error e' =>
      rw [Option.mapM_some, hn] at h
      cases h
      exact isRefusal_of_selectOne hn
    | ok n =>
      rw [Option.mapM_some, hn] at h
      cases h

/-- An input fails by its selector, by its control or by the pass behind it. -/
theorem fails_act (change : Nat → Change) {selector expected : String}
    {isFit isIdle : Control → Bool}
    (hinput : a.input? p = (p.selectControl selector).toOption.map fun c => change c.node)
    (hfits : ∀ c, p.document.isElement c.node = true → isFit c = true →
      (change c.node).Fits p.document)
    (he : errorOf? (p.act selector expected isFit isIdle fun n d => (change n).apply d).2 =
      some e) :
    a.Fails p e (p.act selector expected isFit isIdle fun n d => (change n).apply d).1 := by
  obtain ⟨e', h, hcause⟩ | h | ⟨c, document, hc, -, hedit, h⟩ :=
    act_cases p selector expected isFit isIdle fun n d => (change n).apply d
  · rw [h] at he ⊢
    cases he
    obtain hrefusal | ⟨c, hc, hfit, hedit⟩ := hcause
    · exact .refused hrefusal
    · have helement := Document.isElement_of_control? hc
      rw [(hfits c helement hfit).apply_eq] at hedit
      cases hedit
  · rw [h] at he
    cases he
  · have hdocument : document = (a.input? p).elim p.document (·.perform p.document) := by
      rw [hinput, hc]
      show document = (change c.node).perform p.document
      rw [Change.perform, hedit]
    subst hdocument
    rw [h] at he ⊢
    obtain ⟨c', herror, hchanged⟩ := changed_of_error he
    rw [hchanged]
    exact .broken herror fun _ => trivial

/-- A change of an attribute fails by its selector alone. -/
theorem fails_editOne (change : Nat → Change) {selector : String}
    (hfits : ∀ n, p.document.isElement n = true → (change n).Fits p.document)
    (hcurrent : p.document.IdsCurrent)
    (he : errorOf? (p.editOne selector fun n d => (change n).apply d).2 = some e) :
    a.Fails p e (p.editOne selector fun n d => (change n).apply d).1 := by
  cases hn : p.selectOne selector with
  | error e' =>
    rw [editOne, hn] at he ⊢
    cases he
    exact .refused (isRefusal_of_selectOne hn)
  | ok n =>
    have hedit := (hfits n (isElement_of_selectOne hcurrent hn)).apply_eq
    rw [editOne, hn] at he
    simp only [hedit] at he
    cases he

theorem isTag_select_of_tag? {d : Document} (h : d.tag? n = some "select") :
    d.isTag "select" n = true := by
  rw [Document.isTag_eq, h]
  decide

/-- An action that fails does so in one of the ways of `Fails`. -/
theorem Action.fails (hcurrent : p.document.IdsCurrent) (he : a.error? p = some e) :
    a.Fails p e (a.perform p) := by
  cases a with
  | typeText selector text => exact fails_act (.setValue · text) rfl (fun _ h _ => h) he
  | setChecked selector checked => exact fails_act (.setChecked · checked) rfl (fun _ h _ => h) he
  | select selector value =>
    refine fails_act (.selectOption · value) rfl (fun c _ hfit => ?_) he
    exact isTag_select_of_tag? (beq_iff_eq.1 hfit)
  | change selector =>
    have he : errorOf? (p.change selector).2 = some e := he
    show Fails p _ e (p.change selector).1
    rw [Page.change] at he ⊢
    split at he
    · rename_i e' hselect
      cases he
      exact .refused (isRefusal_of_selectControl hselect)
    · obtain ⟨c', herror, hchanged⟩ := changed_of_error he
      rw [hchanged]
      exact .broken herror fun _ => trivial
  | validate selector mode =>
    have he : errorOf? (p.validate selector mode).2 = some e := he
    show Fails p _ e (p.validate selector mode).1
    rw [Page.validate] at he ⊢
    split at he
    · rename_i e' hselect
      cases he
      exact .refused (isRefusal_of_selectControl hselect)
    · rename_i c hselect
      have herror : Operation.error? p.validator (.validate c mode : Pass) = some e := he
      exact .broken herror fun _ => trivial
  | submit selector submitter =>
    have he : errorOf? (p.submit selector submitter).2 = some e := he
    show Fails p _ e (p.submit selector submitter).1
    rw [Page.submit] at he ⊢
    split at he
    · rename_i e' hform
      cases he
      exact .refused (isRefusal_of_selectForm hform)
    · rename_i form hform
      split at he
      · rename_i e' hsubmitter
        cases he
        exact .refused (isRefusal_of_mapM_selectOne hsubmitter)
      · rename_i submitter' hsubmitter
        have herror : Operation.error? p.validator
            (.submit form (submitter'.bind p.document.elementNode?) : Pass) = some e := he
        exact .broken herror fun h => absurd trivial h
  | setAttribute selector name value =>
    exact fails_editOne (.setAttribute · name value) (fun _ h => h) hcurrent he
  | removeAttribute selector name =>
    exact fails_editOne (.removeAttribute · name) (fun _ h => h) hcurrent he

/-! ## What becomes of the document -/

theorem document_change (p : Page) (selector : String) :
    (p.change selector).1.document = p.document := by
  rw [change]
  split
  · rfl
  · exact document_changed p _

theorem document_validate (p : Page) (selector : String) (mode : Option Mode) :
    (p.validate selector mode).1.document = p.document := by
  rw [validate]
  split <;> rfl

theorem document_submit (p : Page) (selector : String) (submitter : Option String) :
    (p.submit selector submitter).1.document = p.document := by
  rw [submit]
  split
  · rfl
  · split <;> rfl

theorem document_act (p : Page) (validator : Validator Control) (selector expected : String)
    (isFit isIdle : Control → Bool) (edit : Nat → Document → Except Error Document) :
    ({ p with validator }.act selector expected isFit isIdle edit).1.document =
      (p.act selector expected isFit isIdle edit).1.document := by
  have hselect : { p with validator }.selectControl selector = p.selectControl selector := rfl
  rw [act, act, hselect]
  split
  · rfl
  · split
    · rfl
    · split
      · rfl
      · dsimp only
        split
        · rfl
        · rw [document_changed, document_changed]

theorem document_editOne (p : Page) (validator : Validator Control) (selector : String)
    (edit : Nat → Document → Except Error Document) :
    ({ p with validator }.editOne selector edit).1.document =
      (p.editOne selector edit).1.document := by
  have hselect : { p with validator }.selectOne selector = p.selectOne selector := rfl
  rw [editOne, editOne, hselect]
  split
  · rfl
  · dsimp only
    split <;> rfl

/-- The validator has no say in what an action makes of the document. -/
theorem document_perform_withValidator (p : Page) (a : Action) (validator : Validator Control) :
    (a.perform { p with validator }).document = (a.perform p).document := by
  cases a with
  | typeText selector text => exact document_act p validator _ _ _ _ _
  | setChecked selector checked => exact document_act p validator _ _ _ _ _
  | select selector value => exact document_act p validator _ _ _ _ _
  | change selector =>
    exact (document_change _ selector).trans (document_change p selector).symm
  | validate selector mode =>
    exact (document_validate _ selector mode).trans (document_validate p selector mode).symm
  | submit selector submitter =>
    exact (document_submit _ selector submitter).trans (document_submit p selector submitter).symm
  | setAttribute selector name value => exact document_editOne p validator _ _
  | removeAttribute selector name => exact document_editOne p validator _ _

/-! ## The law of failures -/

/-- **Actions that fail.** Let a document be read and changed in any way, and let the operators be
built-in ones. An action comes to no error about markup. If what it asks for is not there, it leaves
the page as it was. If a rule is broken, then, unless it is a submission, it leaves all display
states and all marks of forms, while the document is changed by the input: it is the same as under
any other validator, by which the rules may pass. -/
theorem perform_of_error? {html : String} {d : Document} (hread : Document.ofHtml html = .ok d)
    {changes : List Change} (hdocument : p.document = d.run changes)
    (hregistry : p.validator.registry.OnlyBuiltins) (he : a.error? p = some e) :
    (∀ fault, e ≠ .markup fault) ∧
    (e.IsRefusal → a.perform p = p) ∧
    (e.IsBrokenRule → ¬ a.IsSubmission →
      (∀ k, (a.perform p).validator.displayState k = p.validator.displayState k) ∧
      (∀ k, (a.perform p).validator.isDirty k = p.validator.isDirty k) ∧
      (a.perform p).document = (a.input? p).elim p.document (·.perform p.document) ∧
      ∀ validator, (a.perform { p with validator }).document = (a.perform p).document) := by
  have hcurrent : p.document.IdsCurrent := by
    rw [hdocument]
    exact Document.run_invariant (fun _ c h => h.perform c) (Document.indexed_ofHtml hread).current
      changes
  have hfails := a.fails hcurrent he
  have hothers := document_perform_withValidator p a
  generalize a.perform p = p' at hfails hothers ⊢
  cases hfails with
  | refused hrefusal =>
    refine ⟨?_, fun _ => rfl, fun hbroken => ?_⟩
    · rintro fault rfl
      exact hrefusal
    · exact absurd hrefusal (Error.not_isRefusal_of_isBrokenRule hbroken)
  | broken herror hone =>
    have hbroken := Operation.isBrokenRule_of_error? hregistry herror
    refine ⟨?_, fun hrefusal => ?_, fun _ hsubmission => ?_⟩
    · rintro fault rfl
      exact hbroken
    · exact absurd hrefusal (Error.not_isRefusal_of_isBrokenRule hbroken)
    · obtain ⟨hstates, hmarks⟩ := Operation.unmoved_of_error? (hone hsubmission) herror
      exact ⟨hstates, hmarks, rfl, hothers⟩

/-- A form with a control under a rule with a wrong modifier. -/
def wrongModifier : String := "<form id=f><input id=x data-validate=regexp:q:a></form>"

/-- The text is typed in and the rule is found broken; a selector without number sign is refused. -/
theorem perform_wrongModifier :
    ∃ d, Document.ofHtml wrongModifier = .ok d ∧
      Action.error? ⟨d, .ofConfig {}⟩ (.typeText "#x" "b") =
        some (.invalidModifiers "q" (.unknown 'q')) ∧
      (∀ k, (Action.perform ⟨d, .ofConfig {}⟩ (.typeText "#x" "b")).validator.displayState k =
        (Validator.ofConfig {} : Validator Control).displayState k) ∧
      (Action.perform ⟨d, .ofConfig {}⟩ (.typeText "#x" "b")).document.value? 2 = some "b" ∧
      Action.perform ⟨d, .ofConfig {}⟩ (.typeText "x" "b") = ⟨d, .ofConfig {}⟩ := by
  have hread : ((Document.ofHtml wrongModifier).toOption.map fun d =>
      (Action.error? ⟨d, .ofConfig {}⟩ (.typeText "#x" "b"),
        (Action.perform ⟨d, .ofConfig {}⟩ (.typeText "#x" "b")).document.value? 2,
        Action.error? ⟨d, .ofConfig {}⟩ (.typeText "x" "b"))) =
      some (some (.invalidModifiers "q" (.unknown 'q')), some "b",
        some (.unsupportedSelector "x")) := by
    decide +kernel
  obtain ⟨d, hd, hresults⟩ := Document.exists_of_map_ofHtml hread
  obtain ⟨hbroken, hvalue, hrefused⟩ : _ ∧ _ ∧ _ := by simpa only [Prod.mk.injEq] using hresults
  have hregistry : (Validator.ofConfig (φ := Control) {}).registry.OnlyBuiltins :=
    onlyBuiltins_builtins .allowExponent .standard
  have hrun : (⟨d, .ofConfig {}⟩ : Page).document = d.run [] := rfl
  obtain ⟨hstates, -⟩ := (perform_of_error? hd hrun hregistry hbroken).2.2 trivial id
  have hsame := (perform_of_error? hd hrun hregistry hrefused).2.1 trivial
  exact ⟨d, hd, hbroken, hstates, hvalue, hsame⟩

end Page

end FormRules
