import FormRules.Page
import FormRules.Proofs.Document.Invariant
import FormRules.Proofs.Document.Runs
import FormRules.Proofs.History

/-!
# Actions and runs of a page

What a user or a script does to a page is a sequence of actions. An action edits the document or has
the validator judge fields, and an input does the one and then the other.

* `Page.Action`, `Page.run`: the actions, and a run of them.
* `Action.pass?`, `Action.edit?`: the operation on the validator that an action is, and the change
  of the document that it is.
* `Error.IsRefusal`: the errors of selectors and of controls that are not fit.
* `Action.step`: all that an action can do.
-/

namespace FormRules

namespace Document

variable {d : Document} {n : Nat} {c : Control}

theorem document_of_control? (h : d.control? n = some c) : c.document = d := by
  rw [control?, Option.map_eq_some_iff] at h
  obtain ⟨kind, -, rfl⟩ := h
  rfl

end Document

theorem ok_of_toOption {ε α : Type} {x : Except ε α} {a : α} (h : x.toOption = some a) :
    x = .ok a := by
  cases x with
  | error e => cases h
  | ok b =>
    cases h
    rfl

/-- An error that says of a page that it has not what an action asks for. -/
def Error.IsRefusal : Error → Prop
  | unsupportedSelector _ => True
  | selectorNotFound _ => True
  | typeMismatch _ _ _ => True
  | _ => False

namespace Page

/-! ## Actions -/

/-- What is done to a page: the public functions of `Page` that change it and its validator. -/
inductive Action
  | typeText (selector text : String)
  | setChecked (selector : String) (checked : Bool)
  | select (selector value : String)
  | change (selector : String)
  | validate (selector : String) (mode : Option Mode)
  | submit (selector : String) (submitter : Option String)
  | setAttribute (selector name value : String)
  | removeAttribute (selector name : String)
  deriving Repr

/-- The page after an action. -/
def Action.perform (p : Page) : Action → Page
  | typeText selector text => (p.typeText selector text).1
  | setChecked selector checked => (p.setChecked selector checked).1
  | select selector value => (p.select selector value).1
  | change selector => (p.change selector).1
  | validate selector mode => (p.validate selector mode).1
  | submit selector submitter => (p.submit selector submitter).1
  | setAttribute selector name value => (p.setAttribute selector name value).1
  | removeAttribute selector name => (p.removeAttribute selector name).1

/-- The page after a run of actions. -/
def run (p : Page) (actions : List Action) : Page := actions.foldl Action.perform p

@[simp] theorem run_nil (p : Page) : p.run [] = p := rfl

@[simp] theorem run_cons (p : Page) (a : Action) (actions : List Action) :
    p.run (a :: actions) = (a.perform p).run actions := rfl

/-! ## What an action is to the validator and to the document -/

/-- The operations on the validator of a page. -/
abbrev Pass : Type := Operation Control FormNode ElementNode

/-- The operation that a change of a control is. -/
def changePass (p : Page) (c : Control) : Pass :=
  .change c ((p.document.owningForm? c.node).bind p.document.formNode?)

/-- The operation that an action is, if its selectors name what it needs. -/
def Action.pass? (p : Page) : Action → Option Pass
  | change selector => (p.selectControl selector).toOption.map p.changePass
  | validate selector mode => (p.selectControl selector).toOption.map (.validate · mode)
  | submit selector submitter =>
    match p.selectForm selector, submitter.mapM p.selectOne with
    | .ok form, .ok submitter => some (.submit form (submitter.bind p.document.elementNode?))
    | _, _ => none
  | _ => none

/-- The change of the document that an action is, if its selector names an element. -/
def Action.edit? (p : Page) : Action → Option Change
  | setAttribute selector name value =>
    (p.selectOne selector).toOption.map (.setAttribute · name value)
  | removeAttribute selector name => (p.selectOne selector).toOption.map (.removeAttribute · name)
  | _ => none

/-- All that an action can do. -/
inductive Action.Step (p : Page) (a : Action) : Page → Prop
  /-- Nothing: a selector names nothing fit, or a control does not react. -/
  | refused (hpass : a.pass? p = none) : Step p a p
  /-- A change of a value or a flag of an enabled control, and then the pass that follows it. -/
  | input {c : Control} {change : Change} (hpass : a.pass? p = none)
      (hc : p.document.control? c.node = some c) (henabled : Field.isDisabled c = false)
      (hassigns : change.assigns? = none) :
      Step p a ({ p with document := change.perform p.document }.changed c.node).1
  /-- A change of an attribute, and no pass. -/
  | edit {change : Change} (hpass : a.pass? p = none) (hedit : a.edit? p = some change) :
      Step p a { p with document := change.perform p.document }
  /-- A pass, and no change of the document. -/
  | pass {op : Pass} (hpass : a.pass? p = some op) :
      Step p a { p with validator := op.perform p.validator }

/-! ## What selectors name -/

variable {p : Page} {n : Nat} {c : Control}

theorem isRefusal_of_selectOne {selector : String} {e : Error}
    (h : p.selectOne selector = .error e) :
    e.IsRefusal := by
  rw [selectOne] at h
  split at h
  · cases h
    trivial
  · split at h
    · cases h
      trivial
    · cases h

theorem isRefusal_of_selectControl {selector : String} {e : Error}
    (h : p.selectControl selector = .error e) : e.IsRefusal := by
  rw [selectControl] at h
  split at h
  · rename_i e' he
    cases h
    exact isRefusal_of_selectOne he
  · split at h
    · cases h
      trivial
    · cases h

theorem isRefusal_of_selectForm {selector : String} {e : Error}
    (h : p.selectForm selector = .error e) : e.IsRefusal := by
  rw [selectForm] at h
  split at h
  · rename_i e' he
    cases h
    exact isRefusal_of_selectOne he
  · split at h
    · cases h
      trivial
    · cases h

theorem control?_of_selectControl {selector : String} (h : p.selectControl selector = .ok c) :
    p.document.control? c.node = some c := by
  rw [selectControl] at h
  split at h
  · cases h
  · split at h
    · cases h
    · rename_i n _ c' hc
      cases h
      rw [Document.node_of_control? hc, hc]

theorem document_of_selectForm {selector : String} {f : FormNode}
    (h : p.selectForm selector = .ok f) : f.document = p.document := by
  rw [selectForm] at h
  split at h
  · cases h
  · split at h
    · cases h
    · rename_i n _ f' hf
      cases h
      rw [Document.formNode?] at hf
      split at hf
      · cases hf
        rfl
      · cases hf

/-! ## The steps of an action -/

theorem changed_of_control? (hc : p.document.control? n = some c) :
    (p.changed n).1 = { p with validator := (p.changePass c).perform p.validator } := by
  rw [changed, changePass, hc, Document.node_of_control? hc]
  rfl

theorem changed_of_not_control? (hc : p.document.control? n = none) : (p.changed n).1 = p := by
  rw [changed, hc]

@[simp] theorem document_changed (p : Page) (n : Nat) : (p.changed n).1.document = p.document := by
  cases hc : p.document.control? n with
  | none => rw [changed_of_not_control? hc]
  | some c => rw [changed_of_control? hc]

/-- An input is refused, or the control does not react, or it edits the document and the change is
told. -/
theorem act_cases (p : Page) (selector expected : String) (isFit isIdle : Control → Bool)
    (edit : Nat → Document → Except Error Document) :
    (∃ e, p.act selector expected isFit isIdle edit = (p, .error e) ∧
      (e.IsRefusal ∨
        ∃ c, p.document.control? c.node = some c ∧ isFit c = true ∧
          edit c.node p.document = .error e)) ∨
    p.act selector expected isFit isIdle edit = (p, .ok none) ∨
    ∃ c document, p.selectControl selector = .ok c ∧ isIdle c = false ∧
      edit c.node p.document = .ok document ∧
      p.act selector expected isFit isIdle edit = { p with document }.changed c.node := by
  rw [act]
  split
  · rename_i e he
    exact .inl ⟨e, rfl, .inl (isRefusal_of_selectControl he)⟩
  · rename_i c hc
    split
    · exact .inl ⟨_, rfl, .inl trivial⟩
    · rename_i hfit
      split
      · exact .inr (.inl rfl)
      · rename_i hidle
        split
        · rename_i e hedit
          exact .inl ⟨e, rfl, .inr ⟨c, control?_of_selectControl hc, by simpa using hfit, hedit⟩⟩
        · rename_i document hedit
          exact .inr (.inr ⟨c, document, hc, Bool.eq_false_iff.2 hidle, hedit, rfl⟩)

/-- An input is a step, if it changes no attribute and only enabled controls react to it. -/
theorem step_act (change : Nat → Change) (hassigns : ∀ n, (change n).assigns? = none) {a : Action}
    (hpass : a.pass? p = none) {selector expected : String} {isFit isIdle : Control → Bool}
    (hidle : ∀ c, isIdle c = false → Field.isDisabled c = false) :
    a.Step p (p.act selector expected isFit isIdle fun n d => (change n).apply d).1 := by
  obtain ⟨e, h, -⟩ | h | ⟨c, document, hc, hreacts, hedit, h⟩ :=
    act_cases p selector expected isFit isIdle fun n d => (change n).apply d
  · rw [h]
    exact .refused hpass
  · rw [h]
    exact .refused hpass
  · have hperform : document = (change c.node).perform p.document := by
      rw [Change.perform, hedit]
    rw [h, hperform]
    exact .input hpass (control?_of_selectControl hc) (hidle c hreacts) (hassigns c.node)

theorem step_editOne (change : Nat → Change) {a : Action} (hpass : a.pass? p = none)
    {selector : String} (hedit : a.edit? p = (p.selectOne selector).toOption.map change) :
    a.Step p (p.editOne selector fun n d => (change n).apply d).1 := by
  rw [editOne]
  split
  · exact .refused hpass
  · rename_i n hn
    split
    · exact .refused hpass
    · rename_i document happly
      have hperform : document = (change n).perform p.document := by
        rw [Change.perform, happly]
      rw [hperform]
      apply Action.Step.edit hpass
      rw [hedit, hn]
      rfl

/-- What an action does is one of its steps. -/
theorem Action.step (p : Page) (a : Action) : a.Step p (a.perform p) := by
  cases a with
  | typeText selector text =>
    exact step_act (.setValue · text) (fun _ => rfl) rfl fun _ h => h
  | setChecked selector checked =>
    refine step_act (.setChecked · checked) (fun _ => rfl) rfl ?_
    intro c h
    exact (Bool.or_eq_false_iff.1 h).1
  | select selector value =>
    exact step_act (.selectOption · value) (fun _ => rfl) rfl fun _ h => h
  | change selector =>
    show Step p _ (p.change selector).1
    rw [Page.change]
    split
    · rename_i e he
      apply Step.refused
      rw [pass?, he]
      rfl
    · rename_i c hc
      show Step p _ (p.changed c.node).1
      rw [changed_of_control? (control?_of_selectControl hc)]
      apply Step.pass
      rw [pass?, hc]
      rfl
  | validate selector mode =>
    show Step p _ (p.validate selector mode).1
    rw [Page.validate]
    split
    · rename_i e he
      apply Step.refused
      rw [pass?, he]
      rfl
    · rename_i c hc
      have hpass : (validate selector mode).pass? p = some (.validate c mode) := by
        rw [pass?, hc]
        rfl
      exact Step.pass hpass
  | submit selector submitter =>
    show Step p _ (p.submit selector submitter).1
    rw [Page.submit]
    split
    · rename_i e he
      apply Step.refused
      rw [pass?, he]
    · rename_i form hform
      split
      · rename_i e he
        apply Step.refused
        rw [pass?, hform, he]
      · rename_i submitter' hsubmitter
        have hpass : (submit selector submitter).pass? p =
            some (.submit form (submitter'.bind p.document.elementNode?)) := by
          rw [pass?, hform, hsubmitter]
        exact Step.pass hpass
  | setAttribute selector name value =>
    exact step_editOne (.setAttribute · name value) rfl rfl
  | removeAttribute selector name =>
    exact step_editOne (.removeAttribute · name) rfl rfl

/-- The fields of a pass are controls of the page as it is. -/
theorem document_of_mem_fields {a : Action} {op : Pass} (hpass : a.pass? p = some op)
    (hc : c ∈ op.fields) : c.document = p.document := by
  cases a with
  | change selector =>
    rw [Action.pass?, Option.map_eq_some_iff] at hpass
    obtain ⟨c', hc', rfl⟩ := hpass
    obtain rfl := List.mem_singleton.1 hc
    exact Document.document_of_control? (control?_of_selectControl (ok_of_toOption hc'))
  | validate selector mode =>
    rw [Action.pass?, Option.map_eq_some_iff] at hpass
    obtain ⟨c', hc', rfl⟩ := hpass
    obtain rfl := List.mem_singleton.1 hc
    exact Document.document_of_control? (control?_of_selectControl (ok_of_toOption hc'))
  | submit selector submitter =>
    rw [Action.pass?] at hpass
    split at hpass
    · rename_i form submitter' hform _
      cases hpass
      obtain ⟨n, -, hn⟩ := List.mem_filterMap.1 hc
      rw [Document.document_of_control? hn, document_of_selectForm hform]
    · cases hpass
  | _ => cases hpass

end Page

end FormRules
