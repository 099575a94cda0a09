import FormRules.Proofs.Document.Shape
import Mathlib.Data.List.Induction

/-!
# Changes, edits and runs

What a host does to a document is a sequence of changes. A change is made of edits, each of which
touches one thing of one element or one identifier, and what a change keeps is read off the edits
that it is made of.

* `Change`, `Document.run`: the changes, and a run of them. A change that is refused does nothing.
* `Edit`, `Change.edits`: the edits, and those that a change is made of.
* `perform_eq_editAll`: a change does what its edits do one after the other.
* `sameShape_perform`, `attribute?_perform`, `ids_perform`, `checked?_perform`: what a change keeps.
* `attribute?_perform_of_assigns?`: what a change of an attribute does to the attributes.
* `run_invariant`, `forall_run_iff`: from what one change does to what a run does.
-/

namespace FormRules

/-! ## Changes -/

/-- What a host changes in a document: the public functions of `Document` that change it. -/
inductive Change
  | setValue (n : Nat) (value : String)
  | setChecked (n : Nat) (checked : Bool)
  | selectOption (n : Nat) (value : String)
  | setAttribute (n : Nat) (name value : String)
  | removeAttribute (n : Nat) (name : String)
  deriving DecidableEq, Repr, Inhabited

/-- The document after a change, or an error. -/
def Change.apply (d : Document) : Change → Except Error Document
  | setValue n value => d.setValue n value
  | setChecked n checked => d.setChecked n checked
  | selectOption n value => d.selectOption n value
  | setAttribute n name value => d.setAttribute n name value
  | removeAttribute n name => d.removeAttribute n name

/-- The document after a change. One that is refused leaves it. -/
def Change.perform (d : Document) (c : Change) : Document :=
  match c.apply d with
  | .ok d' => d'
  | .error _ => d

/-- The document after a run of changes. -/
def Document.run (d : Document) (changes : List Change) : Document :=
  changes.foldl Change.perform d

/-! ## Edits -/

/-- The smallest changes. -/
inductive Edit
  /-- Sets an attribute, or removes it if there is no value. -/
  | assign (n : Nat) (name : String) (value : Option String)
  | fill (n : Nat) (value : String)
  | flag (n : Nat) (checked : Bool)
  | release (n : Nat) (id : Option String)
  | claim (n : Nat) (id : String)
  deriving DecidableEq, Repr, Inhabited

/-- The document after an edit. -/
def Edit.perform (d : Document) : Edit → Document
  | assign n name (some value) => d.modifyElement n (·.setAttribute name value)
  | assign n name none => d.modifyElement n (·.removeAttribute name)
  | fill n value => d.modifyElement n fun e => { e with value }
  | flag n checked => d.flag checked n
  | release n id => d.releaseId id n
  | claim n id => d.claimId id n

namespace Document

/-- The document after edits one after the other. -/
def editAll (d : Document) (edits : List Edit) : Document := edits.foldl Edit.perform d

@[simp] theorem editAll_nil (d : Document) : d.editAll [] = d := rfl

@[simp] theorem editAll_cons (d : Document) (e : Edit) (edits : List Edit) :
    d.editAll (e :: edits) = (e.perform d).editAll edits := rfl

theorem editAll_append (d : Document) (s t : List Edit) :
    d.editAll (s ++ t) = (d.editAll s).editAll t :=
  List.foldl_append

/-- The edits that check or uncheck an element. -/
def checkEdits (d : Document) (checked : Bool) (n : Nat) : List Edit :=
  (if checked && d.isRadio n then (d.radioGroup n).filter (· ≠ n) else []).map (.flag · false) ++
    [.flag n checked]

/-- The edits that select an option. -/
def selectEdits (d : Document) (n : Nat) (value : String) : List Edit :=
  (d.options n).map fun m => .assign m "selected"
    (if (d.options n).find? (d.optionValue · == value) == some m then some "selected" else none)

end Document

/-- The edits that a change is made of; none if it is refused. -/
def Change.edits (d : Document) : Change → List Edit
  | setValue n value =>
    if d.isTag "select" n then d.selectEdits n value
    else if d.isElement n then
      (if (d.element? n).any (·.isCheckable) then [.assign n "value" (some value)] else []) ++
        [.fill n value]
    else []
  | setChecked n checked => if d.isElement n then d.checkEdits checked n else []
  | selectOption n value => if d.isTag "select" n then d.selectEdits n value else []
  | setAttribute n name value =>
    if d.isElement n then
      let set := .assign n (lowerText name) (some value)
      set ::
        (if lowerText name = "id" then [.release n (d.attribute? n "id"), .claim n value]
          else if lowerText name = "checked" then (set.perform d).checkEdits true n
          else [])
    else []
  | removeAttribute n name =>
    if d.isElement n then
      .assign n (lowerText name) none ::
        (if lowerText name = "id" then [.release n (d.attribute? n "id")] else [])
    else []

/-- The attributes that a change is about. -/
def Change.attributes : Change → List String
  | setValue _ _ => ["value", "selected"]
  | setChecked _ _ => []
  | selectOption _ _ => ["selected"]
  | setAttribute _ name _ => [lowerText name]
  | removeAttribute _ name => [lowerText name]

/-- The element, the attribute and its new value, if it gets one, of a change of an attribute. -/
def Change.assigns? : Change → Option (Nat × String × Option String)
  | setAttribute n name value => some (n, lowerText name, some value)
  | removeAttribute n name => some (n, lowerText name, none)
  | _ => none

theorem Change.attributes_of_assigns? {c : Change} {n : Nat} {a : String} {v : Option String}
    (h : c.assigns? = some (n, a, v)) : c.attributes = [a] := by
  cases c with
  | setAttribute k name value =>
    cases h
    rfl
  | removeAttribute k name =>
    cases h
    rfl
  | _ => cases h

/-- An attribute that is not written along with a value or a selection is changed on one element. -/
theorem Change.exists_assigns? {c : Change} {a : String} (h : a ∈ c.attributes)
    (hvalue : a ≠ "value") (hselected : a ≠ "selected") : ∃ n v, c.assigns? = some (n, a, v) := by
  cases c <;> simp_all [attributes, assigns?]

/-- Whether a change checks or unchecks an element. -/
def Change.checks : Change → Bool
  | setChecked _ _ => true
  | setAttribute _ name _ => lowerText name == "checked"
  | _ => false

/-- Whether an edit is about what a change is about. -/
def Change.Covers (c : Change) : Edit → Prop
  | .assign _ name _ => name ∈ c.attributes
  | .fill _ _ => True
  | .flag _ _ => c.checks = true
  | .release _ _ => "id" ∈ c.attributes
  | .claim _ _ => "id" ∈ c.attributes

namespace Document

/-! ## A change is what its edits do -/

variable {d : Document}

theorem check_eq_editAll (d : Document) (checked : Bool) (n : Nat) :
    d.check checked n = d.editAll (d.checkEdits checked n) := by
  rw [checkEdits, editAll_append, editAll, editAll, List.foldl_map]
  rfl

theorem selectOption_eq_editAll {n : Nat} (h : d.isTag "select" n = true) (value : String) :
    d.selectOption n value = .ok (d.editAll (d.selectEdits n value)) := by
  have hmark : ∀ (d : Document) (m : Nat) (selected : Bool), d.mark selected m =
      (Edit.assign m "selected" (if selected then some "selected" else none)).perform d := by
    intro d m selected
    cases selected <;> rfl
  rw [selectOption, if_pos h, selectEdits, editAll, List.foldl_map]
  simp only [hmark]

theorem modifyElement_congr {n : Nat} {change change' : Element → Element}
    (h : ∀ e, d.element? n = some e → change e = change' e) :
    d.modifyElement n change = d.modifyElement n change' := by
  have hnode : ∀ node, d.nodes[n]? = some node →
      changeNode change node = changeNode change' node := by
    rintro ⟨parent, content⟩ hn
    cases content with
    | root => rfl
    | text s => rfl
    | element e =>
      have he : d.element? n = some e := by simp [element?, content?, hn]
      simp only [changeNode, h e he]
  have hnodes : (d.modifyElement n change).nodes = (d.modifyElement n change').nodes := by
    apply Array.ext_getElem?
    intro m
    rw [getElem?_modifyElement, getElem?_modifyElement]
    split
    · rename_i hm
      subst hm
      cases hn : d.nodes[n]? with
      | none => rfl
      | some node => exact congrArg some (hnode node hn)
    · rfl
  show (⟨(d.modifyElement n change).nodes, d.ids⟩ : Document) =
    ⟨(d.modifyElement n change').nodes, d.ids⟩
  rw [hnodes]

theorem modifyElement_modifyElement (n : Nat) (change change' : Element → Element) (d : Document) :
    (d.modifyElement n change).modifyElement n change' =
      d.modifyElement n fun e => change' (change e) := by
  have hnode : ∀ node, changeNode change' (changeNode change node) =
      changeNode (fun e => change' (change e)) node := by
    rintro ⟨parent, content⟩
    cases content <;> rfl
  have hnodes : ((d.modifyElement n change).modifyElement n change').nodes =
      (d.modifyElement n fun e => change' (change e)).nodes := by
    apply Array.ext_getElem?
    intro m
    rw [getElem?_modifyElement, getElem?_modifyElement, getElem?_modifyElement]
    split
    · cases d.nodes[m]? with
      | none => rfl
      | some node => exact congrArg some (hnode node)
    · rfl
  show (⟨((d.modifyElement n change).modifyElement n change').nodes, d.ids⟩ : Document) =
    ⟨(d.modifyElement n fun e => change' (change e)).nodes, d.ids⟩
  rw [hnodes]

/-- A change does what its edits do one after the other. -/
theorem perform_eq_editAll (d : Document) (c : Change) : c.perform d = d.editAll (c.edits d) := by
  cases c with
  | setValue n value =>
    rw [Change.perform, Change.apply, setValue, Change.edits]
    by_cases hs : d.isTag "select" n = true
    · rw [if_pos hs, if_pos hs, selectOption_eq_editAll hs]
    · rw [if_neg hs, if_neg hs]
      by_cases h : d.isElement n = true
      · obtain ⟨e, he⟩ := isElement_iff.1 h
        rw [if_pos h, if_pos h, he, Option.any_some]
        show d.modifyElement n _ = _
        by_cases hc : e.isCheckable = true
        · rw [if_pos hc, List.singleton_append, editAll_cons, editAll_cons, editAll_nil]
          show _ = (d.modifyElement n _).modifyElement n _
          rw [modifyElement_modifyElement]
          apply modifyElement_congr
          intro e' he'
          obtain rfl := Option.some.inj (he.symm.trans he')
          simp only [hc, if_true]
        · rw [if_neg hc, List.nil_append, editAll_cons, editAll_nil]
          apply modifyElement_congr
          intro e' he'
          obtain rfl := Option.some.inj (he.symm.trans he')
          simp only [hc]
          rfl
      · rw [if_neg h, if_neg h]
        rfl
  | setChecked n checked =>
    rw [Change.perform, Change.apply, setChecked, Change.edits]
    by_cases h : d.isElement n = true
    · rw [if_pos h, if_pos h, ← check_eq_editAll]
    · rw [if_neg h, if_neg h]
      rfl
  | selectOption n value =>
    rw [Change.perform, Change.apply, Change.edits]
    by_cases hs : d.isTag "select" n = true
    · rw [selectOption_eq_editAll hs, if_pos hs]
    · rw [selectOption, if_neg hs, if_neg hs]
      rfl
  | setAttribute n name value =>
    rw [Change.perform, Change.apply, setAttribute, Change.edits]
    by_cases h : d.isElement n = true
    · rw [if_pos h, if_pos h]
      dsimp only
      rw [editAll_cons]
      by_cases hid : lowerText name = "id"
      · rw [if_pos hid, if_pos hid, hid]
        rfl
      · rw [if_neg hid, if_neg hid]
        by_cases hc : lowerText name = "checked"
        · rw [if_pos hc, if_pos hc, ← check_eq_editAll]
          rfl
        · rw [if_neg hc, if_neg hc]
          rfl
    · rw [if_neg h, if_neg h]
      rfl
  | removeAttribute n name =>
    rw [Change.perform, Change.apply, removeAttribute, Change.edits]
    by_cases h : d.isElement n = true
    · rw [if_pos h, if_pos h]
      dsimp only
      rw [editAll_cons]
      by_cases hid : lowerText name = "id"
      · rw [if_pos hid, if_pos hid, hid]
        rfl
      · rw [if_neg hid, if_neg hid]
        rfl
    · rw [if_neg h, if_neg h]
      rfl

/-! ## What an edit does to each element -/

theorem nodes_releaseId (id : Option String) (n : Nat) (d : Document) :
    (d.releaseId id n).nodes = d.nodes := by
  cases id with
  | none => rfl
  | some id =>
    unfold releaseId
    dsimp only
    split <;> rfl

theorem element?_congr {d d' : Document} (h : d'.nodes = d.nodes) (m : Nat) :
    d'.element? m = d.element? m := by
  rw [element?, content?, h, element?, content?]

end Document

/-- The element that an edit is about. -/
def Edit.target : Edit → Nat
  | assign n _ _ => n
  | fill n _ => n
  | flag n _ => n
  | release n _ => n
  | claim n _ => n

/-- What an edit does to its element. -/
def Edit.change : Edit → Element → Element
  | assign _ name (some value), x => x.setAttribute name value
  | assign _ name none, x => x.removeAttribute name
  | fill _ value, x => { x with value }
  | flag _ checked, x => { x with checked }
  | release _ _, x => x
  | claim _ _, x => x

theorem Edit.attribute?_change (e : Edit) (x : Element) (a : String) :
    (e.change x).attribute? a =
      match e with
      | .assign _ name value => if a = name then value else x.attribute? a
      | _ => x.attribute? a := by
  cases e with
  | assign n name value =>
    cases value with
    | none => exact Dict.get?_erase name a x.attributes
    | some value => exact Dict.get?_insert name a value x.attributes
  | _ => rfl

theorem Edit.checked_change (e : Edit) (x : Element) :
    (e.change x).checked =
      match e with
      | .flag _ checked => checked
      | _ => x.checked := by
  cases e with
  | assign n name value => cases value <;> rfl
  | _ => rfl

namespace Document

theorem element?_edit (d : Document) (e : Edit) (m : Nat) :
    (e.perform d).element? m =
      if e.target = m then (d.element? m).map e.change else d.element? m := by
  have hid : ∀ n, d.element? m =
      if n = m then (d.element? m).map (fun x => x) else d.element? m := by
    intro n
    split
    · exact (Option.map_id' ..).symm
    · rfl
  cases e with
  | assign n name value =>
    cases value with
    | none => exact element?_modifyElement n m _ d
    | some value => exact element?_modifyElement n m _ d
  | fill n value => exact element?_modifyElement n m _ d
  | flag n checked => exact element?_modifyElement n m _ d
  | release n id => exact (element?_congr (nodes_releaseId id n d) m).trans (hid n)
  | claim n id => exact (element?_congr rfl m).trans (hid n)

theorem sameShape_edit (d : Document) (e : Edit) : SameShape d (e.perform d) := by
  cases e with
  | assign n name value =>
    cases value with
    | none =>
      apply sameShape_modifyElement
      intro e
      rfl
    | some value =>
      apply sameShape_modifyElement
      intro e
      rfl
  | fill n value =>
    apply sameShape_modifyElement
    intro e
    rfl
  | flag n checked => exact sameShape_flag checked n d
  | release n id => exact sameShape_releaseId id n d
  | claim n id => exact sameShape_claimId id n d

/-- An edit of another attribute, or of none, leaves an attribute. -/
theorem attribute?_edit (d : Document) {e : Edit} {a : String}
    (h : ∀ n value, e ≠ .assign n a value) (m : Nat) :
    (e.perform d).attribute? m a = d.attribute? m a := by
  have hchange : ∀ x : Element, (e.change x).attribute? a = x.attribute? a := by
    intro x
    rw [Edit.attribute?_change]
    cases e with
    | assign n name value =>
      dsimp only
      rw [if_neg]
      rintro rfl
      exact h n value rfl
    | _ => rfl
  rw [attribute?, element?_edit, attribute?]
  split
  · cases d.element? m with
    | none => rfl
    | some x => exact hchange x
  · rfl

/-- Setting or removing an attribute of an element. -/
theorem attribute?_assign (d : Document) {n : Nat} (h : d.isElement n = true) (name : String)
    (value : Option String) (m : Nat) :
    ((Edit.assign n name value).perform d).attribute? m name =
      if n = m then value else d.attribute? m name := by
  rw [attribute?, element?_edit, Edit.target, attribute?]
  split
  · rename_i hm
    subst hm
    obtain ⟨x, hx⟩ := isElement_iff.1 h
    rw [hx, Option.map_some, Option.bind_some, Edit.attribute?_change]
    exact if_pos rfl
  · rfl

/-- An edit that is not about the checked flag leaves it. -/
theorem checked?_edit (d : Document) {e : Edit} (h : ∀ n checked, e ≠ .flag n checked) (m : Nat) :
    (e.perform d).checked? m = d.checked? m := by
  have hchange : ∀ x : Element, (e.change x).checked = x.checked := by
    intro x
    rw [Edit.checked_change]
    cases e with
    | flag n checked => exact absurd rfl (h n checked)
    | _ => rfl
  rw [checked?, element?_edit, checked?]
  split
  · cases d.element? m with
    | none => rfl
    | some x => exact congrArg some (hchange x)
  · rfl

theorem checked?_flag (d : Document) (n m : Nat) (checked : Bool) :
    ((Edit.flag n checked).perform d).checked? m =
      if n = m then (d.checked? m).map fun _ => checked else d.checked? m := by
  rw [checked?, element?_edit, Edit.target, checked?]
  split
  · cases d.element? m <;> rfl
  · rfl

/-- An edit that is not about an identifier leaves the identifiers. -/
theorem ids_edit (d : Document) {e : Edit} (hr : ∀ n id, e ≠ .release n id)
    (hc : ∀ n id, e ≠ .claim n id) : (e.perform d).ids = d.ids := by
  cases e with
  | assign n name value => cases value <;> rfl
  | fill n value => rfl
  | flag n checked => rfl
  | release n id => exact absurd rfl (hr n id)
  | claim n id => exact absurd rfl (hc n id)

/-- What every edit of a list keeps is kept by all of them together. -/
theorem editAll_induction {R : Document → Document → Prop} (hrefl : ∀ d, R d d)
    (htrans : ∀ d d' d'', R d d' → R d' d'' → R d d'') {edits : List Edit}
    (h : ∀ e ∈ edits, ∀ d, R d (e.perform d)) (d : Document) : R d (d.editAll edits) :=
  foldl_related hrefl htrans h d

theorem attribute?_editAll {edits : List Edit} {a : String}
    (h : ∀ e ∈ edits, ∀ n value, e ≠ .assign n a value) (d : Document) (m : Nat) :
    (d.editAll edits).attribute? m a = d.attribute? m a := by
  revert m
  apply editAll_induction (R := fun d d' => ∀ m, d'.attribute? m a = d.attribute? m a)
    (fun _ _ => rfl) (fun _ _ _ h h' m => (h' m).trans (h m))
  intro e he d m
  exact attribute?_edit d (h e he) m

/-! ## The edits of a change -/

theorem mem_checkEdits {d : Document} {checked : Bool} {n : Nat} {e : Edit}
    (h : e ∈ d.checkEdits checked n) : ∃ m b, e = .flag m b := by
  rw [checkEdits, List.mem_append, List.mem_map, List.mem_singleton] at h
  obtain ⟨m, -, rfl⟩ | rfl := h
  · exact ⟨m, false, rfl⟩
  · exact ⟨n, checked, rfl⟩

theorem mem_selectEdits {d : Document} {n : Nat} {value : String} {e : Edit}
    (h : e ∈ d.selectEdits n value) : ∃ m selected, e = .assign m "selected" selected := by
  rw [selectEdits, List.mem_map] at h
  obtain ⟨m, -, rfl⟩ := h
  exact ⟨m, _, rfl⟩

/-- The edits of a change are among those that it covers. -/
theorem mem_edits {d : Document} {c : Change} {e : Edit} (h : e ∈ c.edits d) : c.Covers e := by
  cases c with
  | setValue n value =>
    rw [Change.edits] at h
    split at h
    · obtain ⟨m, selected, rfl⟩ := mem_selectEdits h
      simp [Change.Covers, Change.attributes]
    · split at h
      · rw [List.mem_append, List.mem_singleton] at h
        obtain h | rfl := h
        · split at h
          · rw [List.mem_singleton] at h
            subst h
            simp [Change.Covers, Change.attributes]
          · cases h
        · trivial
      · cases h
  | setChecked n checked =>
    rw [Change.edits] at h
    split at h
    · obtain ⟨m, b, rfl⟩ := mem_checkEdits h
      rfl
    · cases h
  | selectOption n value =>
    rw [Change.edits] at h
    split at h
    · obtain ⟨m, selected, rfl⟩ := mem_selectEdits h
      simp [Change.Covers, Change.attributes]
    · cases h
  | setAttribute n name value =>
    rw [Change.edits] at h
    split at h
    · rw [List.mem_cons] at h
      obtain rfl | h := h
      · simp [Change.Covers, Change.attributes]
      · split at h
        · rename_i hid
          rw [List.mem_pair] at h
          obtain rfl | rfl := h <;> simp [Change.Covers, Change.attributes, hid]
        · split at h
          · rename_i hc
            obtain ⟨m, b, rfl⟩ := mem_checkEdits h
            simp [Change.Covers, Change.checks, hc]
          · cases h
    · cases h
  | removeAttribute n name =>
    rw [Change.edits] at h
    split at h
    · rw [List.mem_cons] at h
      obtain rfl | h := h
      · simp [Change.Covers, Change.attributes]
      · split at h
        · rename_i hid
          rw [List.mem_singleton] at h
          subst h
          simp [Change.Covers, Change.attributes, hid]
        · cases h
    · cases h

/-- What every edit that a change covers keeps is kept by the change. -/
theorem perform_induction {R : Document → Document → Prop} (hrefl : ∀ d, R d d)
    (htrans : ∀ d d' d'', R d d' → R d' d'' → R d d'') {c : Change}
    (h : ∀ e, c.Covers e → ∀ d, R d (e.perform d)) (d : Document) : R d (c.perform d) := by
  rw [perform_eq_editAll]
  apply editAll_induction hrefl htrans
  intro e he
  exact h e (mem_edits he)

/-! ## What a change keeps -/

/-- No change touches the shape. -/
theorem sameShape_perform (d : Document) (c : Change) : SameShape d (c.perform d) := by
  apply perform_induction SameShape.refl (fun _ _ _ h h' => h.trans h')
  intro e _ d
  exact sameShape_edit d e

/-- A change leaves the attributes that it is not about. -/
theorem attribute?_perform (d : Document) {c : Change} {a : String} (h : a ∉ c.attributes)
    (m : Nat) : (c.perform d).attribute? m a = d.attribute? m a := by
  rw [perform_eq_editAll]
  apply attribute?_editAll
  rintro e he n value rfl
  exact h (mem_edits he)

/-- The edits of a change of an attribute: it is assigned, and no other one is. -/
theorem edits_of_assigns? {c : Change} {n : Nat} {a : String} {v : Option String}
    (hc : c.assigns? = some (n, a, v)) {d : Document} (h : d.isElement n = true) :
    ∃ rest, c.edits d = .assign n a v :: rest ∧ ∀ e ∈ rest, ∀ k b w, e ≠ .assign k b w := by
  cases c with
  | setAttribute k name value =>
    cases hc
    rw [Change.edits, if_pos h]
    refine ⟨_, rfl, ?_⟩
    rintro e he k b w rfl
    split at he
    · simp at he
    · split at he
      · obtain ⟨m, checked, hflag⟩ := mem_checkEdits he
        cases hflag
      · cases he
  | removeAttribute k name =>
    cases hc
    rw [Change.edits, if_pos h]
    refine ⟨_, rfl, ?_⟩
    rintro e he k b w rfl
    split at he
    · simp at he
    · cases he
  | _ => cases hc

/-- A change of an attribute of an element changes this one alone. -/
theorem attribute?_perform_of_assigns? {c : Change} {n : Nat} {a : String} {v : Option String}
    (hc : c.assigns? = some (n, a, v)) {d : Document} (h : d.isElement n = true) (m : Nat)
    (b : String) :
    (c.perform d).attribute? m b = if n = m ∧ a = b then v else d.attribute? m b := by
  by_cases hb : a = b
  · subst hb
    obtain ⟨rest, hedits, hrest⟩ := edits_of_assigns? hc h
    simp only [and_true]
    rw [perform_eq_editAll, hedits, editAll_cons, ← attribute?_assign d h]
    exact attribute?_editAll (fun e he k w => hrest e he k a w) _ m
  · rw [if_neg (fun hm => hb hm.2)]
    apply attribute?_perform
    rw [Change.attributes_of_assigns? hc, List.mem_singleton]
    exact Ne.symm hb

/-- What is no element has no attributes to change. -/
theorem perform_of_not_isElement {c : Change} {n : Nat} {a : String} {v : Option String}
    (hc : c.assigns? = some (n, a, v)) {d : Document} (h : d.isElement n ≠ true) :
    c.perform d = d := by
  cases c with
  | setAttribute k name value =>
    cases hc
    rw [perform_eq_editAll, Change.edits, if_neg h, editAll_nil]
  | removeAttribute k name =>
    cases hc
    rw [perform_eq_editAll, Change.edits, if_neg h, editAll_nil]
  | _ => cases hc

/-- A change that does not check or uncheck leaves the checked flags. -/
theorem checked?_perform (d : Document) {c : Change} (h : c.checks = false) (m : Nat) :
    (c.perform d).checked? m = d.checked? m := by
  revert m
  apply perform_induction (R := fun d d' => ∀ m, d'.checked? m = d.checked? m)
    (fun _ _ => rfl) (fun _ _ _ h h' m => (h' m).trans (h m))
  intro e he d m
  apply checked?_edit
  rintro n checked rfl
  have hc : c.checks = true := he
  rw [h] at hc
  cases hc

/-- A change that is not about identifiers leaves them. -/
theorem ids_perform (d : Document) {c : Change} (h : "id" ∉ c.attributes) :
    (c.perform d).ids = d.ids := by
  apply perform_induction (R := fun d d' => d'.ids = d.ids) (fun _ => rfl)
    (fun _ _ _ h h' => h'.trans h)
  intro e he d
  apply ids_edit
  · rintro n id rfl
    exact h he
  · rintro n id rfl
    exact h he

/-! ## Runs -/

theorem run_append (d : Document) (s t : List Change) : d.run (s ++ t) = (d.run s).run t :=
  List.foldl_append

/-- What every change keeps is kept by a run. -/
theorem run_invariant {P : Document → Prop} (h : ∀ d (c : Change), P d → P (c.perform d))
    {d : Document} (hd : P d) (changes : List Change) : P (d.run changes) := by
  induction changes generalizing d with
  | nil => exact hd
  | cons c changes ih => exact ih (h d c hd)

theorem sameShape_run (d : Document) (changes : List Change) : SameShape d (d.run changes) :=
  run_invariant (P := SameShape d) (fun d' c h => h.trans (sameShape_perform d' c))
    (SameShape.refl d) changes

/-- If only bad changes break a property, it holds all along a run exactly when no change of the
run is bad. -/
theorem forall_run_iff {I P : Document → Prop} {Bad : Document → Change → Prop}
    (hI : ∀ d (c : Change), I d → I (c.perform d))
    (hP : ∀ d (c : Change), I d → P d → (P (c.perform d) ↔ ¬ Bad d c)) {d : Document}
    (hd : I d) (hPd : P d) (changes : List Change) :
    (∀ s t, changes = s ++ t → P (d.run s)) ↔
      ∀ s c t, changes = s ++ c :: t → ¬ Bad (d.run s) c := by
  have hstep : ∀ s c, d.run (s ++ [c]) = c.perform (d.run s) := by
    intro s c
    rw [run_append]
    rfl
  constructor
  · intro h s c t hs
    have hbefore : P (d.run s) := h s (c :: t) hs
    have hafter : P (c.perform (d.run s)) := by
      rw [← hstep]
      exact h (s ++ [c]) t (by rw [hs, List.append_assoc, List.singleton_append])
    exact (hP (d.run s) c (run_invariant hI hd s) hbefore).1 hafter
  · intro h s
    induction s using List.reverseRecOn with
    | nil =>
      intro t _
      exact hPd
    | append_singleton s c ih =>
      intro t hs
      rw [List.append_assoc, List.singleton_append] at hs
      rw [hstep]
      exact (hP (d.run s) c (run_invariant hI hd s) (ih (c :: t) hs)).2 (h s c t hs)

end Document

end FormRules
