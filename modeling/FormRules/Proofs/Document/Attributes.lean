import FormRules.Document.Control
import FormRules.Proofs.Document.Building
import FormRules.Validator.Session

/-!
# Reading attributes back

The names of attributes are written in lower case, by the reader of markup and by every change, and
they are looked up as they are asked for. So an attribute that was set is reported under its name in
lower case, and under the name it was set with only if this is in lower case too. A name with a
capital letter is never found.

* `NamesLower`: all names of attributes are in lower case; `ofHtml_namesLower` for every document
  that was read and changed.
* `Reports`: what a node and its views report under a name.
* `reports_perform`, `sameReports_perform`: what a change of an attribute does to the reports.
* `NamesLower.validate_of_capital`: the rules under a name with a capital letter are never met.
* `ofHtml_reports_assigned`: what is reported after an attribute was set or removed.
-/

namespace FormRules

open Markup (Attributes Token)

namespace Document

variable {d d' : Document}

/-! ## Names in lower case -/

/-- All names of attributes are in lower case. -/
def NamesLower (d : Document) : Prop :=
  ∀ n a s, d.attribute? n a = some s → lowerText a = a

/-- A name with a capital letter is not found. -/
theorem NamesLower.attribute?_eq_none (h : d.NamesLower) {a : String} (ha : lowerText a ≠ a)
    (n : Nat) : d.attribute? n a = none := by
  rw [Option.eq_none_iff_forall_ne_some]
  intro s hs
  exact ha (h n a s hs)

theorem namesLower_empty : empty.NamesLower := by
  intro n a s h
  have helement : empty.element? n = none := by
    cases n <;> rfl
  rw [attribute?, helement] at h
  cases h

theorem NamesLower.addText (h : d.NamesLower) (p : Nat) (s : String) :
    (d.addText p s).NamesLower := by
  intro n a s' hs
  rw [attribute?, element?_addText] at hs
  exact h n a s' hs

theorem NamesLower.addElement (h : d.NamesLower) (p : Nat) (tag : String)
    {attributes : Attributes} (ha : attributes.Lower) :
    (d.addElement p (.ofTag tag attributes)).NamesLower := by
  intro n a s hs
  rw [attribute?, element?_addElement] at hs
  split at hs
  · exact ha a s hs
  · exact h n a s hs

theorem NamesLower.edit (h : d.NamesLower) {e : Edit}
    (he : ∀ n a v, e = .assign n a v → lowerText a = a) : (e.perform d).NamesLower := by
  intro n a s hs
  by_cases ha : ∃ m v, e = .assign m a v
  · obtain ⟨m, v, rfl⟩ := ha
    exact he m a v rfl
  · rw [attribute?_edit d (fun m v hassign => ha ⟨m, v, hassign⟩)] at hs
    exact h n a s hs

theorem namesLower_ofTokens {tokens : List Token} (h : ∀ token ∈ tokens, token.Lower) :
    (ofTokens tokens).NamesLower := by
  have hbuilt : (tokens.foldl Builder.push {}).document.NamesLower :=
    Builder.foldl_push_induction_of (Q := Attributes.Lower) (fun d p s h => h.addText p s)
      (fun d p tag _ ha h => h.addElement p tag ha) namesLower_empty h
  revert hbuilt
  apply finish_related (R := fun d d' => d.NamesLower → d'.NamesLower) (fun _ h => h)
    (fun _ _ _ h h' hd => h' (h hd))
  · intro d n value h
    exact h.edit (by rintro m a v ⟨⟩)
  · intro d n checked h
    exact h.edit (by rintro m a v ⟨⟩)

/-- A change writes names in lower case. -/
theorem lowerText_of_mem_attributes {c : Change} {a : String} (h : a ∈ c.attributes) :
    lowerText a = a := by
  have hvalue : lowerText "value" = "value" := by decide +kernel
  have hselected : lowerText "selected" = "selected" := by decide +kernel
  cases c with
  | setValue n value =>
    rw [Change.attributes, List.mem_pair] at h
    obtain rfl | rfl := h
    · exact hvalue
    · exact hselected
  | setChecked n checked => cases h
  | selectOption n value =>
    rw [Change.attributes, List.mem_singleton] at h
    rw [h, hselected]
  | setAttribute n name value =>
    rw [Change.attributes, List.mem_singleton] at h
    rw [h, lowerText_lowerText]
  | removeAttribute n name =>
    rw [Change.attributes, List.mem_singleton] at h
    rw [h, lowerText_lowerText]

theorem NamesLower.perform (h : d.NamesLower) (c : Change) : (c.perform d).NamesLower := by
  revert h
  apply perform_induction (R := fun d d' => d.NamesLower → d'.NamesLower) (fun _ h => h)
    (fun _ _ _ h h' hd => h' (h hd))
  intro e he d h
  apply h.edit
  rintro n a v rfl
  exact lowerText_of_mem_attributes he

/-- In a document that was read, and all along a run of changes, names are in lower case. -/
theorem ofHtml_namesLower {html : String} (hd : ofHtml html = .ok d) (changes : List Change) :
    (d.run changes).NamesLower := by
  have hread : d.NamesLower := by
    obtain ⟨tokens, hscan, rfl⟩ := exists_scan_of_ofHtml hd
    exact namesLower_ofTokens (Token.lower_of_scan hscan)
  exact run_invariant (fun _ c h => h.perform c) hread changes

/-! ## Reports -/

/-- What a node, and each of its views that there is, reports under the name of an attribute. -/
structure Reports (d : Document) (n : Nat) (a : String) (v : Option String) : Prop where
  node : d.attribute? n a = v
  control : ∀ c, d.control? n = some c → FormRules.attribute? c a = v
  form : ∀ f, d.formNode? n = some f → FormRules.attribute? f a = v
  element : ∀ e, d.elementNode? n = some e → FormRules.attribute? e a = v

/-- All views report what the node reports. -/
theorem reports_iff {n : Nat} {a : String} {v : Option String} :
    d.Reports n a v ↔ d.attribute? n a = v := by
  constructor
  · exact Reports.node
  · intro h
    refine ⟨h, ?_, ?_, ?_⟩
    · intro c hc
      obtain ⟨kind, -, rfl⟩ := Option.map_eq_some_iff.1 hc
      exact h
    · intro f hf
      rw [formNode?] at hf
      split at hf
      · cases hf
        exact h
      · cases hf
    · intro e he
      rw [elementNode?] at he
      split at he
      · cases he
        exact h
      · cases he

/-! ## Setting and removing -/

/-- Two documents report the same, but for the attribute of one name, in any case, of one node. -/
def SameReports (d d' : Document) (n : Nat) (a : String) : Prop :=
  ∀ m b, m ≠ n ∨ lowerText b ≠ lowerText a → ∀ v, d'.Reports m b v ↔ d.Reports m b v

section Assigns

variable {c : Change} {n : Nat} {a : String} {v : Option String}

/-- No change of an attribute of an element is refused. -/
theorem apply_of_assigns? (hc : c.assigns? = some (n, a, v)) (h : d.isElement n = true) :
    c.apply d = .ok (c.perform d) := by
  have hok : ∃ d', c.apply d = .ok d' := by
    cases c with
    | setAttribute k name value =>
      cases hc
      rw [Change.apply, setAttribute, if_pos h]
      dsimp only
      split
      · exact ⟨_, rfl⟩
      · split <;> exact ⟨_, rfl⟩
    | removeAttribute k name =>
      cases hc
      rw [Change.apply, removeAttribute, if_pos h]
      exact ⟨_, rfl⟩
    | _ => cases hc
  obtain ⟨d', hd'⟩ := hok
  rw [Change.perform, hd']

theorem reports_perform (hc : c.assigns? = some (n, a, v)) (h : d.isElement n = true) :
    (c.perform d).Reports n a v := by
  rw [reports_iff, attribute?_perform_of_assigns? hc h, if_pos ⟨rfl, rfl⟩]

/-- Under a name with a capital letter nothing is reported, whatever was written. -/
theorem reports_perform_of_capital (hd : d.NamesLower) (c : Change) (ha : lowerText a ≠ a)
    (n : Nat) : (c.perform d).Reports n a none := by
  rw [reports_iff]
  exact (hd.perform c).attribute?_eq_none ha n

theorem sameReports_perform (hc : c.assigns? = some (n, lowerText a, v))
    (h : d.isElement n = true) : SameReports d (c.perform d) n a := by
  intro m b hother v'
  rw [reports_iff, reports_iff, attribute?_perform_of_assigns? hc h, if_neg]
  rintro ⟨rfl, hb⟩
  obtain hm | hcase := hother
  · exact hm rfl
  · -- The name that is written is its own lower case.
    apply hcase
    rw [← hb, lowerText_lowerText]

end Assigns

/-- The rules of a control under a name with a capital letter are never met: no pass over the
control judges it. -/
theorem NamesLower.validate_of_capital {f : Control} (h : f.document.NamesLower)
    {v : Validator Control} (hv : lowerText v.config.ruleAttribute ≠ v.config.ruleAttribute)
    (hf : Field.isDisabled f = false) (mode : Option Mode) :
    (v.validate f mode).2 = .ok (.exempt .noRules) := by
  have hfilled : ∀ a, lowerText a ≠ a → filledAttribute? f a = none := by
    intro a ha
    have hnone : FormRules.attribute? f a = none := h.attribute?_eq_none ha f.node
    rw [filledAttribute?, hnone]
    rfl
  have hmode : ∀ m, lowerText (v.config.modeRuleAttribute m) ≠ v.config.modeRuleAttribute m := by
    intro m hlower
    rw [Config.modeRuleAttribute, lowerText_append_eq_iff, lowerText_append_eq_iff] at hlower
    exact hv hlower.1.1
  have hrules : v.rules? f mode = none := by
    rw [Validator.rules?, hfilled _ hv]
    cases mode with
    | none => rfl
    | some m => exact congrArg (· <|> none) (hfilled _ (hmode m))
  rw [Validator.validate, if_neg (by simp [hf]), hrules]

/-- **Reading attributes back.** In every document that was read and changed, an attribute that is
set on an element is reported under its name in lower case, and under the name that it was set with
exactly when this is in lower case. An attribute that is removed is no longer reported. Neither
touches any other attribute. -/
theorem ofHtml_reports_assigned {html : String} (hd : ofHtml html = .ok d) (changes : List Change)
    {n : Nat} (h : (d.run changes).isElement n = true) (a : String) :
    (∀ value, ∃ d', (d.run changes).setAttribute n a value = .ok d' ∧
      d'.Reports n (lowerText a) (some value) ∧
      (d'.Reports n a (some value) ↔ lowerText a = a) ∧
      (lowerText a ≠ a → d'.Reports n a none) ∧
      SameReports (d.run changes) d' n a) ∧
    ∃ d', (d.run changes).removeAttribute n a = .ok d' ∧
      d'.Reports n (lowerText a) none ∧
      d'.Reports n a none ∧
      SameReports (d.run changes) d' n a := by
  have hlower : (d.run changes).NamesLower := ofHtml_namesLower hd changes
  constructor
  · intro value
    have hc : (Change.setAttribute n a value).assigns? = some (n, lowerText a, some value) := rfl
    have hset := reports_perform hc h
    have hcapital := reports_perform_of_capital hlower (.setAttribute n a value) (a := a)
    refine ⟨_, apply_of_assigns? hc h, hset, ⟨?_, ?_⟩, fun ha => hcapital ha n,
      sameReports_perform hc h⟩
    · intro hreads
      by_contra ha
      cases hreads.node.symm.trans (hcapital ha n).node
    · intro ha
      rwa [ha] at hset
  · have hc : (Change.removeAttribute n a).assigns? = some (n, lowerText a, none) := rfl
    have hremoved := reports_perform hc h
    refine ⟨_, apply_of_assigns? hc h, hremoved, ?_, sameReports_perform hc h⟩
    by_cases ha : lowerText a = a
    · rwa [ha] at hremoved
    · exact reports_perform_of_capital hlower _ ha n

/-- A control without attributes. -/
def bareInput : String := "<input>"

/-- Rules that are set under a name with a capital letter are not found under it. -/
theorem not_reports_capital_bareInput :
    ∃ d, ofHtml bareInput = .ok d ∧
      ∃ d', d.setAttribute 1 "data-Validate" "required" = .ok d' ∧
        d'.attribute? 1 "data-Validate" = none ∧
        d'.attribute? 1 "data-validate" = some "required" := by
  let c : Change := .setAttribute 1 "data-Validate" "required"
  have hread : (ofHtml bareInput).toOption.map (fun d =>
      (d.isElement 1, (c.perform d).attribute? 1 "data-Validate",
        (c.perform d).attribute? 1 "data-validate")) = some (true, none, some "required") := by
    decide +kernel
  obtain ⟨d, hd, hafter⟩ := exists_of_map_ofHtml hread
  obtain ⟨helement, hnames⟩ := Prod.mk.inj hafter
  obtain ⟨hcapital, hlower⟩ := Prod.mk.inj hnames
  exact ⟨d, hd, _, apply_of_assigns? (c := c) rfl helement, hcapital, hlower⟩

/-- Rules that are set under a name in lower case are found under it. -/
theorem reports_assigned_bareInput :
    ∃ d, ofHtml bareInput = .ok d ∧ ∃ d₁, d₁ = d.run [.setAttribute 1 "ID" "a"] ∧
      d₁.isElement 1 = true ∧ ∃ d', d₁.setAttribute 1 "data-validate" "required" = .ok d' ∧
        d'.Reports 1 "data-validate" (some "required") := by
  let changes : List Change := [.setAttribute 1 "ID" "a"]
  have hread : (ofHtml bareInput).toOption.map (fun d => (d.run changes).isElement 1) =
      some true := by decide +kernel
  obtain ⟨d, hd, helement⟩ := exists_of_map_ofHtml hread
  have hset := (ofHtml_reports_assigned hd changes helement "data-validate").1 "required"
  obtain ⟨d', hd', -, hgiven, -⟩ := hset
  exact ⟨d, hd, _, rfl, helement, d', hd', hgiven.2 (by decide +kernel)⟩

end Document

end FormRules
