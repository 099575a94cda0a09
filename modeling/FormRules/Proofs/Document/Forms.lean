import FormRules.Document.Control
import FormRules.Proofs.Document.Building

/-!
# Forms and their controls

A form is submitted with all controls under it, and a change of a control marks the nearest form
above it. The two are one and the same only where no form stands in another: a control in a form
inside a form is submitted with both, and marks the inner one.

* `nearest?_eq_some_iff`: the nearest element above a node has the largest number.
* `mem_controlsOf`: the controls of a node are those that it is above.
* `FormBetween`: a form stands between a form and a node.
* `ofHtml_owningForm?_iff`: the owner of a control among the forms that are submitted with it.
-/

namespace FormRules.Document

variable {d : Document}

/-! ## The nearest element above a node -/

/-- The nodes above a node are met from the inside to the outside. -/
theorem pairwise_ancestors (d : Document) (n : Nat) : (d.ancestors n).Pairwise (· > ·) := by
  induction n using Nat.strongRecOn with
  | ind n ih =>
    rw [ancestors]
    split
    · exact List.Pairwise.nil
    · split
      · rename_i p _ hp
        rw [List.pairwise_cons]
        exact ⟨fun a ha => lt_of_mem_ancestors ha, ih p hp⟩
      · exact List.Pairwise.nil

/-- The nearest element above a node with a tag is the one with the largest number. -/
theorem nearest?_eq_some_iff {tag : String} {n a : Nat} :
    d.nearest? tag n = some a ↔
      a ∈ d.ancestors n ∧ d.isTag tag a = true ∧
        ∀ b ∈ d.ancestors n, d.isTag tag b = true → b ≤ a := by
  rw [nearest?,
    find?_eq_some_iff_of_pairwise (fun _ _ h => Nat.lt_asymm h) (pairwise_ancestors d n)]
  simp only [Nat.le_iff_lt_or_eq, or_comm (b := _ = a)]

/-- Of two nodes above a node the one with the smaller number is above the other. -/
theorem Ordered.mem_ancestors_of_lt (h : d.Ordered) {a b n : Nat} (ha : a ∈ d.ancestors n)
    (hb : b ∈ d.ancestors n) (hlt : a < b) : a ∈ d.ancestors b :=
  h.mem_ancestors_of_le ha hlt (Nat.le_of_lt (lt_of_mem_ancestors hb))

/-! ## Controls -/

/-- The controls of a node are those that it is above. -/
theorem Ordered.mem_controlsOf (h : d.Ordered) {f n : Nat} :
    n ∈ d.controlsOf f ↔ (d.fieldKind? n).isSome = true ∧ f ∈ d.ancestors n := by
  rw [controlsOf, List.mem_filter, h.mem_descendants]
  constructor
  · rintro ⟨⟨-, hf⟩, hkind⟩
    exact ⟨hkind, hf⟩
  · rintro ⟨hkind, hf⟩
    exact ⟨⟨isElement_of_fieldKind? hkind, hf⟩, hkind⟩

/-- A form is submitted with its controls. -/
theorem map_node_controls (d : Document) (f : Nat) :
    (Form.controls (⟨d, f⟩ : FormNode)).map Control.node = d.controlsOf f := by
  show ((d.controlsOf f).filterMap d.control?).map Control.node = d.controlsOf f
  rw [List.map_filterMap]
  have hnode : ∀ n ∈ d.controlsOf f, (d.control? n).map Control.node = some n := by
    intro n hn
    obtain ⟨kind, hkind⟩ := Option.isSome_iff_exists.1 (List.mem_filter.1 hn).2
    rw [control?, hkind]
    rfl
  rw [List.filterMap_congr hnode, List.filterMap_some]

/-- The view of the form that owns a node, which is what a change of the node marks. -/
theorem bind_formNode?_owningForm? (d : Document) (n : Nat) :
    (d.owningForm? n).bind d.formNode? = (d.owningForm? n).map (⟨d, ·⟩) := by
  cases hf : d.owningForm? n with
  | none => rfl
  | some f =>
    have htag : d.isTag "form" f = true := List.find?_some hf
    rw [Option.bind_some, formNode?, if_pos htag]
    rfl

/-! ## Forms in forms -/

/-- Some form stands between a form and a node under it. -/
def FormBetween (d : Document) (f n : Nat) : Prop :=
  ∃ g, d.isTag "form" g = true ∧ f ∈ d.ancestors g ∧ g ∈ d.ancestors n

/-- A control belongs to the innermost of the forms that it is submitted with. -/
theorem Ordered.owningForm?_eq_some_iff (h : d.Ordered) {f n : Nat}
    (hf : d.isTag "form" f = true) :
    d.owningForm? n = some f ↔ f ∈ d.ancestors n ∧ ¬ d.FormBetween f n := by
  rw [owningForm?, nearest?_eq_some_iff]
  constructor
  · rintro ⟨hmem, -, hle⟩
    refine ⟨hmem, ?_⟩
    rintro ⟨g, hg, hfg, hgn⟩
    have hlt : f < g := lt_of_mem_ancestors hfg
    have hgf : g ≤ f := hle g hgn hg
    omega
  · rintro ⟨hmem, hbetween⟩
    refine ⟨hmem, hf, ?_⟩
    intro g hgn hg
    by_contra hlt
    exact hbetween ⟨g, hg, h.mem_ancestors_of_lt hmem hgn (Nat.lt_of_not_le hlt), hgn⟩

/-- **Forms and their controls.** A form is submitted with the controls under it, and a change of a
control marks the form that owns it. A form owns a control when it is submitted with the control and
no other form stands between them. Of two forms that are submitted with one control, one stands in
the other. -/
theorem ofHtml_owningForm?_iff {html : String} {d : Document} (hd : ofHtml html = .ok d) {f : Nat}
    (hf : d.isTag "form" f = true) (n : Nat) :
    (Form.controls (⟨d, f⟩ : FormNode)).map Control.node = d.controlsOf f ∧
    (d.owningForm? n).bind d.formNode? = (d.owningForm? n).map (⟨d, ·⟩) ∧
    (n ∈ d.controlsOf f ↔ (d.fieldKind? n).isSome = true ∧
      Relation.TransGen (fun m p => d.parent? m = some p) n f) ∧
    ((d.fieldKind? n).isSome = true ∧ d.owningForm? n = some f ↔
      n ∈ d.controlsOf f ∧ ¬ d.FormBetween f n) ∧
    (∀ g, d.isTag "form" g = true → n ∈ d.controlsOf f → n ∈ d.controlsOf g →
      f = g ∨ f ∈ d.descendants g ∨ g ∈ d.descendants f) := by
  have h : d.Ordered := ordered_ofHtml hd
  refine ⟨map_node_controls d f, bind_formNode?_owningForm? d n, ?_, ?_, ?_⟩
  · rw [h.mem_controlsOf, h.mem_ancestors_iff]
  · rw [h.mem_controlsOf, h.owningForm?_eq_some_iff hf, and_assoc]
  · intro g hg hnf hng
    rw [h.mem_controlsOf] at hnf hng
    rw [h.mem_descendants, h.mem_descendants]
    obtain hlt | heq | hlt := Nat.lt_trichotomy f g
    · exact .inr (.inr ⟨isElement_of_isTag hg, h.mem_ancestors_of_lt hnf.2 hng.2 hlt⟩)
    · exact .inl heq
    · exact .inr (.inl ⟨isElement_of_isTag hf, h.mem_ancestors_of_lt hng.2 hnf.2 hlt⟩)

/-- A form in a form, with a control in the inner one and a control behind that one. -/
def nestedForms : String := "<form><form><input></form><select></select></form>"

theorem nestedForms_reading :
    ∃ d, ofHtml nestedForms = .ok d ∧
      (d.forms, d.controlsOf 1, d.controlsOf 2, d.owningForm? 3, d.owningForm? 4) =
        ([1, 2], [3, 4], [3], some 2, some 1) := by
  apply exists_of_map_ofHtml
  decide +kernel

/-- The inner control is submitted with both forms, and a change of it marks the inner one only. -/
theorem owningForm?_nestedForms :
    ∃ d, ofHtml nestedForms = .ok d ∧ 1 ∈ d.forms ∧ 2 ∈ d.forms ∧ 3 ∈ d.controlsOf 1 ∧
      3 ∈ d.controlsOf 2 ∧ d.owningForm? 3 = some 2 := by
  obtain ⟨d, hd, hread⟩ := nestedForms_reading
  simp only [Prod.mk.injEq] at hread
  obtain ⟨hforms, houter, hinner, howner, -⟩ := hread
  refine ⟨d, hd, ?_, ?_, ?_, ?_, howner⟩
  · simp [hforms]
  · simp [hforms]
  · simp [houter]
  · simp [hinner]

/-- The inner form stands between the outer one and the inner control, and does not between the
outer one and the outer control. -/
theorem formBetween_nestedForms :
    ∃ d, ofHtml nestedForms = .ok d ∧ d.isTag "form" 1 = true ∧ d.FormBetween 1 3 ∧
      ¬ d.FormBetween 1 4 ∧ (1 = 2 ∨ 1 ∈ d.descendants 2 ∨ 2 ∈ d.descendants 1) := by
  obtain ⟨d, hd, hread⟩ := nestedForms_reading
  simp only [Prod.mk.injEq] at hread
  obtain ⟨hforms, houter, hinner, howner, howner'⟩ := hread
  have hform : ∀ f ∈ d.forms, d.isTag "form" f = true := fun f hf => (List.mem_filter.1 hf).2
  have hone : d.isTag "form" 1 = true := hform 1 (by simp [hforms])
  have htwo : d.isTag "form" 2 = true := hform 2 (by simp [hforms])
  have hthree : 3 ∈ d.controlsOf 1 := by simp [houter]
  have hfour : 4 ∈ d.controlsOf 1 := by simp [houter]
  obtain ⟨-, -, -, hin, hnested⟩ := ofHtml_owningForm?_iff hd hone 3
  obtain ⟨-, -, -, hout, -⟩ := ofHtml_owningForm?_iff hd hone 4
  refine ⟨d, hd, hone, ?_, ?_, hnested 2 htwo hthree (by simp [hinner])⟩
  · by_contra hbetween
    have h := (hin.2 ⟨hthree, hbetween⟩).2
    rw [howner] at h
    cases h
  · exact (hout.1 ⟨(List.mem_filter.1 hfour).2, howner'⟩).2

end FormRules.Document
