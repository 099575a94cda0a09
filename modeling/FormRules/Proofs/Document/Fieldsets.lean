import FormRules.Document.Control
import FormRules.Proofs.Document.Values

/-!
# Fieldsets and their first legends

Whether a control is disabled is found out on the way up from it, with an eye on the child that the
way came from. Seen from above, a disabled fieldset disables the controls under it, apart from those
under the first of its children that is a legend. Each fieldset has its own first legend, and what
stands in one is left to all other fieldsets.

* `IsFirstLegend`, `FieldsetDisables`: the view from above.
* `mem_zip_ancestors`, `eq_of_parent?`: the nodes on the way up with the children they are met from.
* `disablesFrom_iff`, `isDisabled_iff`: the two views agree.
* `ofHtml_isDisabled_iff`: controls in documents that were read and changed.
-/

namespace FormRules.Document

variable {d : Document} {n f l : Nat}

/-! ## The view from above -/

/-- The first of the children of a node that are legends. -/
structure IsFirstLegend (d : Document) (f l : Nat) : Prop where
  mem : l ∈ d.children f
  isTag : d.isTag "legend" l = true
  first : ∀ c ∈ d.children f, d.isTag "legend" c = true → l ≤ c

/-- A fieldset with the attribute disables what is under it and not under its first legend. -/
structure FieldsetDisables (d : Document) (f n : Nat) : Prop where
  isTag : d.isTag "fieldset" f = true
  hasAttribute : d.hasAttribute f "disabled" = true
  mem : n ∈ d.descendants f
  outside : ∀ l, d.IsFirstLegend f l → n ∉ d.descendants l

theorem firstLegend?_eq_some_iff : d.firstLegend? f = some l ↔ d.IsFirstLegend f l := by
  rw [firstLegend?, find?_eq_some_iff_of_increasing (pairwise_children d f)]
  exact ⟨fun ⟨hmem, htag, hfirst⟩ => ⟨hmem, htag, hfirst⟩, fun h => ⟨h.mem, h.isTag, h.first⟩⟩

/-! ## The way up -/

/-- The way up from a node: each node on it with the child that it is met from. -/
theorem Ordered.mem_zip_ancestors (h : d.Ordered) {c a : Nat} :
    (c, a) ∈ (n :: d.ancestors n).zip (d.ancestors n) ↔
      d.parent? c = some a ∧ (c = n ∨ c ∈ d.ancestors n) := by
  induction n using Nat.strongRecOn with
  | ind n ih =>
    cases hp : d.parent? n with
    | none =>
      rw [ancestors_of_none hp, List.zip_nil_right]
      constructor
      · intro hmem
        cases hmem
      · rintro ⟨hc, rfl | hmem⟩
        · rw [hp] at hc
          cases hc
        · cases hmem
    | some p =>
      rw [h.ancestors_eq hp, List.zip_cons_cons, List.mem_cons, ih p (h.lt_of_parent? hp),
        List.mem_cons, Prod.mk.injEq]
      constructor
      · rintro (⟨rfl, rfl⟩ | ⟨hc, hmem⟩)
        · exact ⟨hp, .inl rfl⟩
        · exact ⟨hc, .inr hmem⟩
      · rintro ⟨hc, rfl | hmem⟩
        · rw [hp] at hc
          exact .inl ⟨rfl, (Option.some.inj hc).symm⟩
        · exact .inr ⟨hc, hmem⟩

/-- A node on the way up is met from one child only. -/
theorem Ordered.eq_of_parent? (h : d.Ordered) {a c c' : Nat} (hc : d.parent? c = some a)
    (hc' : d.parent? c' = some a) (hn : c = n ∨ c ∈ d.ancestors n)
    (hn' : c' = n ∨ c' ∈ d.ancestors n) : c = c' := by
  have hle : ∀ {k}, k = n ∨ k ∈ d.ancestors n → k ≤ n := by
    rintro k (rfl | hk)
    · exact Nat.le_refl k
    · exact Nat.le_of_lt (lt_of_mem_ancestors hk)
  rcases Nat.lt_trichotomy c c' with hlt | heq | hlt
  · have := h.lt_of_children hc hc' hlt (hn.imp_left Eq.symm)
    have := hle hn'
    omega
  · exact heq
  · have := h.lt_of_children hc' hc hlt (hn'.imp_left Eq.symm)
    have := hle hn
    omega

/-- What is met on the way up disables a node when, seen from above, it is a fieldset that does. -/
theorem Ordered.disablesFrom_iff (h : d.Ordered) {c : Nat} (hn : d.isElement n = true)
    (hlegend : d.isTag "legend" n ≠ true) (hc : d.parent? c = some f)
    (hcn : c = n ∨ c ∈ d.ancestors n) : d.disablesFrom c f = true ↔ d.FieldsetDisables f n := by
  rw [disablesFrom, isDisabledFieldset, Bool.and_eq_true, Bool.and_eq_true, bne_iff_ne]
  constructor
  · rintro ⟨⟨htag, hattribute⟩, hfirst⟩
    have hf : f ∈ d.ancestors n := by
      have hmem : f ∈ d.ancestors c := by
        rw [h.ancestors_eq hc]
        exact List.mem_cons_self
      rcases hcn with rfl | hcn
      · exact hmem
      · exact mem_ancestors_trans hmem hcn
    refine ⟨htag, hattribute, h.mem_descendants.2 ⟨hn, hf⟩, ?_⟩
    intro l hl hmem
    -- The legend is on the way up too, so it is the child that the fieldset is met from.
    have hlf : d.parent? l = some f := h.mem_children.1 hl.mem
    have hlc : l = c := h.eq_of_parent? hlf hc (.inr (h.mem_descendants.1 hmem).2) hcn
    rw [← hlc] at hfirst
    exact hfirst (firstLegend?_eq_some_iff.2 hl)
  · intro hf
    refine ⟨⟨hf.isTag, hf.hasAttribute⟩, ?_⟩
    intro hfirst
    have hl := firstLegend?_eq_some_iff.1 hfirst
    rcases hcn with rfl | hcn
    · exact hlegend hl.isTag
    · exact hf.outside c hl (h.mem_descendants.2 ⟨hn, hcn⟩)

/-- A node that is no legend is disabled by itself or by a fieldset. -/
theorem Ordered.isDisabled_iff (h : d.Ordered) (hn : d.isElement n = true)
    (hlegend : d.isTag "legend" n ≠ true) :
    d.isDisabled n = true ↔
      d.hasAttribute n "disabled" = true ∨ ∃ f, d.FieldsetDisables f n := by
  rw [isDisabled, Bool.or_eq_true, List.any_eq_true]
  apply or_congr_right
  constructor
  · rintro ⟨⟨c, f⟩, hmem, hdisables⟩
    obtain ⟨hc, hcn⟩ := h.mem_zip_ancestors.1 hmem
    exact ⟨f, (h.disablesFrom_iff hn hlegend hc hcn).1 hdisables⟩
  · rintro ⟨f, hf⟩
    obtain ⟨c, hc, hcn⟩ := h.exists_child (h.mem_descendants.1 hf.mem).2
    exact ⟨(c, f), h.mem_zip_ancestors.2 ⟨hc, hcn⟩, (h.disablesFrom_iff hn hlegend hc hcn).2 hf⟩

/-! ## Documents that were read and changed -/

theorem isTag_of_fieldKind? (hn : (d.fieldKind? n).isSome = true) :
    d.isTag "select" n = true ∨ d.isTag "textarea" n = true ∨ d.isTag "input" n = true := by
  obtain ⟨e, he⟩ := isElement_iff.1 (isElement_of_fieldKind? hn)
  rw [fieldKind?, he, Option.bind_some, Element.fieldKind?, Element.inputType?] at hn
  simp only [isTag, he, Option.any_some]
  by_contra hnone
  simp_all

/-- A control is no legend. -/
theorem not_isTag_legend_of_fieldKind? (hn : (d.fieldKind? n).isSome = true) :
    d.isTag "legend" n ≠ true := by
  rcases isTag_of_fieldKind? hn with h | h | h
  · exact not_isTag_of_isTag h (by decide)
  · exact not_isTag_of_isTag h (by decide)
  · exact not_isTag_of_isTag h (by decide)

/-- **Inherited disabling.** In a document that was read and changed a control is disabled exactly
when it has the attribute, or stands under a fieldset with the attribute and not under the first
legend of that fieldset. A control under the first legend of a fieldset is not disabled by this one,
and still is by any other one that it stands under in this way. -/
theorem ofHtml_isDisabled_iff {html : String} {d₀ : Document} (hd : ofHtml html = .ok d₀)
    {changes : List Change} (hrun : d₀.run changes = d) {c : Control}
    (hc : d.control? n = some c) :
    (Field.isDisabled c = true ↔
      d.hasAttribute n "disabled" = true ∨ ∃ f, d.FieldsetDisables f n) ∧
    ∀ f l, d.IsFirstLegend f l → n ∈ d.descendants l →
      ¬ d.FieldsetDisables f n ∧
      ∀ f', f' ≠ f → d.FieldsetDisables f' n → Field.isDisabled c = true := by
  have h : d.Ordered := hrun ▸ (ordered_ofHtml hd).run changes
  obtain ⟨kind, hkind, rfl⟩ := Option.map_eq_some_iff.1 hc
  have hcontrol : (d.fieldKind? n).isSome = true := by rw [hkind, Option.isSome_some]
  have hiff := h.isDisabled_iff (isElement_of_fieldKind? hcontrol)
    (not_isTag_legend_of_fieldKind? hcontrol)
  refine ⟨hiff, ?_⟩
  intro f l hl hmem
  exact ⟨fun hf => hf.outside l hl hmem, fun f' _ hf' => hiff.2 (.inr ⟨f', hf'⟩)⟩

/-- A disabled fieldset in another one, with a text field in its first legend. -/
def nestedFieldsets : String :=
  "<fieldset disabled><legend></legend><fieldset disabled><legend><input></legend>" ++
    "<legend><select></select></legend></fieldset></fieldset>"

/-- In the first legend of the inner fieldset the text field is disabled by the outer one, until
this one loses the attribute. -/
theorem ofHtml_isDisabled_nestedFieldsets :
    ∃ d, ofHtml nestedFieldsets = .ok d ∧ d.IsFirstLegend 3 4 ∧ 5 ∈ d.descendants 4 ∧
      (∃ c, d.control? 5 = some c ∧ ¬ d.FieldsetDisables 3 5 ∧ d.FieldsetDisables 1 5 ∧
        Field.isDisabled c = true) ∧
      ∃ d', d.run [.removeAttribute 1 "disabled"] = d' ∧
        ∃ c, d'.control? 5 = some c ∧ ∀ f, ¬ d'.FieldsetDisables f 5 := by
  have hread : (ofHtml nestedFieldsets).toOption.map (fun d =>
      (d.isDisabledFieldset 1, [1, 2, 4].map d.descendants, [1, 3].map d.firstLegend?,
        d.fieldKind? 5)) =
      some (true, [[2, 3, 4, 5, 6, 7], [], [5]], [some 2, some 4], some .text) := by
    decide +kernel
  have hread' : (ofHtml nestedFieldsets).toOption.map (fun d =>
      let d' := d.run [.removeAttribute 1 "disabled"]
      (d'.fieldKind? 5, d'.isDisabled 5)) = some (some .text, false) := by
    decide +kernel
  obtain ⟨d, hd, hbefore⟩ := exists_of_map_ofHtml hread
  obtain ⟨d₁, hd₁, hafter⟩ := exists_of_map_ofHtml hread'
  obtain rfl : d = d₁ := Except.ok.inj (hd.symm.trans hd₁)
  generalize hrun : d.run [.removeAttribute 1 "disabled"] = d' at hafter
  simp only [List.map_cons, List.map_nil, List.cons.injEq, and_true, Prod.mk.injEq]
    at hbefore hafter
  obtain ⟨houter, ⟨hone, htwo, hfour⟩, ⟨hfirst, hinner⟩, hkind⟩ := hbefore
  obtain ⟨hkind', henabled⟩ := hafter
  have hlegend : d.IsFirstLegend 3 4 := firstLegend?_eq_some_iff.1 hinner
  have hmem : 5 ∈ d.descendants 4 := by simp [hfour]
  have hdisables : d.FieldsetDisables 1 5 := by
    rw [isDisabledFieldset, Bool.and_eq_true] at houter
    refine ⟨houter.1, houter.2, by simp [hone], ?_⟩
    intro l hl
    obtain rfl : 2 = l := by
      rw [← firstLegend?_eq_some_iff, hfirst] at hl
      exact Option.some.inj hl
    simp [htwo]
  have hc : d.control? 5 = some ⟨d, 5, .text⟩ := by rw [control?, hkind, Option.map_some]
  have hc' : d'.control? 5 = some ⟨d', 5, .text⟩ := by rw [control?, hkind', Option.map_some]
  have hstart : d.run [] = d := rfl
  have hleft := (ofHtml_isDisabled_iff hd hstart hc).2 3 4 hlegend hmem
  have hnone := (ofHtml_isDisabled_iff hd hrun hc').1
  refine ⟨d, hd, hlegend, hmem, ⟨_, hc, hleft.1, hdisables, hleft.2 1 (by decide) hdisables⟩, d',
    hrun, _, hc', ?_⟩
  intro f hf
  have hdisabled : d'.isDisabled 5 = true := hnone.2 (.inr ⟨f, hf⟩)
  rw [henabled] at hdisabled
  cases hdisabled

end FormRules.Document
