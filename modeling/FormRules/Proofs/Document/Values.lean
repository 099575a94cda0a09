import FormRules.Proofs.Document.Building

/-!
# Values of checkboxes and radio buttons

An element keeps its value beside its attributes. The value of a checkbox or radio button should be
that of its value attribute, and `on` without one. Reading sees to it, and so does whatever sets the
value. What sets the attribute alone does not, and neither does what makes another input, with a
value of its own, a checkbox or radio button.

* `kept?`, `value?_eq`, `value?_of_isCheckable`: the value that is kept, and when it counts.
* `ValuesFollow`: values are those of the attributes.
* `kept?_perform`: only setting a value changes what is kept.
* `Change.Separates`: an attribute is changed, and what is kept is not its value.
* `valuesFollow_perform_iff`: no other change separates the two.
* `ofHtml_valuesFollow_iff`: the runs of changes that separate none.
-/

namespace FormRules

namespace Document

variable {d d' : Document} {c : Change} {n : Nat}

/-! ## Checkboxes and radio buttons -/

/-- Whether a node is a checkbox or a radio button. -/
def isCheckable (d : Document) (n : Nat) : Bool := (d.element? n).any (·.isCheckable)

/-- Whether a node of a type is a checkbox or a radio button. -/
def isCheckableOf (d : Document) (n : Nat) (type : Option String) : Bool :=
  d.isTag "input" n && type.any fun t => lowerText t == "checkbox" || lowerText t == "radio"

theorem isCheckable_eq (d : Document) (n : Nat) :
    d.isCheckable n = d.isCheckableOf n (d.attribute? n "type") := by
  rw [isCheckable, isCheckableOf, isTag, attribute?]
  cases d.element? n with
  | none => rfl
  | some e =>
    show e.isCheckable = (e.isTag "input" && (e.attribute? "type").any _)
    rw [Element.isCheckable, Element.isRadio, Element.inputType?_beq (by decide +kernel),
      Element.inputType?_beq (by decide +kernel), ← Bool.and_or_distrib_left]
    cases e.attribute? "type" <;> rfl

theorem isTag_of_isCheckableOf {type : Option String} (h : d.isCheckableOf n type = true) :
    d.isTag "input" n = true := by
  rw [isCheckableOf, Bool.and_eq_true] at h
  exact h.1

theorem SameShape.isCheckable (hs : SameShape d d') (n : Nat) :
    d'.isCheckable n = d.isCheckableOf n (d'.attribute? n "type") := by
  rw [isCheckable_eq, isCheckableOf, hs.isTag, isCheckableOf]

theorem isTag_of_isCheckable (h : d.isCheckable n = true) : d.isTag "input" n = true := by
  rw [isCheckable_eq] at h
  exact isTag_of_isCheckableOf h

theorem isCheckable_congr (hs : SameShape d d')
    (htype : d'.attribute? n "type" = d.attribute? n "type") :
    d'.isCheckable n = d.isCheckable n := by
  rw [hs.isCheckable, htype, isCheckable_eq]

/-- An element has one tag. -/
theorem not_isTag_of_isTag {tag tag' : String} (h : d.isTag tag n = true) (hne : tag ≠ tag') :
    d.isTag tag' n ≠ true := by
  rw [isTag_eq, Option.any_eq_true] at h
  obtain ⟨t, ht, htag⟩ := h
  rw [isTag_eq, ht, Option.any_some, Ne, beq_iff_eq, beq_iff_eq.1 htag]
  exact hne

/-! ## The value that is kept -/

/-- The value that an element keeps beside its attributes. -/
def kept? (d : Document) (n : Nat) : Option String := (d.element? n).map Element.value

/-- The value of every checkbox and radio button is that of its attribute, and `on` without one. -/
def ValuesFollow (d : Document) : Prop :=
  ∀ n, d.isCheckable n = true → d.value? n = some ((d.attribute? n "value").getD "on")

/-- The value of an element by its tag, its attributes and what it keeps. -/
theorem value?_eq (d : Document) (n : Nat) :
    d.value? n =
      if d.isTag "select" n then some (((d.currentOption? n).map d.optionValue).getD "")
      else if d.isCheckable n ∧ d.attribute? n "value" = none then some "on"
      else d.kept? n := by
  rw [value?, isTag, isCheckable, attribute?, kept?]
  cases d.element? n with
  | none => rfl
  | some e =>
    simp only [Option.map_some, Option.any_some, Option.bind_some]
    split
    · rfl
    · split <;> rfl

/-- What a checkbox or radio button keeps counts when it has a value attribute. -/
theorem value?_of_isCheckable (h : d.isCheckable n = true) :
    d.value? n = if d.attribute? n "value" = none then some "on" else d.kept? n := by
  have hselect : d.isTag "select" n ≠ true :=
    not_isTag_of_isTag (isTag_of_isCheckable h) (by decide)
  rw [value?_eq, if_neg hselect]
  simp only [h, true_and]

theorem valuesFollow_iff :
    d.ValuesFollow ↔ ∀ n w, d.isCheckable n = true → d.attribute? n "value" = some w →
      d.kept? n = some w := by
  constructor
  · intro h n w hn hw
    have hvalue := h n hn
    rw [value?_of_isCheckable hn, hw, if_neg (Option.some_ne_none w)] at hvalue
    exact hvalue
  · intro h n hn
    rw [value?_of_isCheckable hn]
    cases hw : d.attribute? n "value" with
    | none => rfl
    | some w =>
      rw [if_neg (Option.some_ne_none w)]
      exact h n w hn hw

theorem valuesFollow_congr (hs : SameShape d d')
    (htype : ∀ n, d'.attribute? n "type" = d.attribute? n "type")
    (hvalue : ∀ n, d'.attribute? n "value" = d.attribute? n "value")
    (hkept : ∀ n, d'.kept? n = d.kept? n) : d'.ValuesFollow ↔ d.ValuesFollow := by
  have hcheckable : ∀ n, d'.isCheckable n = d.isCheckable n :=
    fun n => isCheckable_congr hs (htype n)
  simp only [valuesFollow_iff, hcheckable, hvalue, hkept]

/-! ## What an edit does to it -/

theorem kept?_fill (d : Document) (n m : Nat) (value : String) :
    ((Edit.fill n value).perform d).kept? m =
      if n = m then (d.kept? m).map fun _ => value else d.kept? m := by
  rw [kept?, element?_edit, Edit.target, kept?]
  split
  · cases d.element? m <;> rfl
  · rfl

/-- An edit that does not fill leaves what is kept. -/
theorem kept?_edit (d : Document) {e : Edit} (h : ∀ n value, e ≠ .fill n value) (m : Nat) :
    (e.perform d).kept? m = d.kept? m := by
  have hchange : ∀ x : Element, (e.change x).value = x.value := by
    intro x
    cases e with
    | assign n name value => cases value <;> rfl
    | fill n value => exact absurd rfl (h n value)
    | _ => rfl
  rw [kept?, element?_edit, kept?]
  split
  · cases d.element? m with
    | none => rfl
    | some x => exact congrArg some (hchange x)
  · rfl

theorem kept?_editAll {edits : List Edit} (h : ∀ e ∈ edits, ∀ n value, e ≠ .fill n value)
    (d : Document) (m : Nat) : (d.editAll edits).kept? m = d.kept? m := by
  revert m
  apply editAll_induction (R := fun d d' => ∀ m, d'.kept? m = d.kept? m)
    (fun _ _ => rfl) (fun _ _ _ h h' m => (h' m).trans (h m))
  intro e he d m
  exact kept?_edit d (h e he) m

/-! ## Documents that were read -/

theorem valuesFollow_empty : empty.ValuesFollow := by
  intro n hn
  have helement : empty.element? n = none := by
    cases n <;> rfl
  rw [isCheckable, helement] at hn
  cases hn

/-- An element that was read keeps the value of its attribute. -/
theorem ValuesFollow.addElement (h : d.ValuesFollow) (p : Nat) (tag : String)
    (attributes : Markup.Attributes) :
    (d.addElement p (.ofTag tag attributes)).ValuesFollow := by
  rw [valuesFollow_iff] at h ⊢
  intro n w hn hw
  have helement := element?_addElement p (.ofTag tag attributes) d n
  rw [isCheckable, helement] at hn
  rw [attribute?, helement] at hw
  rw [kept?, helement]
  split at hn
  · rename_i hnew
    rw [if_pos hnew, Option.bind_some] at hw
    rw [if_pos hnew, Option.map_some]
    have hread : attributes.get? "value" = some w := hw
    show some ((attributes.get? "value").getD "") = some w
    rw [hread, Option.getD_some]
  · rename_i hold
    rw [if_neg hold] at hw ⊢
    exact h n w hn hw

/-- Filling another element changes no value of a checkbox or radio button. -/
theorem ValuesFollow.fill (h : d.ValuesFollow) (hn : d.isCheckable n ≠ true) (value : String) :
    ((Edit.fill n value).perform d).ValuesFollow := by
  have hs : SameShape d ((Edit.fill n value).perform d) := sameShape_edit d (.fill n value)
  rw [valuesFollow_iff] at h ⊢
  intro m w hm hw
  rw [isCheckable_congr hs (attribute?_edit d (by simp) m)] at hm
  rw [attribute?_edit d (by simp)] at hw
  rw [kept?_fill, if_neg]
  · exact h m w hm hw
  · rintro rfl
    exact hn hm

/-- Text areas are no checkboxes or radio buttons. -/
theorem ValuesFollow.fillTextAreas (h : d.ValuesFollow) : d.fillTextAreas.ValuesFollow := by
  have hfilled : ∀ (l : List Nat) (d : Document), (∀ n ∈ l, d.isTag "textarea" n = true) →
      d.ValuesFollow →
      (l.foldl (fun d n => (Edit.fill n (d.textContent n)).perform d) d).ValuesFollow := by
    intro l
    induction l with
    | nil => exact fun _ _ h => h
    | cons n l ih =>
      intro d hl h
      have hinput : d.isTag "input" n ≠ true :=
        not_isTag_of_isTag (hl n List.mem_cons_self) (by decide)
      apply ih
      · intro m hm
        rw [(sameShape_edit d _).isTag]
        exact hl m (List.mem_cons_of_mem n hm)
      · apply h.fill
        exact fun hn => hinput (isTag_of_isCheckable hn)
  exact hfilled _ _ (fun n hn => (List.mem_filter.1 hn).2) h

theorem valuesFollow_ofHtml {html : String} (hd : ofHtml html = .ok d) : d.ValuesFollow := by
  obtain ⟨tokens, rfl⟩ := exists_tokens_of_ofHtml hd
  have hbuilt : (tokens.foldl Builder.push {}).document.ValuesFollow := by
    have htext : ∀ (d : Document) p s, d.ValuesFollow → (d.addText p s).ValuesFollow := by
      intro d p s h
      rw [valuesFollow_iff] at h ⊢
      simp only [isCheckable, attribute?, kept?, element?_addText]
      exact h
    exact Builder.foldl_push_induction htext
      (fun _ p tag attributes h => h.addElement p tag attributes) valuesFollow_empty tokens
  have hsettled : ∀ d : Document, d.ValuesFollow → d.settleRadios.ValuesFollow := by
    intro d
    apply settleRadios_related (R := fun d d' => d.ValuesFollow → d'.ValuesFollow) (fun _ h => h)
      (fun _ _ _ h h' hd => h' (h hd))
    intro d n checked
    exact (valuesFollow_congr (sameShape_edit d (.flag n checked)) (attribute?_edit d (by simp))
      (attribute?_edit d (by simp)) (kept?_edit d (by simp))).2
  exact hsettled _ hbuilt.fillTextAreas

/-! ## Changes -/

/-- Only setting a value fills. -/
theorem eq_setValue_of_fill_mem_edits {value : String} (h : .fill n value ∈ c.edits d) :
    c = .setValue n value := by
  cases c with
  | setValue k v =>
    rw [Change.edits] at h
    split at h
    · obtain ⟨m, selected, hassign⟩ := mem_selectEdits h
      cases hassign
    · split at h
      · rw [List.mem_append, List.mem_singleton] at h
        obtain h | h := h
        · split at h <;> simp at h
        · cases h
          rfl
      · cases h
  | setChecked k checked =>
    rw [Change.edits] at h
    split at h
    · obtain ⟨m, b, hflag⟩ := mem_checkEdits h
      cases hflag
    · cases h
  | selectOption k v =>
    rw [Change.edits] at h
    split at h
    · obtain ⟨m, selected, hassign⟩ := mem_selectEdits h
      cases hassign
    · cases h
  | setAttribute k name v =>
    rw [Change.edits] at h
    split at h
    · rw [List.mem_cons] at h
      obtain hset | h := h
      · cases hset
      · split at h
        · simp at h
        · split at h
          · obtain ⟨m, b, hflag⟩ := mem_checkEdits h
            cases hflag
          · cases h
    · cases h
  | removeAttribute k name =>
    rw [Change.edits] at h
    split at h
    · rw [List.mem_cons] at h
      obtain hset | h := h
      · cases hset
      · split at h <;> simp at h
    · cases h

/-- Only setting a value changes what is kept. -/
theorem kept?_perform (d : Document) (h : ∀ n value, c ≠ .setValue n value) (m : Nat) :
    (c.perform d).kept? m = d.kept? m := by
  rw [perform_eq_editAll]
  apply kept?_editAll
  rintro e he n value rfl
  exact h n value (eq_setValue_of_fill_mem_edits he)

/-- Setting the value of a selection marks options, whose values stay. -/
theorem ValuesFollow.setValue_of_select (h : d.ValuesFollow) (hs : d.isTag "select" n = true)
    (value : String) : ((Change.setValue n value).perform d).ValuesFollow := by
  have hedits : (Change.setValue n value).edits d = d.selectEdits n value := by
    rw [Change.edits, if_pos hs]
  apply (valuesFollow_congr (sameShape_perform d _) _ _ _).2 h
  · exact attribute?_perform d (by simp [Change.attributes])
  · intro m
    rw [perform_eq_editAll, hedits]
    apply attribute?_editAll
    rintro e he k v rfl
    obtain ⟨k', selected, hassign⟩ := mem_selectEdits he
    simp at hassign
  · intro m
    rw [perform_eq_editAll, hedits]
    apply kept?_editAll
    rintro e he k v rfl
    obtain ⟨k', selected, hassign⟩ := mem_selectEdits he
    cases hassign

/-- The attribute and the value of a checkbox or radio button are set together. -/
theorem ValuesFollow.setValue_of_isCheckable (h : d.ValuesFollow) (hn : d.isCheckable n = true)
    (value : String) :
    (d.editAll [.assign n "value" (some value), .fill n value]).ValuesFollow := by
  obtain ⟨e, he⟩ := isElement_iff.1 (isElement_of_any hn)
  rw [editAll_cons, editAll_cons, editAll_nil]
  generalize hd' : (Edit.assign n "value" (some value)).perform d = d'
  have hs : SameShape d d' := hd' ▸ sameShape_edit d _
  have htype : ∀ m, d'.attribute? m "type" = d.attribute? m "type" :=
    hd' ▸ attribute?_edit d (by simp)
  have hvalue : ∀ m, d'.attribute? m "value" =
      if n = m then some value else d.attribute? m "value" :=
    hd' ▸ attribute?_assign d (isElement_of_any hn) "value" (some value)
  have hkept : ∀ m, d'.kept? m = d.kept? m := hd' ▸ kept?_edit d (by simp)
  rw [valuesFollow_iff] at h ⊢
  intro m w hm hw
  rw [isCheckable_congr (sameShape_edit d' _) (attribute?_edit d' (by simp) m),
    isCheckable_congr hs (htype m)] at hm
  rw [attribute?_edit d' (by simp), hvalue] at hw
  rw [kept?_fill, hkept]
  split
  · rename_i hmn
    rw [if_pos hmn] at hw
    rw [← hmn, kept?, he, Option.map_some, Option.map_some, hw]
  · rename_i hmn
    rw [if_neg hmn] at hw
    exact h m w hm hw

/-- Setting the value of a checkbox or radio button sets its attribute too. -/
theorem ValuesFollow.setValue (h : d.ValuesFollow) (n : Nat) (value : String) :
    ((Change.setValue n value).perform d).ValuesFollow := by
  by_cases hs : d.isTag "select" n = true
  · exact h.setValue_of_select hs value
  · rw [perform_eq_editAll, Change.edits, if_neg hs]
    split
    · split
      · rename_i hn
        exact h.setValue_of_isCheckable hn value
      · rename_i hn
        exact h.fill hn value
    · exact h

end Document

/-- The value attribute or the type of an element is changed, which is then a checkbox or radio
button with an attribute that is not the value it keeps. -/
def Change.Separates (c : Change) (d : Document) : Prop :=
  ∃ n a v w, c.assigns? = some (n, a, v) ∧ (a = "value" ∨ a = "type") ∧
    d.isCheckableOf n (if a = "type" then v else d.attribute? n "type") = true ∧
    (if a = "value" then v else d.attribute? n "value") = some w ∧ d.kept? n ≠ some w

namespace Document

variable {d : Document} {c : Change}

/-- A change of a value attribute or a type that separates the two of no element. -/
theorem valuesFollow_perform_of_assigns? {n : Nat} {a : String} {v : Option String}
    (hd : d.ValuesFollow) (hc : c.assigns? = some (n, a, v)) (ha : a = "value" ∨ a = "type")
    (h : d.isElement n = true) : (c.perform d).ValuesFollow ↔ ¬ c.Separates d := by
  have hkept : ∀ m, (c.perform d).kept? m = d.kept? m := by
    apply kept?_perform
    rintro k value rfl
    cases hc
  have hcheckable : ∀ m, (c.perform d).isCheckable m =
      d.isCheckableOf m (if n = m ∧ a = "type" then v else d.attribute? m "type") := by
    intro m
    rw [(sameShape_perform d c).isCheckable, attribute?_perform_of_assigns? hc h]
  have hvalue : ∀ m, (c.perform d).attribute? m "value" =
      if n = m ∧ a = "value" then v else d.attribute? m "value" :=
    fun m => attribute?_perform_of_assigns? hc h m "value"
  rw [valuesFollow_iff] at hd ⊢
  simp only [hkept, hcheckable, hvalue]
  constructor
  · rintro hfollow ⟨n', a', v', w, hc', -, hn, hw, hne⟩
    obtain ⟨rfl, rfl, rfl⟩ : n = n' ∧ a = a' ∧ v = v' := by
      simpa using hc.symm.trans hc'
    apply hne (hfollow n w _ _)
    · simpa using hn
    · simpa using hw
  · intro hkeeps m w hm hw
    by_cases hmn : n = m
    · subst hmn
      by_contra hne
      simp only [true_and] at hm hw
      exact hkeeps ⟨n, a, v, w, hc, ha, hm, hw, hne⟩
    · simp only [hmn, false_and, if_false] at hm hw
      rw [← isCheckable_eq] at hm
      exact hd m w hm hw

/-- Only a change that separates the two leaves a value that is not that of its attribute. -/
theorem valuesFollow_perform_iff (hd : d.ValuesFollow) (c : Change) :
    (c.perform d).ValuesFollow ↔ ¬ c.Separates d := by
  by_cases hc : ∃ n a v, c.assigns? = some (n, a, v) ∧ (a = "value" ∨ a = "type")
  · obtain ⟨n, a, v, hc, ha⟩ := hc
    by_cases he : d.isElement n = true
    · exact valuesFollow_perform_of_assigns? hd hc ha he
    · rw [perform_of_not_isElement hc he, iff_true_left hd]
      rintro ⟨n', a', v', w, hc', -, hn, -⟩
      have htarget : n = n' := (Prod.mk.inj (Option.some.inj (hc.symm.trans hc'))).1
      subst htarget
      exact he (isElement_of_isTag (isTag_of_isCheckableOf hn))
  · have hkeeps : ¬ c.Separates d := by
      rintro ⟨n, a, v, w, hc', ha, -⟩
      exact hc ⟨n, a, v, hc', ha⟩
    rw [iff_true_right hkeeps]
    by_cases hset : ∃ n value, c = .setValue n value
    · obtain ⟨n, value, rfl⟩ := hset
      exact hd.setValue n value
    · have hattributes : ∀ a, a = "value" ∨ a = "type" → a ∉ c.attributes := by
        intro a ha hmem
        apply hc
        obtain rfl | rfl := ha <;> cases c <;> simp_all [Change.attributes, Change.assigns?]
      refine (valuesFollow_congr (sameShape_perform d c)
        (attribute?_perform d (hattributes "type" (.inr rfl)))
        (attribute?_perform d (hattributes "value" (.inl rfl))) (kept?_perform d ?_)).2 hd
      rintro n value rfl
      exact hset ⟨n, value, rfl⟩

/-- **Values of checkboxes and radio buttons.** In a document that was read the value of every
checkbox and radio button is that of its value attribute, and `on` without one. So it is all along a
run of changes exactly when no change of the run sets a value attribute or a type that makes a
checkbox or radio button with another value than the one it keeps. Without the attribute the value
is `on` in any case, and what is kept changes only when the value is set. -/
theorem ofHtml_valuesFollow_iff {html : String} {d : Document} (hd : ofHtml html = .ok d)
    (changes : List Change) :
    d.ValuesFollow ∧
    ((∀ s t, changes = s ++ t → (d.run s).ValuesFollow) ↔
      ∀ s c t, changes = s ++ c :: t → ¬ c.Separates (d.run s)) ∧
    (∀ s n, (d.run s).isCheckable n = true → (d.run s).attribute? n "value" = none →
      (d.run s).value? n = some "on") ∧
    ∀ s (c : Change) n, (∀ m value, c ≠ .setValue m value) →
      (c.perform (d.run s)).kept? n = (d.run s).kept? n := by
  have hread : d.ValuesFollow := valuesFollow_ofHtml hd
  refine ⟨hread, ?_, ?_, ?_⟩
  · exact forall_run_iff (I := fun _ => True) (P := ValuesFollow) (fun _ _ _ => trivial)
      (fun d c _ h => valuesFollow_perform_iff h c) trivial hread changes
  · intro s n hn hnone
    rw [value?_of_isCheckable hn, if_pos hnone]
  · intro s c n hc
    exact kept?_perform (d.run s) hc n

/-- A checkbox with a value. -/
def tickedBox : String := "<input type=checkbox value=a checked>"

/-- Once the attribute has another value, the checkbox still has the old one. -/
theorem not_valuesFollow_tickedBox :
    ∃ d, ofHtml tickedBox = .ok d ∧ ∃ d', d' = d.run [.setAttribute 1 "value" "b"] ∧
      d'.isCheckable 1 = true ∧ d'.attribute? 1 "value" = some "b" ∧ d'.value? 1 = some "a" := by
  have hread : (ofHtml tickedBox).toOption.map (fun d =>
      let d := d.run [.setAttribute 1 "value" "b"]
      (d.isCheckable 1, d.attribute? 1 "value", d.value? 1)) = some (true, some "b", some "a") := by
    decide +kernel
  obtain ⟨d, hd, hafter⟩ := exists_of_map_ofHtml hread
  simp only [Prod.mk.injEq] at hafter
  exact ⟨d, hd, _, rfl, hafter⟩

/-- The value that was set is that of the attribute, and without the attribute it is `on`. -/
theorem valuesFollow_tickedBox :
    ∃ d, ofHtml tickedBox = .ok d ∧
      (d.run [.setValue 1 "b", .removeAttribute 1 "value"]).ValuesFollow := by
  have hread : (ofHtml tickedBox).toOption.map size = some 2 := by decide +kernel
  obtain ⟨d, hd, -⟩ := exists_of_map_ofHtml hread
  let changes : List Change := [.setValue 1 "b", .removeAttribute 1 "value"]
  refine ⟨d, hd, (ofHtml_valuesFollow_iff hd changes).2.1.2 ?_ changes [] rfl⟩
  rintro s c t hs ⟨n, a, v, w, hc, -, -, hw, -⟩
  have hmem : c ∈ changes := by
    rw [hs]
    exact List.mem_append_right s List.mem_cons_self
  -- Setting a value assigns no attribute, and the removed attribute has no value.
  simp only [changes, List.mem_cons, List.not_mem_nil, or_false] at hmem
  obtain rfl | rfl := hmem
  · cases hc
  · cases hc
    rw [if_pos (by decide +kernel)] at hw
    cases hw

end Document

end FormRules
