import FormRules.Proofs.Document.Frames

/-!
# Setting values and selecting options

A value that is set is read back. An element other than a selection keeps it, and a checkbox or
radio button has it as its attribute too. A selection has no value of its own: it marks the first
option that has the value, and takes the marks from all others. Reading looks for a mark first and
takes the first option without one.

* `IsFirstOption`: the first option of a value under a node.
* `value?_setValue`, `changesOnly_setValue`: setting the value of an element that is no selection.
* `attribute?_assignAll`: assigning one attribute to many elements.
* `hasAttribute_selectEdits`, `value?_selectEdits`: the marks after selecting, and what is read
  then.
* `ofHtml_setValue`: setting values in a document that was read and changed.
-/

namespace FormRules.Document

variable {d d' : Document} {n m : Nat} {value : String}

/-- The first option of a value under a node. -/
structure IsFirstOption (d : Document) (n : Nat) (value : String) (m : Nat) : Prop where
  mem : m ∈ d.descendants n
  isTag : d.isTag "option" m = true
  optionValue : d.optionValue m = value
  first : ∀ k ∈ d.descendants n, d.isTag "option" k = true → d.optionValue k = value → m ≤ k

/-! ## Elements that are no selections -/

theorem setValue_of_isElement (h : d.isElement n = true) (hs : d.isTag "select" n = false)
    (value : String) : d.setValue n value = .ok ((Change.setValue n value).perform d) := by
  have hselect : ¬ d.isTag "select" n = true := by simp [hs]
  rw [Change.perform, Change.apply, setValue, if_neg hselect, if_pos h]

theorem perform_setValue (h : d.isElement n = true) (hs : d.isTag "select" n = false)
    (value : String) :
    (Change.setValue n value).perform d = d.editAll
      ((if d.isCheckable n then [.assign n "value" (some value)] else []) ++ [.fill n value]) := by
  have hselect : ¬ d.isTag "select" n = true := by simp [hs]
  rw [perform_eq_editAll, Change.edits, if_neg hselect, if_pos h, isCheckable]

/-- Setting a value changes what the element keeps and, on a checkbox or radio button, the value
attribute. -/
theorem changesOnly_setValue (h : d.isElement n = true) (hs : d.isTag "select" n = false)
    (value : String) :
    ChangesOnly (fun m a => m = n ∧ a = "value" ∧ d.isCheckable n = true) (fun _ => False) (· = n)
      d ((Change.setValue n value).perform d) := by
  rw [perform_setValue h hs]
  apply changesOnly_editAll
  intro e he
  rw [List.mem_append, List.mem_singleton] at he
  rcases he with he | rfl
  · by_cases hn : d.isCheckable n = true
    · rw [if_pos hn, List.mem_singleton] at he
      rw [he]
      exact ⟨rfl, rfl, hn⟩
    · rw [if_neg hn] at he
      cases he
  · show n = n
    rfl

/-- The value that was set is read back. -/
theorem value?_setValue (h : d.isElement n = true) (hs : d.isTag "select" n = false)
    (value : String) : ((Change.setValue n value).perform d).value? n = some value := by
  have honly := changesOnly_setValue h hs value
  have hkept : ((Change.setValue n value).perform d).kept? n = some value := by
    rw [perform_setValue h hs, editAll_append, editAll_cons, editAll_nil, kept?_fill, if_pos rfl,
      kept?_editAll (by split <;> simp)]
    obtain ⟨e, he⟩ := isElement_iff.1 h
    rw [kept?, he, Option.map_some, Option.map_some]
  have hattribute : d.isCheckable n = true →
      ((Change.setValue n value).perform d).attribute? n "value" = some value := by
    intro hn
    rw [perform_setValue h hs, if_pos hn, List.singleton_append, editAll_cons, editAll_cons,
      editAll_nil, attribute?_edit _ (by simp), attribute?_assign d h, if_pos rfl]
  have hcheckable : ((Change.setValue n value).perform d).isCheckable n = d.isCheckable n :=
    isCheckable_congr honly.sameShape (honly.attribute? n "type" (by simp))
  rw [value?_eq, honly.sameShape.isTag, hs, if_neg Bool.false_ne_true, hcheckable, if_neg]
  · exact hkept
  · rintro ⟨hn, hnone⟩
    rw [hattribute hn] at hnone
    cases hnone

/-- No other element gets another value. -/
theorem value?_setValue_of_ne (h : d.isElement n = true) (hs : d.isTag "select" n = false)
    (value : String) (hm : m ≠ n) :
    ((Change.setValue n value).perform d).value? m = d.value? m := by
  apply (changesOnly_setValue h hs value).value?
  · intro k hk
    refine ⟨by simp, ?_⟩
    rintro ⟨rfl, -, hcheckable⟩
    -- An option is no checkbox or radio button.
    exact not_isTag_of_isTag (isTag_of_isCheckable hcheckable) (by decide) hk
  · exact fun hall => hm hall.1
  · exact fun hall => hm hall.1
  · exact hm

/-! ## Selections -/

theorem Ordered.pairwise_options (h : d.Ordered) (n : Nat) : (d.options n).Pairwise (· < ·) :=
  (h.pairwise_descendants n).filter _

/-- The option that is selected is the first one of the value. -/
theorem Ordered.find?_options_eq_some_iff (h : d.Ordered) :
    (d.options n).find? (d.optionValue · == value) = some m ↔ d.IsFirstOption n value m := by
  rw [find?_eq_some_iff_of_increasing (h.pairwise_options n)]
  simp only [options, descendantsByTag, List.mem_filter, beq_iff_eq]
  constructor
  · rintro ⟨⟨hmem, htag⟩, hvalue, hfirst⟩
    exact ⟨hmem, htag, hvalue, fun k hk hktag hkvalue => hfirst k ⟨hk, hktag⟩ hkvalue⟩
  · rintro ⟨hmem, htag, hvalue, hfirst⟩
    exact ⟨⟨hmem, htag⟩, hvalue, fun k hk hkvalue => hfirst k hk.1 hk.2 hkvalue⟩

/-- One attribute is assigned to many elements, to each by itself. -/
theorem attribute?_assignAll {l : List Nat} (hl : ∀ k ∈ l, d.isElement k = true) (a : String)
    (f : Nat → Option String) (m : Nat) :
    (d.editAll (l.map fun k => .assign k a (f k))).attribute? m a =
      if m ∈ l then f m else d.attribute? m a := by
  induction l generalizing d with
  | nil => simp
  | cons k l ih =>
    have hk : d.isElement k = true := hl k List.mem_cons_self
    have hrest : ∀ j ∈ l, ((Edit.assign k a (f k)).perform d).isElement j = true := by
      intro j hj
      rw [(sameShape_edit d _).isElement]
      exact hl j (List.mem_cons_of_mem k hj)
    rw [List.map_cons, editAll_cons, ih hrest, attribute?_assign d hk]
    by_cases hm : m ∈ l
    · rw [if_pos hm, if_pos (List.mem_cons_of_mem k hm)]
    · rw [if_neg hm]
      by_cases hmk : k = m
      · simp [hmk]
      · simp [hmk, hm, Ne.symm hmk]

/-- Selecting changes the marks of the options and nothing else. -/
theorem changesOnly_selectEdits (d : Document) (n : Nat) (value : String) :
    ChangesOnly (fun m a => m ∈ d.options n ∧ a = "selected") (fun _ => False) (fun _ => False)
      d (d.editAll (d.selectEdits n value)) := by
  apply changesOnly_editAll
  intro e he
  obtain ⟨m, hm, rfl⟩ := List.mem_map.1 he
  exact ⟨hm, rfl⟩

/-- Of the options the one that was selected has the mark. -/
theorem hasAttribute_selectEdits (hm : m ∈ d.options n) :
    (d.editAll (d.selectEdits n value)).hasAttribute m "selected" =
      ((d.options n).find? (d.optionValue · == value) == some m) := by
  have helement : ∀ k ∈ d.options n, d.isElement k = true := fun k hk =>
    isElement_of_isTag (isTag_of_mem_options hk)
  rw [hasAttribute, selectEdits, attribute?_assignAll helement, if_pos hm]
  split <;> simp_all

/-- The option that was selected is the one that counts, and the first one does when there is
none. -/
theorem Ordered.currentOption?_selectEdits (h : d.Ordered) :
    (d.editAll (d.selectEdits n value)).currentOption? n =
      ((d.options n).find? (d.optionValue · == value) <|> (d.options n).head?) := by
  have hmarked : (d.options n).find?
        ((d.editAll (d.selectEdits n value)).hasAttribute · "selected") =
      (d.options n).find? ((d.options n).find? (d.optionValue · == value) == some ·) :=
    List.find?_congr fun m hm => hasAttribute_selectEdits hm
  have hfound : (d.options n).find? ((d.options n).find? (d.optionValue · == value) == some ·) =
      (d.options n).find? (d.optionValue · == value) := by
    cases hchosen : (d.options n).find? (d.optionValue · == value) with
    | none => simp
    | some k =>
      rw [find?_eq_some_iff_of_increasing (h.pairwise_options n)]
      refine ⟨List.mem_of_find?_eq_some hchosen, by simp, ?_⟩
      intro j _ hj
      exact Nat.le_of_eq (Option.some.inj (beq_iff_eq.1 hj))
  rw [currentOption?, (changesOnly_selectEdits d n value).sameShape.options, hmarked, hfound]

/-- What is read after selecting: the value itself if an option has it, else that of the first
option. -/
theorem Ordered.value?_selectEdits (h : d.Ordered) (hs : d.isTag "select" n = true)
    (value : String) :
    (d.editAll (d.selectEdits n value)).value? n =
      if ((d.options n).find? (d.optionValue · == value)).isSome then some value
      else some (((d.options n).head?.map d.optionValue).getD "") := by
  have honly := changesOnly_selectEdits d n value
  have hoption : (d.editAll (d.selectEdits n value)).optionValue = d.optionValue := by
    funext m
    exact honly.optionValue (by simp)
  rw [value?_eq, honly.sameShape.isTag, if_pos hs, h.currentOption?_selectEdits, hoption]
  cases hchosen : (d.options n).find? (d.optionValue · == value) with
  | none => rfl
  | some m =>
    have hvalue : d.optionValue m = value := by simpa using List.find?_some hchosen
    simp [hvalue]

/-! ## Documents that were read and changed -/

/-- **Setting a value.** In a document that was read and changed, the value that is set on an
element other than a selection is read back, and no other element gets another value. Setting the
value of a selection, which is selecting an option, leaves the mark on the first of its options with
this value and on no other one. The value is then read back, or without such an option that of the
first option is read. Nothing has changed but the marks of these options. -/
theorem ofHtml_setValue {html : String} {d₀ : Document} (hd : ofHtml html = .ok d₀)
    {changes : List Change} (hrun : d₀.run changes = d) (hn : d.isElement n = true)
    (value : String) :
    (d.isTag "select" n = false →
      ∃ d', d.setValue n value = .ok d' ∧ d'.value n = .ok value ∧
        (∀ m, m ≠ n → d'.value m = d.value m) ∧
        (∀ m, d'.textContent m = d.textContent m) ∧
        ChangesOnly (fun m a => m = n ∧ a = "value" ∧ d.isCheckable n = true) (fun _ => False)
          (· = n) d d') ∧
    (d.isTag "select" n = true →
      ∃ d', d.setValue n value = .ok d' ∧ d.selectOption n value = .ok d' ∧
        (∀ m ∈ d.options n,
          d'.hasAttribute m "selected" = true ↔ d.IsFirstOption n value m) ∧
        ((∃ m, d.IsFirstOption n value m) → d'.value n = .ok value) ∧
        ((∀ m ∈ d.options n, d.optionValue m ≠ value) →
          d'.value n = .ok (((d.options n).head?.map d.optionValue).getD "")) ∧
        (∀ m, d'.textContent m = d.textContent m) ∧
        ChangesOnly (fun m a => m ∈ d.options n ∧ a = "selected") (fun _ => False)
          (fun _ => False) d d') := by
  have h : d.Ordered := hrun ▸ (ordered_ofHtml hd).run changes
  constructor
  · intro hs
    have honly := changesOnly_setValue hn hs value
    refine ⟨_, setValue_of_isElement hn hs value, ?_, ?_, honly.sameShape.textContent, honly⟩
    · rw [Document.value, value?_setValue hn hs]
    · intro m hm
      rw [Document.value, value?_setValue_of_ne hn hs value hm, Document.value]
  · intro hs
    have honly := changesOnly_selectEdits d n value
    have hselect := selectOption_eq_editAll hs value
    refine ⟨_, ?_, hselect, ?_, ?_, ?_, honly.sameShape.textContent, honly⟩
    · rw [setValue, if_pos hs, hselect]
    · intro m hm
      rw [hasAttribute_selectEdits hm, beq_iff_eq, h.find?_options_eq_some_iff]
    · rintro ⟨m, hm⟩
      rw [Document.value, h.value?_selectEdits hs, h.find?_options_eq_some_iff.2 hm]
      rfl
    · intro hnone
      have hchosen : (d.options n).find? (d.optionValue · == value) = none := by
        simpa using hnone
      rw [Document.value, h.value?_selectEdits hs, hchosen]
      rfl

/-- A selection with two marked options, of which the first is in a group and in a selection of its
own, and a text field. -/
def crowdedSelection : String :=
  "<select><optgroup><select><option selected>a</select></optgroup><option value=b> x </option>" ++
    "<option value=c selected> b </option></select><input>"

/-- Once the last option has the value of its text, the first of the two options of this value is
the one that is marked. Without an option of the value the first option is read. The text field
keeps any value. -/
theorem ofHtml_setValue_crowdedSelection :
    ∃ d₀, ofHtml crowdedSelection = .ok d₀ ∧ ∃ d, d₀.run [.removeAttribute 8 "value"] = d ∧
      d.isTag "select" 1 = true ∧
      (∃ d', d.setValue 1 "b" = .ok d' ∧ d'.hasAttribute 6 "selected" = true ∧
        d'.value 1 = .ok "b") ∧
      (∃ d', d.selectOption 1 "c" = .ok d' ∧ d'.value 1 = .ok "a") ∧
      d.isTag "select" 10 = false ∧
      ∃ d', d.setValue 10 " c" = .ok d' ∧ d'.value 10 = .ok " c" := by
  have hread : (ofHtml crowdedSelection).toOption.map (fun d₀ =>
      let d := d₀.run [.removeAttribute 8 "value"]
      (d.isTag "select" 1, d.isTag "input" 10, d.options 1, (d.options 1).map d.optionValue)) =
      some (true, true, [4, 6, 8], ["a", "b", "b"]) := by
    decide +kernel
  obtain ⟨d₀, hd, hafter⟩ := exists_of_map_ofHtml hread
  generalize hrun : d₀.run [.removeAttribute 8 "value"] = d at hafter
  simp only [Prod.mk.injEq] at hafter
  obtain ⟨hselect, hinput, hoptions, hvalues⟩ := hafter
  rw [hoptions] at hvalues
  have htext : d.isTag "select" 10 = false :=
    Bool.eq_false_iff.2 (not_isTag_of_isTag hinput (by decide))
  have hfirst : d.IsFirstOption 1 "b" 6 := by
    have h : d.Ordered := hrun ▸ (ordered_ofHtml hd).run _
    rw [← h.find?_options_eq_some_iff, hoptions]
    simp_all
  have hset := ofHtml_setValue hd hrun (isElement_of_isTag hselect)
  obtain ⟨d₁, hb, -, hmarks, hvalue, -⟩ := (hset "b").2 hselect
  obtain ⟨d₂, -, hc, -, -, hnone, -⟩ := (hset "c").2 hselect
  obtain ⟨d₃, htyped, hkept, -⟩ :=
    (ofHtml_setValue hd hrun (isElement_of_isTag hinput) " c").1 htext
  refine ⟨d₀, hd, d, hrun, hselect, ⟨d₁, hb, ?_, hvalue ⟨6, hfirst⟩⟩, ⟨d₂, hc, ?_⟩, htext, d₃,
    htyped, hkept⟩
  · exact (hmarks 6 (by simp [hoptions])).2 hfirst
  · rw [hnone, hoptions] <;> simp_all

end FormRules.Document
