import FormRules.Proofs.Document.Values
import Mathlib.Data.List.Find

/-!
# What changes leave

A change is about a few attributes, flags and values, and leaves all else as it was. What that is
can be read off the edits that the change is made of.

* `ChangesOnly`: two documents that differ in the given attributes, flags and values at most.
* `Edit.Within`, `changesOnly_editAll`: edits change only what they are about.
* `ChangesOnly.optionValue`, `ChangesOnly.value?`: values that stay when something else changes.
-/

namespace FormRules

/-- The edit is about one of the given attributes, flags and values, and so about no identifier. -/
def Edit.Within (attributes : Nat → String → Prop) (flags values : Nat → Prop) : Edit → Prop
  | .assign n a _ => attributes n a
  | .flag n _ => flags n
  | .fill n _ => values n
  | _ => False

namespace Document

variable {d d' d'' : Document} {n m : Nat}

/-! ## Frames -/

/-- Nothing changes but the given attributes, checked flags and kept values: all nodes stay where
they are with their texts, and so do the identifiers and all other attributes, flags and values. -/
structure ChangesOnly (attributes : Nat → String → Prop) (flags values : Nat → Prop)
    (d d' : Document) : Prop where
  sameShape : SameShape d d'
  elementById? : ∀ id, d'.elementById? id = d.elementById? id
  attribute? : ∀ n a, ¬ attributes n a → d'.attribute? n a = d.attribute? n a
  checked? : ∀ n, ¬ flags n → d'.checked? n = d.checked? n
  kept? : ∀ n, ¬ values n → d'.kept? n = d.kept? n

variable {attributes : Nat → String → Prop} {flags values : Nat → Prop}

theorem ChangesOnly.refl (d : Document) : ChangesOnly attributes flags values d d :=
  ⟨SameShape.refl d, fun _ => rfl, fun _ _ _ => rfl, fun _ _ => rfl, fun _ _ => rfl⟩

theorem ChangesOnly.trans (h : ChangesOnly attributes flags values d d')
    (h' : ChangesOnly attributes flags values d' d'') :
    ChangesOnly attributes flags values d d'' where
  sameShape := h.sameShape.trans h'.sameShape
  elementById? id := (h'.elementById? id).trans (h.elementById? id)
  attribute? n a hn := (h'.attribute? n a hn).trans (h.attribute? n a hn)
  checked? n hn := (h'.checked? n hn).trans (h.checked? n hn)
  kept? n hn := (h'.kept? n hn).trans (h.kept? n hn)

/-! ## What edits name -/

/-- An edit of something else leaves an attribute of an element. -/
theorem attribute?_edit_of_ne (d : Document) {e : Edit} {a : String}
    (h : ∀ value, e ≠ .assign m a value) : (e.perform d).attribute? m a = d.attribute? m a := by
  by_cases he : ∃ n value, e = .assign n a value
  · obtain ⟨n, value, rfl⟩ := he
    have hne : n ≠ m := by
      rintro rfl
      exact h value rfl
    rw [attribute?, element?_edit, Edit.target, if_neg hne, attribute?]
  · exact attribute?_edit d (fun n value hassign => he ⟨n, value, hassign⟩) m

/-- An edit of something else leaves the flag of an element. -/
theorem checked?_edit_of_ne (d : Document) {e : Edit} (h : ∀ checked, e ≠ .flag m checked) :
    (e.perform d).checked? m = d.checked? m := by
  by_cases he : ∃ n checked, e = .flag n checked
  · obtain ⟨n, checked, rfl⟩ := he
    rw [checked?_flag, if_neg]
    rintro rfl
    exact h checked rfl
  · exact checked?_edit d (fun n checked hflag => he ⟨n, checked, hflag⟩) m

/-- An edit of something else leaves what an element keeps. -/
theorem kept?_edit_of_ne (d : Document) {e : Edit} (h : ∀ value, e ≠ .fill m value) :
    (e.perform d).kept? m = d.kept? m := by
  by_cases he : ∃ n value, e = .fill n value
  · obtain ⟨n, value, rfl⟩ := he
    rw [kept?_fill, if_neg]
    rintro rfl
    exact h value rfl
  · exact kept?_edit d (fun n value hfill => he ⟨n, value, hfill⟩) m

theorem changesOnly_edit {e : Edit} (h : e.Within attributes flags values) (d : Document) :
    ChangesOnly attributes flags values d (e.perform d) := by
  have hids : (e.perform d).ids = d.ids := by
    apply ids_edit
    · rintro n id rfl
      exact h
    · rintro n id rfl
      exact h
  refine ⟨sameShape_edit d e, ?_, ?_, ?_, ?_⟩
  · intro id
    rw [elementById?, hids, elementById?]
  · intro n a hn
    apply attribute?_edit_of_ne
    rintro value rfl
    exact hn h
  · intro n hn
    apply checked?_edit_of_ne
    rintro checked rfl
    exact hn h
  · intro n hn
    apply kept?_edit_of_ne
    rintro value rfl
    exact hn h

/-- Edits change only what they are about. -/
theorem changesOnly_editAll {edits : List Edit}
    (h : ∀ e ∈ edits, e.Within attributes flags values) (d : Document) :
    ChangesOnly attributes flags values d (d.editAll edits) :=
  editAll_induction ChangesOnly.refl (fun _ _ _ h h' => h.trans h')
    (fun e he => changesOnly_edit (h e he)) d

/-! ## Values that stay -/

theorem SameShape.textContent (hs : SameShape d d') (n : Nat) :
    d'.textContent n = d.textContent n := by
  rw [Document.textContent, Document.textContent, hs.below, hs.text?]

theorem SameShape.options (hs : SameShape d d') (n : Nat) : d'.options n = d.options n := by
  have htag : d'.isTag "option" = d.isTag "option" := funext (hs.isTag "option")
  rw [Document.options, descendantsByTag, hs.descendants, htag, Document.options, descendantsByTag]

theorem isTag_of_mem_options (h : m ∈ d.options n) : d.isTag "option" m = true :=
  (List.mem_filter.1 h).2

theorem ChangesOnly.optionValue (h : ChangesOnly attributes flags values d d')
    (hvalue : ¬ attributes n "value") : d'.optionValue n = d.optionValue n := by
  rw [Document.optionValue, Document.optionValue, h.attribute? n _ hvalue, h.sameShape.textContent]

/-- A selection keeps its option when no option is marked. -/
theorem ChangesOnly.currentOption? (h : ChangesOnly attributes flags values d d')
    (hselected : ∀ m, d.isTag "option" m = true → ¬ attributes m "selected") (n : Nat) :
    d'.currentOption? n = d.currentOption? n := by
  have hmarked : (d.options n).find? (d'.hasAttribute · "selected") =
      (d.options n).find? (d.hasAttribute · "selected") := by
    apply List.find?_congr
    intro m hm
    rw [hasAttribute, h.attribute? m _ (hselected m (isTag_of_mem_options hm)), hasAttribute]
  rw [Document.currentOption?, h.sameShape.options, hmarked, Document.currentOption?]

/-- An element keeps its value when neither what makes it nor an option is touched. -/
theorem ChangesOnly.value? (h : ChangesOnly attributes flags values d d')
    (hoption : ∀ m, d.isTag "option" m = true →
      ¬ attributes m "selected" ∧ ¬ attributes m "value")
    (hvalue : ¬ attributes n "value") (htype : ¬ attributes n "type") (hkept : ¬ values n) :
    d'.value? n = d.value? n := by
  have hcheckable : d'.isCheckable n = d.isCheckable n :=
    isCheckable_congr h.sameShape (h.attribute? n _ htype)
  have hcurrent : d'.currentOption? n = d.currentOption? n :=
    h.currentOption? (fun m hm => (hoption m hm).1) n
  have hshown : (d.currentOption? n).map d'.optionValue =
      (d.currentOption? n).map d.optionValue := by
    apply Option.map_congr
    intro m hm
    have hmem : m ∈ d.options n := by
      rw [Document.currentOption?, Option.orElse_eq_orElse, Option.orElse_eq_or] at hm
      rcases Option.or_eq_some_iff.1 hm with hm | ⟨-, hm⟩
      · exact List.mem_of_find?_eq_some hm
      · exact List.mem_of_head? hm
    exact h.optionValue (hoption m (isTag_of_mem_options hmem)).2
  rw [value?_eq, value?_eq, h.sameShape.isTag, hcurrent, hshown, hcheckable,
    h.attribute? n _ hvalue, h.kept? n hkept]

end Document

end FormRules
