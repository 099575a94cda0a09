import FormRules.Document.Control
import FormRules.Proofs.Document.Frames
import FormRules.Proofs.Document.InitialFlags

/-!
# Checking a radio button

The group of a radio button is put together anew from whichever member is asked, and it comes out
the same for all of them. So a radio button that is checked is the checked one for the whole group,
and every member has its value.

* `radioGroup_eq_of_mem`: groups, the same for all members.
* `checked?_check_of_isRadio`, `changesOnly_check`: the flags after checking, and all that stays.
* `checkedGroupValue?_check`: the value that every member has then.
* `ofHtml_setChecked_group`: checking a radio button of a document that was read and changed.
-/

namespace FormRules.Document

variable {d d' : Document} {n m a b : Nat}

/-! ## Groups -/

/-- All members of a group have the same group. -/
theorem Ordered.radioGroup_eq_of_mem (h : d.Ordered) (hn : d.isRadio n = true)
    (hm : m ∈ d.radioGroup n) : d.radioGroup m = d.radioGroup n := by
  rcases (h.mem_radioGroup_iff hn).1 hm with rfl | hmates
  · rfl
  · obtain ⟨k, hkm, hkn⟩ := groupMates_iff.1 hmates
    rw [radioGroup_of_groupKey? hkm, radioGroup_of_groupKey? hkn]

theorem Ordered.isRadio_of_mem_radioGroup (h : d.Ordered) (hn : d.isRadio n = true)
    (hm : m ∈ d.radioGroup n) : d.isRadio m = true := by
  rcases (h.mem_radioGroup_iff hn).1 hm with rfl | hmates
  · exact hn
  · exact hmates.1

theorem Ordered.pairwise_radioGroup (h : d.Ordered) (hn : d.isRadio n = true) :
    (d.radioGroup n).Pairwise (· < ·) := by
  cases hk : d.groupKey? n with
  | none =>
    rw [radioGroup_of_groupKey?_eq_none hn hk]
    exact List.pairwise_singleton _ _
  | some k =>
    rw [radioGroup_of_groupKey? hk]
    exact (h.pairwise_descendants root).filter _

/-- A radio button is in its group. -/
theorem Ordered.self_mem_radioGroup (h : d.Ordered) (hn : d.isRadio n = true) :
    n ∈ d.radioGroup n :=
  (h.mem_radioGroup_iff hn).2 (.inl rfl)

/-- Groups are a matter of the shape and of the attributes. -/
theorem radioGroup_congr (hs : SameShape d d') (ha : ∀ n a, d'.attribute? n a = d.attribute? n a)
    (n : Nat) : d'.radioGroup n = d.radioGroup n := by
  have hradio : d'.isRadio = d.isRadio := by
    funext m
    rw [isRadio_eq, isRadio_eq, hs.isTag, ha]
  have hattribute : d'.attribute? = d.attribute? := funext fun m => funext (ha m)
  have hform : d'.owningForm? = d.owningForm? := funext hs.owningForm?
  simp only [radioGroup, hradio, hattribute, hform, hs.descendants]

/-! ## What is left -/

/-- Checking a radio button checks it and unchecks the others of its group. -/
theorem Ordered.checked?_check_of_isRadio (h : d.Ordered) (hn : d.isRadio n = true) (m : Nat) :
    (d.check true n).checked? m =
      if m ∈ d.radioGroup n then some (decide (m = n)) else d.checked? m := by
  have hothers : m ∈ d.others true n ↔ m ∈ d.radioGroup n ∧ m ≠ n := by simp [others, hn]
  have hflag : ∀ flag : Bool, m ∈ d.radioGroup n →
      (d.checked? m).map (fun _ => flag) = some flag := by
    intro flag hm
    have hradio := h.isRadio_of_mem_radioGroup hn hm
    obtain ⟨e, he⟩ := isElement_iff.1 (isElement_of_isRadio hradio)
    rw [checked?, he, Option.map_some, Option.map_some]
  rw [checked?_check]
  by_cases hm : m ∈ d.radioGroup n
  · rw [if_pos hm, hflag true hm, hflag false hm]
    by_cases hmn : m = n
    · simp [hmn]
    · rw [if_neg (Ne.symm hmn), if_pos (hothers.2 ⟨hm, hmn⟩), decide_eq_false hmn]
  · rw [if_neg hm, if_neg, if_neg (fun hmem => hm (hothers.1 hmem).1)]
    rintro rfl
    exact hm (h.self_mem_radioGroup hn)

/-- Checking a radio button changes the flags of its group and nothing else. -/
theorem Ordered.changesOnly_check (h : d.Ordered) (hn : d.isRadio n = true) :
    ChangesOnly (fun _ _ => False) (· ∈ d.radioGroup n) (fun _ => False) d (d.check true n) := by
  rw [check_eq_editAll]
  apply changesOnly_editAll
  intro e he
  rw [checkEdits, hn, List.mem_append, List.mem_map, List.mem_singleton] at he
  rcases he with ⟨m, hm, rfl⟩ | rfl
  · exact (List.mem_filter.1 hm).1
  · exact h.self_mem_radioGroup hn

/-- Checking a radio button changes no group. -/
theorem radioGroup_check (d : Document) (checked : Bool) (n m : Nat) :
    (d.check checked n).radioGroup m = d.radioGroup m :=
  radioGroup_congr (sameShape_check checked n d) (attribute?_check d checked n) m

/-- Checking a radio button changes no value. -/
theorem Ordered.value?_check (h : d.Ordered) (hn : d.isRadio n = true) (m : Nat) :
    (d.check true n).value? m = d.value? m :=
  (h.changesOnly_check hn).value? (fun _ _ => ⟨id, id⟩) id id id

/-- The value of a radio button that was checked is that of every member of its group. -/
theorem Ordered.checkedGroupValue?_check (h : d.Ordered) (ha : d.isRadio a = true)
    (hb : b ∈ d.radioGroup a) : (d.check true a).checkedGroupValue? b = d.value? a := by
  have hfound : (d.radioGroup a).find? ((d.check true a).checked? · == some true) = some a := by
    rw [find?_eq_some_iff_of_increasing (h.pairwise_radioGroup ha)]
    have hself := h.self_mem_radioGroup ha
    refine ⟨hself, ?_, ?_⟩
    · simp [h.checked?_check_of_isRadio ha, hself]
    · intro m hm hchecked
      have hma : m = a := by simpa [h.checked?_check_of_isRadio ha, hm] using hchecked
      omega
  rw [checkedGroupValue?, radioGroup_check, h.radioGroup_eq_of_mem ha hb, hfound,
    Option.bind_some, h.value?_check ha]

/-! ## Documents that were read and changed -/

theorem fieldKind?_of_isRadio (hn : d.isRadio n = true) : d.fieldKind? n = some .radio := by
  have hinput : d.isTag "input" n = true := by
    rw [isRadio_eq, Bool.and_eq_true] at hn
    exact hn.1
  have hselect : d.isTag "select" n ≠ true := not_isTag_of_isTag hinput (by decide)
  have htextarea : d.isTag "textarea" n ≠ true := not_isTag_of_isTag hinput (by decide)
  obtain ⟨e, he⟩ := isElement_iff.1 (isElement_of_isRadio hn)
  simp only [isTag, isRadio, fieldKind?, he, Option.any_some, Option.bind_some] at *
  have htype : e.inputType? = some "radio" := beq_iff_eq.1 hn
  rw [Element.fieldKind?, if_neg hselect, if_neg htextarea, htype]
  decide

/-- What a member of the group says once a radio button of it was checked. -/
theorem Ordered.control?_check (h : d.Ordered) (ha : d.isRadio a = true)
    (hb : b ∈ d.radioGroup a) {value : String} (hvalue : d.value? a = some value) :
    ∃ c, (d.check true a).control? b = some c ∧ Field.kind c = .radio ∧
      Field.checkedGroupValue? c = some value ∧
      (Field.resolve c none).text = Text.trim value := by
  have hradio : (d.check true a).isRadio b = true := by
    rw [isRadio_eq, (sameShape_check true a d).isTag, attribute?_check, ← isRadio_eq]
    exact h.isRadio_of_mem_radioGroup ha hb
  let c : Control := ⟨d.check true a, b, .radio⟩
  have hgroup : Field.checkedGroupValue? c = some value := by
    show (d.check true a).checkedGroupValue? b = some value
    rw [h.checkedGroupValue?_check ha hb, hvalue]
  refine ⟨c, ?_, rfl, hgroup, ?_⟩
  · rw [control?, fieldKind?_of_isRadio hradio, Option.map_some]
  · show ((Field.checkedGroupValue? c).map Text.trim).getD "" = Text.trim value
    rw [hgroup, Option.map_some, Option.getD_some]

/-- **Checking a radio button.** In a document that was read and changed the group of a radio button
is itself with its mates, and the same for all of them. Once the radio button is checked it is the
only member that is; every member has its value, for the group and, without the blanks around it, on
its own; and nothing has changed but the flags of the group. -/
theorem ofHtml_setChecked_group {html : String} {d₀ : Document} (hd : ofHtml html = .ok d₀)
    {changes : List Change} (hrun : d₀.run changes = d) (ha : d.isRadio a = true) :
    (a ∈ d.radioGroup a ∧ (∀ b, b ∈ d.radioGroup a ↔ b = a ∨ d.GroupMates b a) ∧
      ∀ b ∈ d.radioGroup a, d.radioGroup b = d.radioGroup a) ∧
    ∃ d' value, d.setChecked a true = .ok d' ∧ d.value a = .ok value ∧
      (∀ b ∈ d.radioGroup a, d'.radioGroup b = d.radioGroup a ∧
        d'.checked b = .ok (decide (b = a)) ∧
        ∃ c, d'.control? b = some c ∧ Field.kind c = .radio ∧
          Field.checkedGroupValue? c = some value ∧
          (Field.resolve c none).text = Text.trim value) ∧
      (∀ m, m ∉ d.radioGroup a → d'.checked m = d.checked m) ∧
      (∀ m, d'.value m = d.value m ∧ d'.textContent m = d.textContent m) ∧
      ChangesOnly (fun _ _ => False) (· ∈ d.radioGroup a) (fun _ => False) d d' := by
  have h : d.Ordered := hrun ▸ (ordered_ofHtml hd).run changes
  have helement : d.isElement a = true := isElement_of_isRadio ha
  have honly := h.changesOnly_check ha
  obtain ⟨value, hvalue⟩ : ∃ value, d.value? a = some value := by
    obtain ⟨e, he⟩ := isElement_iff.1 helement
    exact ⟨_, by rw [value?, he, Option.map_some]⟩
  refine ⟨⟨h.self_mem_radioGroup ha, fun b => h.mem_radioGroup_iff ha,
    fun b hb => h.radioGroup_eq_of_mem ha hb⟩, d.check true a, value, ?_, ?_, ?_, ?_, ?_, honly⟩
  · rw [setChecked, if_pos helement]
  · rw [Document.value, hvalue]
  · intro b hb
    refine ⟨?_, ?_, h.control?_check ha hb hvalue⟩
    · rw [radioGroup_check, h.radioGroup_eq_of_mem ha hb]
    · rw [checked, h.checked?_check_of_isRadio ha, if_pos hb]
  · intro m hm
    rw [checked, honly.checked? m hm, checked]
  · intro m
    rw [Document.value, h.value?_check ha, Document.value]
    exact ⟨rfl, honly.sameShape.textContent m⟩

/-- Two radio buttons in a form, of which the first has a value with blanks around it, and one of
the same name outside. -/
def spreadGroups : String :=
  "<form><input type=radio name=a value=' x '><input type=radio name=b checked></form>" ++
    "<input type=radio name=a checked>"

/-- Once the second radio button has the name of the first one, checking the first one speaks for
both, and the one outside of the form stays checked. -/
theorem ofHtml_setChecked_group_spreadGroups :
    ∃ d₀, ofHtml spreadGroups = .ok d₀ ∧ ∃ d, d₀.run [.setAttribute 3 "NAME" "a"] = d ∧
      d.isRadio 2 = true ∧ d.radioGroup 3 = [2, 3] ∧ ∃ d', d.setChecked 2 true = .ok d' ∧
        d'.checked 3 = .ok false ∧ d'.checked 4 = .ok true ∧
        ∃ c, d'.control? 3 = some c ∧ (Field.resolve c none).text = "x" := by
  have hread : (ofHtml spreadGroups).toOption.map (fun d₀ =>
      let d := d₀.run [.setAttribute 3 "NAME" "a"]
      (d.isRadio 2, d.radioGroup 2, d.value? 2, d.checked? 4)) =
      some (true, [2, 3], some " x ", some true) := by
    decide +kernel
  obtain ⟨d₀, hd, hafter⟩ := exists_of_map_ofHtml hread
  generalize hrun : d₀.run [.setAttribute 3 "NAME" "a"] = d at hafter
  simp only [Prod.mk.injEq] at hafter
  obtain ⟨hradio, hgroup, hvalue, hchecked⟩ := hafter
  obtain ⟨⟨-, -, hsame⟩, d', value, hd', hof, hmembers, hothers, -⟩ :=
    ofHtml_setChecked_group hd hrun hradio
  have hmem : 3 ∈ d.radioGroup 2 := by simp [hgroup]
  obtain ⟨-, hthree, c, hc, -, -, htext⟩ := hmembers 3 hmem
  rw [Document.value, hvalue] at hof
  cases hof
  refine ⟨d₀, hd, d, hrun, hradio, (hsame 3 hmem).trans hgroup, d', hd', hthree, ?_, c, hc, ?_⟩
  · rw [hothers 4 (by simp [hgroup]), checked, hchecked]
  · rw [htext]
    decide +kernel

end FormRules.Document
