import FormRules.Proofs.Document.Building

/-!
# Groups of radio buttons

Radio buttons of one name in one form are a group, of which one at most should be checked. Reading
sees to it, and so does whatever checks a radio button. What puts a checked element into another
group, a change of its name or of its type, does not.

* `groupKey?`, `mem_radioGroup`: the group of a radio button.
* `SingleChecked`: no group has two checked members.
* `singleChecked_settleRadios`, `SingleChecked.check`: reading and checking see to it.
* `Change.Clashes`: a checked radio button is put into a group that has a checked member.
* `singleChecked_perform_iff`: no other change checks two members of a group.
* `ofHtml_singleChecked_iff`: the runs of changes that check no two members of a group.
-/

namespace FormRules

/-- The name and the form that the radio buttons of a group share. -/
abbrev GroupKey := String × Option Nat

namespace Document

variable {d d' : Document}

/-! ## Groups -/

theorem isRadio_eq (d : Document) (n : Nat) :
    d.isRadio n = (d.isTag "input" n && (d.attribute? n "type").any (lowerText · == "radio")) := by
  rw [isRadio, isTag, attribute?]
  cases d.element? n with
  | none => rfl
  | some e =>
    exact e.inputType?_beq (by decide +kernel)

/-- The group of a node with a name and a type, if these make it a radio button with a name. -/
def groupKeyOf? (d : Document) (n : Nat) (name type : Option String) : Option GroupKey :=
  if d.isTag "input" n && type.any (lowerText · == "radio") then
    (name.filter (!·.isEmpty)).map (·, d.owningForm? n)
  else none

/-- The group of a node, if it is a radio button with a name. -/
def groupKey? (d : Document) (n : Nat) : Option GroupKey :=
  d.groupKeyOf? n (d.attribute? n "name") (d.attribute? n "type")

theorem groupKey?_eq_some_iff {n : Nat} {name : String} {form : Option Nat} :
    d.groupKey? n = some (name, form) ↔
      d.isRadio n = true ∧ d.attribute? n "name" = some name ∧ name ≠ "" ∧
        d.owningForm? n = form := by
  rw [groupKey?, groupKeyOf?, ← isRadio_eq]
  by_cases hr : d.isRadio n = true
  · rw [if_pos hr]
    simp [hr, Option.filter_eq_some_iff, and_assoc]
  · simp [hr]

theorem isRadio_of_groupKey? {n : Nat} {k : GroupKey} (h : d.groupKey? n = some k) :
    d.isRadio n = true := by
  obtain ⟨name, form⟩ := k
  exact (groupKey?_eq_some_iff.1 h).1

theorem radioGroup_of_groupKey? {n : Nat} {k : GroupKey} (hk : d.groupKey? n = some k) :
    d.radioGroup n = (d.descendants root).filter (d.groupKey? · = some k) := by
  obtain ⟨name, form⟩ := k
  obtain ⟨-, hname, hne, hform⟩ := groupKey?_eq_some_iff.1 hk
  have hfilled : (d.attribute? n "name").filter (!·.isEmpty) = some name := by
    simp [hname, hne]
  rw [radioGroup, hfilled, hform]
  apply List.filter_congr
  intro m _
  rw [Bool.eq_iff_iff, decide_eq_true_eq, groupKey?_eq_some_iff]
  simp [hne, and_assoc]

/-- Without a name a radio button is alone. -/
theorem radioGroup_of_groupKey?_eq_none {n : Nat} (hn : d.isRadio n = true)
    (hk : d.groupKey? n = none) :
    d.radioGroup n = [n] := by
  have hname : (d.attribute? n "name").filter (!·.isEmpty) = none := by
    simpa [groupKey?, groupKeyOf?, ← isRadio_eq, hn] using hk
  rw [radioGroup, hname]

/-- The members of a group. -/
theorem Ordered.mem_radioGroup (h : d.Ordered) {n m : Nat} {k : GroupKey}
    (hk : d.groupKey? n = some k) : m ∈ d.radioGroup n ↔ d.groupKey? m = some k := by
  rw [radioGroup_of_groupKey? hk, List.mem_filter, decide_eq_true_eq, h.mem_descendants_root]
  exact and_iff_right_of_imp fun hm => isElement_of_isRadio (isRadio_of_groupKey? hm)

theorem SameShape.groupKey? (hs : SameShape d d') (n : Nat) :
    d'.groupKey? n = d.groupKeyOf? n (d'.attribute? n "name") (d'.attribute? n "type") := by
  rw [Document.groupKey?, groupKeyOf?, hs.isTag, hs.owningForm?, groupKeyOf?]

theorem groupKey?_congr (hs : SameShape d d') {n : Nat}
    (hname : d'.attribute? n "name" = d.attribute? n "name")
    (htype : d'.attribute? n "type" = d.attribute? n "type") :
    d'.groupKey? n = d.groupKey? n := by
  rw [hs.groupKey?, hname, htype, groupKey?]

/-- No group has two checked members. -/
def SingleChecked (d : Document) : Prop :=
  ∀ n m k, d.groupKey? n = some k → d.groupKey? m = some k → d.checked? n = some true →
    d.checked? m = some true → n = m

theorem singleChecked_congr {d d' : Document} (hk : ∀ n, d'.groupKey? n = d.groupKey? n)
    (hc : ∀ n, d'.checked? n = d.checked? n) : d'.SingleChecked ↔ d.SingleChecked := by
  simp only [SingleChecked, hk, hc]

/-- No group has two checked members when a node is in no group with another one that is checked,
and no two other nodes are. -/
theorem singleChecked_of_self (n : Nat)
    (hself : ∀ m k, d.groupKey? n = some k → d.groupKey? m = some k → d.checked? n = some true →
      d.checked? m = some true → n = m)
    (hothers : ∀ i j k, i ≠ n → j ≠ n → d.groupKey? i = some k → d.groupKey? j = some k →
      d.checked? i = some true → d.checked? j = some true → i = j) : d.SingleChecked := by
  intro i j k hi hj hci hcj
  by_cases hin : i = n
  · subst hin
    exact hself j k hi hj hci hcj
  · by_cases hjn : j = n
    · subst hjn
      exact (hself i k hj hi hcj hci).symm
    · exact hothers i j k hin hjn hi hj hci hcj

/-! ## Checking -/

/-- The radio buttons that are unchecked when a node is checked. -/
def others (d : Document) (checked : Bool) (n : Nat) : List Nat :=
  if checked && d.isRadio n then (d.radioGroup n).filter (· ≠ n) else []

theorem checked?_foldl_flag (l : List Nat) (d : Document) (m : Nat) :
    (l.foldl (fun d k => d.flag false k) d).checked? m =
      if m ∈ l then (d.checked? m).map fun _ => false else d.checked? m := by
  induction l generalizing d with
  | nil => simp
  | cons n l ih =>
    have hflag : (d.flag false n).checked? m = _ := checked?_flag d n m false
    rw [List.foldl_cons, ih, hflag]
    by_cases hl : m ∈ l
    · rw [if_pos hl, if_pos (List.mem_cons_of_mem n hl)]
      split
      · exact Option.map_map ..
      · rfl
    · rw [if_neg hl]
      simp [hl, eq_comm]

/-- Checking changes the flag of the node and unchecks the others. -/
theorem checked?_check (d : Document) (checked : Bool) (n m : Nat) :
    (d.check checked n).checked? m =
      if n = m then (d.checked? m).map fun _ => checked
      else if m ∈ d.others checked n then (d.checked? m).map fun _ => false
      else d.checked? m := by
  show ((Edit.flag n checked).perform
    ((d.others checked n).foldl (fun d k => d.flag false k) d)).checked? m = _
  rw [checked?_flag, checked?_foldl_flag]
  by_cases hn : n = m
  · rw [if_pos hn, if_pos hn]
    split
    · exact Option.map_map ..
    · rfl
  · rw [if_neg hn, if_neg hn]

theorem attribute?_check (d : Document) (checked : Bool) (n m : Nat) (a : String) :
    (d.check checked n).attribute? m a = d.attribute? m a := by
  rw [check_eq_editAll]
  apply attribute?_editAll
  rintro e he k value rfl
  obtain ⟨k', b, hflag⟩ := mem_checkEdits he
  cases hflag

theorem groupKey?_check (d : Document) (checked : Bool) (n m : Nat) :
    (d.check checked n).groupKey? m = d.groupKey? m :=
  groupKey?_congr (sameShape_check checked n d) (attribute?_check d checked n m "name")
    (attribute?_check d checked n m "type")

/-- Checking a node leaves no other node checked that was not. -/
theorem checked?_of_check {checked : Bool} {n m : Nat} (hm : m ≠ n)
    (h : (d.check checked n).checked? m = some true) : d.checked? m = some true := by
  rw [checked?_check, if_neg (Ne.symm hm)] at h
  split at h
  · simp at h
  · exact h

/-- Checking a radio button leaves no other member of its group checked. -/
theorem Ordered.checked?_check_ne (h : d.Ordered) {n m : Nat} {k : GroupKey}
    (hn : d.groupKey? n = some k) (hm : d.groupKey? m = some k) (hne : m ≠ n) :
    (d.check true n).checked? m ≠ some true := by
  have hmem : m ∈ d.others true n := by
    simp [others, isRadio_of_groupKey? hn, (h.mem_radioGroup hn).2 hm, hne]
  rw [checked?_check, if_neg (Ne.symm hne), if_pos hmem]
  simp

/-- Checking keeps that no group has two checked members. -/
theorem SingleChecked.check (hd : d.SingleChecked) (h : d.Ordered) (checked : Bool) (n : Nat) :
    (d.check checked n).SingleChecked := by
  apply singleChecked_of_self n
  · intro m k hn hm hcn hcm
    rw [groupKey?_check] at hn hm
    by_contra hne
    have hchecked : checked = true := by
      rw [checked?_check, if_pos rfl, Option.map_eq_some_iff] at hcn
      obtain ⟨-, -, hcn⟩ := hcn
      exact hcn
    rw [hchecked] at hcm
    exact h.checked?_check_ne hn hm (Ne.symm hne) hcm
  · intro i j k hin hjn hi hj hci hcj
    rw [groupKey?_check] at hi hj
    exact hd i j k hi hj (checked?_of_check hin hci) (checked?_of_check hjn hcj)

/-! ## Documents that were read -/

theorem groupKey?_settle (d : Document) (n m : Nat) : (d.settle n).groupKey? m = d.groupKey? m := by
  rw [settle]
  split
  · exact groupKey?_check d true n m
  · rfl

theorem checked?_of_settle {n m : Nat} (h : (d.settle n).checked? m = some true) :
    d.checked? m = some true := by
  rw [settle] at h
  split at h
  · rename_i hn
    simp only [Bool.and_eq_true, beq_iff_eq] at hn
    by_cases hm : m = n
    · rw [hm]
      exact hn.2
    · exact checked?_of_check hm h
  · exact h

theorem checked?_of_foldl_settle {l : List Nat} {m : Nat}
    (h : (l.foldl settle d).checked? m = some true) : d.checked? m = some true := by
  revert m
  apply foldl_related (R := fun d d' => ∀ {m}, d'.checked? m = some true → d.checked? m = some true)
    (fun _ _ h => h) (fun _ _ _ h h' _ hc => h (h' hc))
  intro n _ d m hc
  exact checked?_of_settle hc

/-- A radio button that was settled and is still checked is the only one of its group. -/
theorem Ordered.checked?_foldl_settle (h : d.Ordered) {l : List Nat} {n m : Nat} {k : GroupKey}
    (hl : n ∈ l) (hn : d.groupKey? n = some k) (hm : d.groupKey? m = some k)
    (hcn : (l.foldl settle d).checked? n = some true)
    (hcm : (l.foldl settle d).checked? m = some true) : n = m := by
  induction l generalizing d with
  | nil => cases hl
  | cons a l ih =>
    rw [List.foldl_cons] at hcn hcm
    rw [List.mem_cons] at hl
    by_cases hna : n = a
    · subst hna
      by_contra hne
      -- The radio button was checked when its turn came, and so its group was unchecked.
      have hchecked : d.checked? n = some true :=
        checked?_of_settle (checked?_of_foldl_settle hcn)
      have hstep : d.settle n = d.check true n := by
        rw [settle, isRadio_of_groupKey? hn, hchecked]
        rfl
      have hafter : (d.settle n).checked? m = some true := checked?_of_foldl_settle hcm
      rw [hstep] at hafter
      exact h.checked?_check_ne hn hm (Ne.symm hne) hafter
    · apply ih (h.of_sameShape (sameShape_settle d a)) (hl.resolve_left hna) _ _ hcn hcm
      · rw [groupKey?_settle]
        exact hn
      · rw [groupKey?_settle]
        exact hm

theorem Ordered.singleChecked_settleRadios (h : d.Ordered) : d.settleRadios.SingleChecked := by
  have hkey : ∀ n, d.settleRadios.groupKey? n = d.groupKey? n := by
    rw [settleRadios_eq]
    apply foldl_related (R := fun d d' => ∀ n, d'.groupKey? n = d.groupKey? n)
      (fun _ _ => rfl) (fun _ _ _ h h' n => (h' n).trans (h n))
    intro a _ d n
    exact groupKey?_settle d a n
  intro n m k hn hm hcn hcm
  rw [hkey] at hn hm
  rw [settleRadios_eq] at hcn hcm
  apply h.checked?_foldl_settle _ hn hm hcn hcm
  rw [List.mem_reverse, h.mem_descendants_root]
  exact isElement_of_isRadio (isRadio_of_groupKey? hn)

theorem singleChecked_ofHtml {html : String} (hd : ofHtml html = .ok d) : d.SingleChecked := by
  obtain ⟨tokens, rfl⟩ := exists_tokens_of_ofHtml hd
  have hbuilt := Builder.sound_empty.foldl_push tokens
  exact (hbuilt.ordered.of_sameShape (sameShape_fillTextAreas _)).singleChecked_settleRadios

end Document

/-! ## Changes -/

/-- A checked element gets a name or a type that puts it into a group with a checked member. -/
def Change.Clashes (c : Change) (d : Document) : Prop :=
  ∃ n a v m k, c.assigns? = some (n, a, v) ∧ (a = "name" ∨ a = "type") ∧
    d.groupKeyOf? n (if a = "name" then v else d.attribute? n "name")
      (if a = "type" then v else d.attribute? n "type") = some k ∧
    m ≠ n ∧ d.groupKey? m = some k ∧ d.checked? n = some true ∧ d.checked? m = some true

namespace Document

variable {d : Document} {c : Change}

/-- A change of an attribute puts the element into its new group, and leaves the groups of the other
elements. -/
theorem groupKey?_perform {n : Nat} {a : String} {v : Option String}
    (hc : c.assigns? = some (n, a, v)) (h : d.isElement n = true) (m : Nat) :
    (c.perform d).groupKey? m =
      if n = m then
        d.groupKeyOf? n (if a = "name" then v else d.attribute? n "name")
          (if a = "type" then v else d.attribute? n "type")
      else d.groupKey? m := by
  have hs : SameShape d (c.perform d) := sameShape_perform d c
  rw [hs.groupKey?, attribute?_perform_of_assigns? hc h, attribute?_perform_of_assigns? hc h]
  by_cases hm : n = m
  · subst hm
    simp only [true_and, if_true]
  · simp only [hm, false_and, if_false, groupKey?]

/-- A change of a name or a type that does not clash checks no two members of a group. -/
theorem singleChecked_perform_of_assigns? {n : Nat} {a : String} {v : Option String}
    (hd : d.SingleChecked) (hc : c.assigns? = some (n, a, v)) (ha : a = "name" ∨ a = "type")
    (h : d.isElement n = true) : (c.perform d).SingleChecked ↔ ¬ c.Clashes d := by
  have hchecks : c.checks = false := by
    cases c with
    | setAttribute k name value =>
      cases hc
      obtain ha | ha := ha <;> simp [Change.checks, ha]
    | setChecked k checked => cases hc
    | _ => rfl
  have hchecked : ∀ m, (c.perform d).checked? m = d.checked? m := checked?_perform d hchecks
  constructor
  · rintro hsingle ⟨n', a', v', m, k, hc', -, hn, hne, hm, hcn, hcm⟩
    obtain ⟨rfl, rfl, rfl⟩ : n = n' ∧ a = a' ∧ v = v' := by
      simpa using hc.symm.trans hc'
    have hn' : (c.perform d).groupKey? n = some k := by
      rw [groupKey?_perform hc h, if_pos rfl]
      exact hn
    have hm' : (c.perform d).groupKey? m = some k := by
      rw [groupKey?_perform hc h, if_neg (Ne.symm hne)]
      exact hm
    rw [← hchecked] at hcn hcm
    exact hne (hsingle n m k hn' hm' hcn hcm).symm
  · intro hkept
    apply singleChecked_of_self n
    · intro m k hn hm hcn hcm
      rw [hchecked] at hcn hcm
      by_contra hne
      rw [groupKey?_perform hc h, if_pos rfl] at hn
      rw [groupKey?_perform hc h, if_neg hne] at hm
      exact hkept ⟨n, a, v, m, k, hc, ha, hn, Ne.symm hne, hm, hcn, hcm⟩
    · intro i j k hin hjn hi hj hci hcj
      rw [hchecked] at hci hcj
      rw [groupKey?_perform hc h, if_neg (Ne.symm hin)] at hi
      rw [groupKey?_perform hc h, if_neg (Ne.symm hjn)] at hj
      exact hd i j k hi hj hci hcj

/-- A change that checks or unchecks checks no two members of a group. -/
theorem SingleChecked.perform_of_checks (hd : d.SingleChecked) (h : d.Ordered)
    (hc : c.checks = true) : (c.perform d).SingleChecked := by
  cases c with
  | setChecked n checked =>
    rw [perform_eq_editAll, Change.edits]
    split
    · rw [← check_eq_editAll]
      exact hd.check h checked n
    · exact hd
  | setAttribute n name value =>
    have hname : lowerText name = "checked" := by simpa [Change.checks] using hc
    by_cases he : d.isElement n = true
    · have hset : ((Edit.assign n "checked" (some value)).perform d).SingleChecked := by
        have hshape := sameShape_edit d (.assign n "checked" (some value))
        apply (singleChecked_congr _ _).2 hd
        · intro m
          apply groupKey?_congr hshape <;> exact attribute?_edit d (by simp) m
        · exact checked?_edit d (by simp)
      rw [perform_eq_editAll, Change.edits, if_pos he, hname]
      show (editAll _ (checkEdits _ true n)).SingleChecked
      rw [← check_eq_editAll]
      exact hset.check (h.of_sameShape (sameShape_edit d _)) true n
    · rw [perform_of_not_isElement rfl he]
      exact hd
  | _ => cases hc

/-- Only a change that sets an attribute clashes. -/
theorem exists_setAttribute_of_clashes (h : c.Clashes d) :
    ∃ n name value, c = .setAttribute n name value := by
  obtain ⟨n, a, v, m, k, hc, ha, hn, -⟩ := h
  cases c with
  | setAttribute n name value => exact ⟨n, name, value, rfl⟩
  | removeAttribute n name =>
    cases hc
    obtain ha | ha := ha <;> simp [groupKeyOf?, ha] at hn
  | _ => cases hc

/-- Only a change that clashes checks two members of a group. -/
theorem Ordered.singleChecked_perform_iff (h : d.Ordered) (hd : d.SingleChecked) (c : Change) :
    (c.perform d).SingleChecked ↔ ¬ c.Clashes d := by
  by_cases hc : ∃ n a v, c.assigns? = some (n, a, v) ∧ (a = "name" ∨ a = "type")
  · obtain ⟨n, a, v, hc, ha⟩ := hc
    by_cases he : d.isElement n = true
    · exact singleChecked_perform_of_assigns? hd hc ha he
    · rw [perform_of_not_isElement hc he, iff_true_left hd]
      rintro ⟨n', a', v', m, k, hc', -, -, -, -, hcn, -⟩
      have htarget : n = n' := (Prod.mk.inj (Option.some.inj (hc.symm.trans hc'))).1
      subst htarget
      exact he (isElement_of_checked? hcn)
  · have hclash : ¬ c.Clashes d := by
      rintro ⟨n, a, v, m, k, hc', ha, -⟩
      exact hc ⟨n, a, v, hc', ha⟩
    rw [iff_true_right hclash]
    by_cases hchecks : c.checks = true
    · exact hd.perform_of_checks h hchecks
    · have hattributes : ∀ a, a = "name" ∨ a = "type" → a ∉ c.attributes := by
        intro a ha hmem
        obtain ⟨n, v, hassigns⟩ := Change.exists_assigns? hmem (by rintro rfl; simp at ha)
          (by rintro rfl; simp at ha)
        exact hc ⟨n, a, v, hassigns, ha⟩
      have hkey : ∀ m, (c.perform d).groupKey? m = d.groupKey? m := fun m =>
        groupKey?_congr (sameShape_perform d c)
          (attribute?_perform d (hattributes "name" (.inl rfl)) m)
          (attribute?_perform d (hattributes "type" (.inr rfl)) m)
      exact (singleChecked_congr hkey (checked?_perform d (by simpa using hchecks))).2 hd

/-- **Groups of radio buttons.** In a document that was read no group has two checked members. So it
is all along a run of changes exactly when no change of the run gives a checked element a name or a
type that puts it into a group with a checked member. The groups are those in which checking a
member unchecks the others. -/
theorem ofHtml_singleChecked_iff {html : String} {d : Document} (hd : ofHtml html = .ok d)
    (changes : List Change) :
    d.SingleChecked ∧
    ((∀ s t, changes = s ++ t → (d.run s).SingleChecked) ↔
      ∀ s c t, changes = s ++ c :: t → ¬ c.Clashes (d.run s)) ∧
    ∀ s n k, (d.run s).groupKey? n = some k →
      ∀ m, m ∈ (d.run s).radioGroup n ↔ (d.run s).groupKey? m = some k := by
  have hordered : d.Ordered := ordered_ofHtml hd
  have hread : d.SingleChecked := singleChecked_ofHtml hd
  refine ⟨hread, ?_, ?_⟩
  · exact forall_run_iff (I := Ordered) (P := SingleChecked)
      (fun d c h => h.of_sameShape (sameShape_perform d c))
      (fun d c h hd => h.singleChecked_perform_iff hd c) hordered hread changes
  · intro s n k hn m
    exact (hordered.run s).mem_radioGroup hn

/-- Two radio buttons of two names, both checked. -/
def twoGroups : String := "<input type=radio name=a checked><input type=radio name=b checked>"

/-- Once the second radio button has the name of the first one, both are checked in one group. -/
theorem not_singleChecked_twoGroups :
    ∃ d, ofHtml twoGroups = .ok d ∧ ∃ d', d' = d.run [.setAttribute 2 "name" "a"] ∧
      d'.radioGroup 1 = [1, 2] ∧ d'.checked? 1 = some true ∧ d'.checked? 2 = some true := by
  have hread : (ofHtml twoGroups).toOption.map (fun d =>
      let d := d.run [.setAttribute 2 "name" "a"]
      (d.radioGroup 1, d.checked? 1, d.checked? 2)) = some ([1, 2], some true, some true) := by
    decide +kernel
  obtain ⟨d, hd, hafter⟩ := exists_of_map_ofHtml hread
  simp only [Prod.mk.injEq] at hafter
  exact ⟨d, hd, _, rfl, hafter⟩

/-- Without its name the second radio button is in no group. -/
theorem singleChecked_twoGroups :
    ∃ d, ofHtml twoGroups = .ok d ∧
      (d.run [.setChecked 1 true, .removeAttribute 2 "name"]).SingleChecked := by
  have hread : (ofHtml twoGroups).toOption.map size = some 3 := by decide +kernel
  obtain ⟨d, hd, -⟩ := exists_of_map_ofHtml hread
  let changes : List Change := [.setChecked 1 true, .removeAttribute 2 "name"]
  refine ⟨d, hd, (ofHtml_singleChecked_iff hd changes).2.1.2 ?_ changes [] rfl⟩
  intro s c t hs hclash
  obtain ⟨n, name, value, rfl⟩ := exists_setAttribute_of_clashes hclash
  have hmem : Change.setAttribute n name value ∈ changes := by
    rw [hs]
    exact List.mem_append_right s List.mem_cons_self
  simp [changes] at hmem

end Document

end FormRules
