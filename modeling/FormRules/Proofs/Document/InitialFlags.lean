import FormRules.Proofs.Document.Radios

/-!
# The flags of a document that was read

An element that was read is checked when it has the attribute for it. Then the groups of radio
buttons are settled from the back: a radio button that is still checked when its turn comes unchecks
all others of its group. It is then the last one of the group with the attribute, so all that come
later are unchecked already, and it is the only one that stays.

* `GroupMates`: radio buttons of one group.
* `FlagsFollow`: the flags are those of the attributes; `flagsFollow_built` for what was made.
* `checked?_foldl_settle_iff`: the flags when some radio buttons at the back are settled.
* `ofHtml_checked`: the flags of a document that was read.
-/

namespace FormRules.Document

variable {d d' : Document} {n m : Nat}

/-! ## Groups -/

/-- Two radio buttons with the same name, which is not empty, that belong to the same form or to
none. -/
def GroupMates (d : Document) (n m : Nat) : Prop :=
  d.isRadio n = true ∧ d.isRadio m = true ∧
    (∃ name, name ≠ "" ∧ d.attribute? n "name" = some name ∧ d.attribute? m "name" = some name) ∧
    d.owningForm? n = d.owningForm? m

theorem groupMates_iff :
    d.GroupMates n m ↔ ∃ k, d.groupKey? n = some k ∧ d.groupKey? m = some k := by
  constructor
  · rintro ⟨hn, hm, ⟨name, hne, hnamen, hnamem⟩, hform⟩
    refine ⟨(name, d.owningForm? n), ?_, ?_⟩
    · exact groupKey?_eq_some_iff.2 ⟨hn, hnamen, hne, rfl⟩
    · exact groupKey?_eq_some_iff.2 ⟨hm, hnamem, hne, hform.symm⟩
  · rintro ⟨⟨name, form⟩, hn, hm⟩
    obtain ⟨hradion, hnamen, hne, hformn⟩ := groupKey?_eq_some_iff.1 hn
    obtain ⟨hradiom, hnamem, -, hformm⟩ := groupKey?_eq_some_iff.1 hm
    exact ⟨hradion, hradiom, ⟨name, hne, hnamen, hnamem⟩, hformn.trans hformm.symm⟩

theorem groupMates_congr (hkey : ∀ n, d'.groupKey? n = d.groupKey? n) :
    d'.GroupMates n m ↔ d.GroupMates n m := by
  simp only [groupMates_iff, hkey]

theorem GroupMates.symm (h : d.GroupMates n m) : d.GroupMates m n := by
  obtain ⟨k, hn, hm⟩ := groupMates_iff.1 h
  exact groupMates_iff.2 ⟨k, hm, hn⟩

theorem GroupMates.trans {a : Nat} (h : d.GroupMates n m) (h' : d.GroupMates m a) :
    d.GroupMates n a := by
  obtain ⟨k, hn, hm⟩ := groupMates_iff.1 h
  obtain ⟨k', hm', ha⟩ := groupMates_iff.1 h'
  rw [hm] at hm'
  cases hm'
  exact groupMates_iff.2 ⟨k, hn, ha⟩

/-! ## Flags before the groups are settled -/

/-- The flag of every element says whether it has the attribute. -/
def FlagsFollow (d : Document) : Prop :=
  ∀ n e, d.element? n = some e → e.checked = (e.attribute? "checked").isSome

theorem FlagsFollow.checked?_iff (h : d.FlagsFollow) :
    d.checked? n = some true ↔ d.hasAttribute n "checked" = true := by
  rw [checked?, hasAttribute, attribute?]
  cases he : d.element? n with
  | none => simp
  | some e => simp [h n e he]

theorem flagsFollow_built (tokens : List Markup.Token) :
    (tokens.foldl Builder.push {}).document.FlagsFollow := by
  apply Builder.foldl_push_induction
  · intro d p s h n e he
    rw [element?_addText] at he
    exact h n e he
  · intro d p tag attributes h n e he
    rw [element?_addElement] at he
    split at he
    · cases he
      rfl
    · exact h n e he
  · intro n e he
    have hnone : empty.element? n = none := by
      cases n <;> rfl
    rw [hnone] at he
    cases he

theorem FlagsFollow.fillTextAreas (h : d.FlagsFollow) : d.fillTextAreas.FlagsFollow := by
  revert h
  apply foldl_related (R := fun d d' : Document => d.FlagsFollow → d'.FlagsFollow)
    (fun _ h => h) (fun _ _ _ h h' hd => h' (h hd))
  intro n _ d hd m e he
  rw [element?_modifyElement] at he
  split at he
  · obtain ⟨e', he', rfl⟩ := Option.map_eq_some_iff.1 he
    exact hd m e' he'
  · exact hd m e he

/-! ## Settling from the back -/

/-- The group of a radio button: itself and its mates. -/
theorem Ordered.mem_radioGroup_iff (h : d.Ordered) (hn : d.isRadio n = true) :
    m ∈ d.radioGroup n ↔ m = n ∨ d.GroupMates m n := by
  rw [groupMates_iff]
  cases hk : d.groupKey? n with
  | none => simp [radioGroup_of_groupKey?_eq_none hn hk]
  | some k =>
    rw [h.mem_radioGroup hk]
    constructor
    · intro hm
      exact .inr ⟨k, hm, rfl⟩
    · rintro (rfl | ⟨k', hm, hk'⟩)
      · exact hk
      · rw [hm, hk']

/-- What is unchecked when a radio button is checked are its mates. -/
theorem Ordered.mem_others_iff (h : d.Ordered) :
    m ∈ d.others true n ↔ d.GroupMates m n ∧ m ≠ n := by
  by_cases hradio : d.isRadio n = true
  · have hothers : m ∈ d.others true n ↔ m ∈ d.radioGroup n ∧ m ≠ n := by simp [others, hradio]
    rw [hothers, h.mem_radioGroup_iff hradio]
    exact and_congr_left fun hne => or_iff_right hne
  · have hnone : d.others true n = [] := by simp [others, hradio]
    rw [hnone]
    exact iff_of_false List.not_mem_nil fun hmates => hradio hmates.1.2.1

/-- Settling a radio button that is checked unchecks its mates, and settling any other node changes
no flag. -/
theorem Ordered.checked?_settle_iff (h : d.Ordered) :
    (d.settle n).checked? m = some true ↔
      d.checked? m = some true ∧ ¬ (d.checked? n = some true ∧ d.GroupMates m n ∧ m ≠ n) := by
  rw [settle]
  split
  · rename_i hn
    obtain ⟨-, hchecked⟩ : d.isRadio n = true ∧ d.checked? n = some true := by simpa using hn
    rw [checked?_check]
    by_cases hm : n = m
    · subst hm
      simp [hchecked]
    · rw [if_neg hm]
      by_cases hmem : m ∈ d.others true n
      · rw [if_pos hmem]
        have hmates := h.mem_others_iff.1 hmem
        simp [hmates, hchecked]
      · rw [if_neg hmem]
        have hmates := h.mem_others_iff.not.1 hmem
        exact (and_iff_left fun hall => hmates hall.2).symm
  · rename_i hn
    refine (and_iff_left ?_).symm
    rintro ⟨hchecked, hmates, -⟩
    exact hn (by simp [hmates.2.1, hchecked])

theorem Ordered.foldl_settle (h : d.Ordered) (l : List Nat) :
    (l.foldl settle d).Ordered ∧
      ∀ n m, (l.foldl settle d).GroupMates n m ↔ d.GroupMates n m := by
  have hkey : ∀ n, (l.foldl settle d).groupKey? n = d.groupKey? n := by
    apply foldl_related (R := fun d d' => ∀ n, d'.groupKey? n = d.groupKey? n)
      (fun _ _ => rfl) (fun _ _ _ h h' n => (h' n).trans (h n))
    intro a _ d n
    exact groupKey?_settle d a n
  exact ⟨h.of_sameShape (sameShape_foldl sameShape_settle l d), fun _ _ => groupMates_congr hkey⟩

/-- When the nodes at the back are settled, what is checked is what was checked, without what had a
checked mate among them further back. -/
theorem Ordered.checked?_foldl_settle_iff (h : d.Ordered) {l : List Nat}
    (hsorted : l.Pairwise (· > ·))
    (hback : ∀ n, d.isElement n = true → n ∈ l ∨ ∀ a ∈ l, n < a) :
    (l.foldl settle d).checked? m = some true ↔
      d.checked? m = some true ∧
        ∀ a ∈ l, m < a → d.GroupMates m a → d.checked? a ≠ some true := by
  induction l using List.reverseRecOn generalizing m with
  | nil => simp
  | append_singleton l a ih =>
    obtain ⟨hsorted, -, hlast⟩ := List.pairwise_append.1 hsorted
    have hfront : ∀ b ∈ l, a < b := fun b hb => hlast b hb a (List.mem_singleton.2 rfl)
    have hback' : ∀ n, d.isElement n = true → n ∈ l ∨ ∀ b ∈ l, n < b := by
      intro n hn
      obtain hmem | hbelow := hback n hn
      · rw [List.mem_append, List.mem_singleton] at hmem
        exact hmem.imp_right (by rintro rfl; exact hfront)
      · exact .inr fun b hb => hbelow b (List.mem_append_left _ hb)
    obtain ⟨hordered, hmates⟩ := h.foldl_settle l
    rw [List.foldl_append, List.foldl_cons, List.foldl_nil, hordered.checked?_settle_iff, hmates,
      ih hsorted hback', ih hsorted hback']
    constructor
    · rintro ⟨⟨hchecked, hlater⟩, hkept⟩
      refine ⟨hchecked, ?_⟩
      intro b hb hlt hmb hcb
      rw [List.mem_append, List.mem_singleton] at hb
      obtain hb | rfl := hb
      · exact hlater b hb hlt hmb hcb
      · -- A mate that was unchecked before its turn had a checked mate further back.
        refine hkept ⟨⟨hcb, ?_⟩, hmb, Nat.ne_of_lt hlt⟩
        intro b' hb' hlt' hmates'
        exact hlater b' hb' (Nat.lt_trans hlt hlt') (hmb.trans hmates')
    · rintro ⟨hchecked, hlater⟩
      refine ⟨⟨hchecked, fun b hb => hlater b (List.mem_append_left _ hb)⟩, ?_⟩
      rintro ⟨⟨hca, hlast⟩, hma, hne⟩
      obtain hlt | hgt := Nat.lt_or_gt_of_ne hne
      · exact hlater a (List.mem_append_right _ (List.mem_singleton.2 rfl)) hlt hma hca
      · have hmem : m ∈ l := by
          obtain hmem | hbelow := hback m (isElement_of_isRadio hma.1)
          · rw [List.mem_append, List.mem_singleton] at hmem
            exact hmem.resolve_right hne
          · have hlow := hbelow a (List.mem_append_right _ (List.mem_singleton.2 rfl))
            omega
        exact hlast m hmem hgt hma.symm hchecked

/-! ## Documents that were read -/

/-- Of the radio buttons of a group the last one with the attribute is checked. -/
theorem checked?_ofHtml_iff {html : String} (hd : ofHtml html = .ok d) :
    d.checked? n = some true ↔
      d.hasAttribute n "checked" = true ∧
        ∀ m, n < m → d.GroupMates n m → d.hasAttribute m "checked" = false := by
  obtain ⟨tokens, rfl⟩ := exists_tokens_of_ofHtml hd
  have hbuilt := Builder.sound_empty.foldl_push tokens
  have hflags := (flagsFollow_built tokens).fillTextAreas
  have hordered := hbuilt.ordered.of_sameShape (sameShape_fillTextAreas _)
  rw [ofTokens]
  generalize (tokens.foldl Builder.push {}).document.fillTextAreas = d at hflags hordered
  have hattribute : ∀ m, d.settleRadios.hasAttribute m "checked" = d.hasAttribute m "checked" := by
    have hkept : ∀ m, d.settleRadios.attribute? m "checked" = d.attribute? m "checked" := by
      apply settleRadios_related
        (R := fun d d' => ∀ m, d'.attribute? m "checked" = d.attribute? m "checked")
        (fun _ _ => rfl) (fun _ _ _ h h' m => (h' m).trans (h m))
      intro d n checked m
      exact attribute?_edit d (by simp) m
    intro m
    rw [hasAttribute, hkept, hasAttribute]
  have hmates : ∀ m, d.settleRadios.GroupMates n m ↔ d.GroupMates n m := fun m =>
    (hordered.foldl_settle _).2 n m
  have hsorted : (d.descendants root).reverse.Pairwise (· > ·) :=
    List.pairwise_reverse.2 (hordered.pairwise_descendants root)
  have hall : ∀ n, d.isElement n = true → n ∈ (d.descendants root).reverse ∨
      ∀ a ∈ (d.descendants root).reverse, n < a := fun n hn =>
    .inl (List.mem_reverse.2 (hordered.mem_descendants_root.2 hn))
  have hsettled := hordered.checked?_foldl_settle_iff (m := n) hsorted hall
  rw [← settleRadios_eq] at hsettled
  rw [hsettled, hflags.checked?_iff, hattribute]
  apply and_congr_right
  intro _
  simp only [hattribute, hmates, ne_eq, hflags.checked?_iff, Bool.not_eq_true]
  constructor
  · intro hlater m hlt hm
    exact hlater m (List.mem_reverse.2 (hordered.mem_descendants_root.2
      (isElement_of_isRadio hm.2.1))) hlt hm
  · exact fun hlater m _ hlt hm => hlater m hlt hm

/-- **Flags of a document that was read.** A radio button is checked when it has the attribute and
no radio button of its group that comes later in the document has it. Any other element is checked
when it has the attribute. -/
theorem ofHtml_checked {html : String} (hd : ofHtml html = .ok d) (hn : d.isElement n = true) :
    ∃ checked, d.checked n = .ok checked ∧
      (d.isRadio n = true → (checked = true ↔ d.hasAttribute n "checked" = true ∧
        ∀ m, n < m → d.GroupMates n m → d.hasAttribute m "checked" = false)) ∧
      (d.isRadio n = false → (checked = true ↔ d.hasAttribute n "checked" = true)) := by
  obtain ⟨e, he⟩ := isElement_iff.1 hn
  have hflag : d.checked? n = some e.checked := by rw [checked?, he, Option.map_some]
  have hchecked := checked?_ofHtml_iff (n := n) hd
  rw [hflag, Option.some_inj] at hchecked
  refine ⟨e.checked, by rw [checked, hflag], fun _ => hchecked, ?_⟩
  intro hradio
  rw [hchecked]
  refine and_iff_left ?_
  rintro m - ⟨hradion, -⟩
  rw [hradio] at hradion
  cases hradion

/-- Two groups of one name, a radio button without a name and a checkbox, all with the attribute. -/
def overlappingGroups : String :=
  "<input type=radio name=a checked><form><input type=radio name=a checked>" ++
    "<input type=radio name=a checked></form><input type=radio checked>" ++
    "<input type=checkbox name=a checked>"

/-- In the form the first of the two radio buttons is unchecked, by the one behind it. -/
theorem ofHtml_checked_overlappingGroups :
    ∃ d, ofHtml overlappingGroups = .ok d ∧ d.isElement 3 = true ∧ d.checked 3 = .ok false := by
  have hread : (ofHtml overlappingGroups).toOption.map (fun d =>
      (d.groupKey? 3, d.groupKey? 4, d.hasAttribute 4 "checked")) =
      some (some ("a", some 2), some ("a", some 2), true) := by
    decide +kernel
  obtain ⟨d, hd, hafter⟩ := exists_of_map_ofHtml hread
  simp only [Prod.mk.injEq] at hafter
  obtain ⟨hkey, hkey', hattribute⟩ := hafter
  have hradio : d.isRadio 3 = true := isRadio_of_groupKey? hkey
  have helement : d.isElement 3 = true := isElement_of_isRadio hradio
  obtain ⟨checked, hchecked, hlast, -⟩ := ofHtml_checked hd helement
  refine ⟨d, hd, helement, ?_⟩
  have hmates : d.GroupMates 3 4 := groupMates_iff.2 ⟨_, hkey, hkey'⟩
  cases checked with
  | false => exact hchecked
  | true =>
    have hnone := ((hlast hradio).1 rfl).2 4 (by omega) hmates
    rw [hattribute] at hnone
    cases hnone

end FormRules.Document
