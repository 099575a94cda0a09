import FormRules.Page
import FormRules.Proofs.Document.Building

/-!
# Looking up identifiers

An element is found by its identifier through a map that each change keeps in step. The map holds
one element for an identifier, although several may have it. When the one that it holds gives the
identifier away, none of the others takes its place. What is found always has the identifier.

* `IdsComplete`: every identifier that some element has is found.
* `IdsCurrent`, `IdsFirst`: what is found has the identifier, and is the first that has it.
* `elementById?_perform`: what a change does to the map.
* `Change.Orphans`: an element gives away an identifier by which it is found, and another has it.
* `idsComplete_perform_iff`: no other change loses an identifier.
* `IdsComplete.exists_found`: what is complete leads selectors and references to an element.
* `ofHtml_idsComplete_iff`: the runs of changes that lose none.
* `ofHtml_elementById?`: what is found, in a document that was read and after any run of changes.
-/

namespace FormRules

namespace Document

variable {d d' : Document}

/-! ## Documents that were read -/

/-- Every identifier that some element has is found. -/
def IdsComplete (d : Document) : Prop :=
  ∀ n id, d.attribute? n "id" = some id → (d.elementById? id).isSome = true

/-- The element that is found by an identifier has it. -/
def IdsCurrent (d : Document) : Prop :=
  ∀ n id, d.elementById? id = some n → d.attribute? n "id" = some id

/-- Of the elements with an identifier none stands in front of the one that is found. -/
def IdsFirst (d : Document) : Prop :=
  ∀ n id, d.elementById? id = some n → ∀ m, d.attribute? m "id" = some id → n ≤ m

/-- An identifier is found exactly when some element has it, and leads to the first that has it. -/
structure Indexed (d : Document) : Prop where
  complete : d.IdsComplete
  current : d.IdsCurrent
  first : d.IdsFirst

theorem idsComplete_congr {d d' : Document} (ha : ∀ n, d'.attribute? n "id" = d.attribute? n "id")
    (hi : d'.ids = d.ids) : d'.IdsComplete ↔ d.IdsComplete := by
  simp only [IdsComplete, elementById?, ha, hi]

theorem idsCurrent_congr {d d' : Document} (ha : ∀ n, d'.attribute? n "id" = d.attribute? n "id")
    (hi : d'.ids = d.ids) : d'.IdsCurrent ↔ d.IdsCurrent := by
  simp only [IdsCurrent, elementById?, ha, hi]

theorem Indexed.congr {d d' : Document} (h : d.Indexed)
    (ha : ∀ n, d'.attribute? n "id" = d.attribute? n "id") (hi : d'.ids = d.ids) : d'.Indexed where
  complete := (idsComplete_congr ha hi).2 h.complete
  current := (idsCurrent_congr ha hi).2 h.current
  first := by
    have hfirst := h.first
    simp only [IdsFirst, elementById?, ha, hi] at hfirst ⊢
    exact hfirst

theorem indexed_empty : empty.Indexed := by
  have hattribute : ∀ n id, empty.attribute? n "id" ≠ some id := by
    intro n id h
    have helement : empty.element? n = none := by
      cases n <;> rfl
    rw [attribute?, helement] at h
    cases h
  have hnone : ∀ id, empty.elementById? id = none := fun _ => rfl
  refine ⟨fun n id h => absurd h (hattribute n id), ?_, ?_⟩
  · intro n id h
    rw [hnone] at h
    cases h
  · intro n id h
    rw [hnone] at h
    cases h

theorem lt_size_of_attribute? {n : Nat} {a s : String} (h : d.attribute? n a = some s) :
    n < d.size :=
  lt_size_of_isElement (isElement_of_attribute? h)

theorem attribute?_addElement (p : Nat) (e : Element) (d : Document) (n : Nat) (a : String) :
    (d.addElement p e).attribute? n a =
      if n = d.size then e.attribute? a else d.attribute? n a := by
  rw [attribute?, element?_addElement]
  split <;> rfl

theorem elementById?_addElement (p : Nat) (e : Element) (d : Document) (id : String) :
    (d.addElement p e).elementById? id =
      if e.attribute? "id" = some id ∧ d.elementById? id = none then some d.size
      else d.elementById? id := by
  rw [elementById?, addElement]
  cases h : e.attribute? "id" with
  | none => rfl
  | some id' =>
    show (d.ids.insertNew id' d.size).get? id = _
    rw [Dict.get?_insertNew]
    by_cases hid : id = id'
    · subst hid
      simp [elementById?]
    · simp [hid, Ne.symm hid, elementById?]

/-- A new element is found by its identifier, or another one already is. -/
theorem IdsComplete.addElement (h : d.IdsComplete) (p : Nat) (e : Element) :
    (d.addElement p e).IdsComplete := by
  intro n id hn
  rw [attribute?_addElement] at hn
  rw [elementById?_addElement]
  split
  · rfl
  · rename_i hold
    split at hn
    · rw [Option.isSome_iff_ne_none]
      intro hnone
      exact hold ⟨hn, hnone⟩
    · exact h n id hn

theorem IdsCurrent.addElement (h : d.IdsCurrent) (p : Nat) (e : Element) :
    (d.addElement p e).IdsCurrent := by
  intro n id hn
  rw [elementById?_addElement] at hn
  rw [attribute?_addElement]
  split at hn
  · rename_i hnew
    cases hn
    rw [if_pos rfl]
    exact hnew.1
  · have hold : d.attribute? n "id" = some id := h n id hn
    rw [if_neg (Nat.ne_of_lt (lt_size_of_attribute? hold))]
    exact hold

/-- A new element is found only if no element in front of it has its identifier. -/
theorem Indexed.addElement (h : d.Indexed) (p : Nat) (e : Element) :
    (d.addElement p e).Indexed where
  complete := h.complete.addElement p e
  current := h.current.addElement p e
  first := by
    intro n id hn m hm
    rw [elementById?_addElement] at hn
    rw [attribute?_addElement] at hm
    split at hn
    · rename_i hnew
      cases hn
      split at hm
      · omega
      · have hfound := h.complete m id hm
        rw [hnew.2] at hfound
        cases hfound
    · split at hm
      · have hlt : n < d.size := lt_size_of_attribute? (h.current n id hn)
        omega
      · exact h.first n id hn m hm

theorem indexed_ofTokens (tokens : List Markup.Token) : (ofTokens tokens).Indexed := by
  have hbuilt : (tokens.foldl Builder.push {}).document.Indexed := by
    have htext : ∀ (d : Document) p s, d.Indexed → (d.addText p s).Indexed := by
      intro d p s h
      exact h.congr (fun n => congrArg (Option.bind · _) (element?_addText p s d n)) rfl
    exact Builder.foldl_push_induction htext (fun _ p _ _ h => h.addElement p _)
      indexed_empty tokens
  have hfinished : ∀ d : Document, d.Indexed → d.fillTextAreas.settleRadios.Indexed := by
    intro d
    apply finish_related (R := fun d d' => d.Indexed → d'.Indexed) (fun _ h => h)
      (fun _ _ _ h h' hd => h' (h hd))
    · intro d n value h
      exact h.congr (attribute?_edit d (by rintro k v ⟨⟩)) rfl
    · intro d n checked h
      exact h.congr (attribute?_edit d (by rintro k v ⟨⟩)) rfl
  exact hfinished _ hbuilt

theorem indexed_ofHtml {html : String} (hd : ofHtml html = .ok d) : d.Indexed := by
  obtain ⟨tokens, rfl⟩ := exists_tokens_of_ofHtml hd
  exact indexed_ofTokens tokens

/-- The element that is found is the first one of the document that has the identifier. -/
theorem Indexed.elementById?_eq_find? (h : d.Indexed) (ho : d.Ordered) (id : String) :
    d.elementById? id = (d.descendants root).find? fun n => d.attribute? n "id" == some id := by
  cases hfound : d.elementById? id with
  | none =>
    rw [eq_comm, List.find?_eq_none]
    intro n _ hn
    have hsome := h.complete n id (beq_iff_eq.1 hn)
    rw [hfound] at hsome
    cases hsome
  | some n =>
    have hn : d.attribute? n "id" = some id := h.current n id hfound
    rw [eq_comm, find?_eq_some_iff_of_increasing (ho.pairwise_descendants root)]
    refine ⟨ho.mem_descendants_root.2 (isElement_of_attribute? hn), beq_iff_eq.2 hn, ?_⟩
    intro m _ hm
    exact h.first n id hfound m (beq_iff_eq.1 hm)

/-! ## Changes -/

theorem elementById?_releaseId (id : Option String) (n : Nat) (d : Document) (id' : String) :
    (d.releaseId id n).elementById? id' =
      if id = some id' ∧ d.elementById? id' = some n then none else d.elementById? id' := by
  cases id with
  | none => rfl
  | some id =>
    by_cases hn : d.elementById? id = some n
    · have hrelease : d.releaseId (some id) n = { d with ids := d.ids.erase id } := if_pos hn
      rw [hrelease]
      apply (Dict.get?_erase id id' d.ids).trans
      by_cases hid : id' = id
      · rw [if_pos hid, hid, if_pos ⟨rfl, hn⟩]
      · rw [if_neg hid, if_neg (fun h => hid (Option.some.inj h.1).symm)]
        rfl
    · have hrelease : d.releaseId (some id) n = d := if_neg hn
      rw [hrelease, if_neg]
      rintro ⟨hid, hfound⟩
      rw [← Option.some.inj hid] at hfound
      exact hn hfound

theorem elementById?_claimId (id : String) (n : Nat) (d : Document) (id' : String) :
    (d.claimId id n).elementById? id' = if id' = id then some n else d.elementById? id' :=
  Dict.get?_insert id id' n d.ids

variable {c : Change} {n : Nat} {id? : Option String}

/-- The edits that change an identifier. -/
theorem edits_of_assigns?_id (hc : c.assigns? = some (n, "id", id?)) (h : d.isElement n = true) :
    c.edits d =
      .assign n "id" id? :: .release n (d.attribute? n "id") :: (id?.map (.claim n)).toList := by
  cases c with
  | setAttribute k name value =>
    rw [Change.assigns?, Option.some.injEq, Prod.mk.injEq, Prod.mk.injEq] at hc
    obtain ⟨rfl, hid, rfl⟩ := hc
    rw [Change.edits, if_pos h]
    simp only [hid, if_true]
    rfl
  | removeAttribute k name =>
    rw [Change.assigns?, Option.some.injEq, Prod.mk.injEq, Prod.mk.injEq] at hc
    obtain ⟨rfl, hid, rfl⟩ := hc
    rw [Change.edits, if_pos h]
    simp only [hid, if_true]
    rfl
  | _ => cases hc

/-- An element with a new identifier is found by it, and no longer by the old one. -/
theorem elementById?_perform (hc : c.assigns? = some (n, "id", id?)) (h : d.isElement n = true)
    (id : String) :
    (c.perform d).elementById? id =
      if id? = some id then some n
      else if d.attribute? n "id" = some id ∧ d.elementById? id = some n then none
      else d.elementById? id := by
  have hids : ((Edit.assign n "id" id?).perform d).ids = d.ids := by
    cases id? <;> rfl
  have hfound : ((Edit.assign n "id" id?).perform d).elementById? id = d.elementById? id := by
    rw [elementById?, hids, elementById?]
  rw [perform_eq_editAll, edits_of_assigns?_id hc h]
  cases id? with
  | none =>
    show (releaseId _ n _).elementById? id = _
    rw [elementById?_releaseId, hfound]
    rfl
  | some new =>
    show (claimId new n (releaseId _ n _)).elementById? id = _
    rw [elementById?_claimId, elementById?_releaseId, hfound]
    simp only [Option.some.injEq, eq_comm]

end Document

/-- An element that is found by an identifier gives it away, and another element has it too. -/
def Change.Orphans (c : Change) (d : Document) : Prop :=
  ∃ n id? id, c.assigns? = some (n, "id", id?) ∧ id? ≠ some id ∧ d.attribute? n "id" = some id ∧
    d.elementById? id = some n ∧ ∃ m, m ≠ n ∧ d.attribute? m "id" = some id

namespace Document

variable {d : Document}

/-- A change of an identifier that orphans none loses none. -/
theorem idsComplete_perform_of_assigns? {c : Change} {n : Nat} {id? : Option String}
    (hd : d.IdsComplete) (hc : c.assigns? = some (n, "id", id?)) (h : d.isElement n = true) :
    (c.perform d).IdsComplete ↔ ¬ c.Orphans d := by
  have hattribute : ∀ m, (c.perform d).attribute? m "id" =
      if n = m then id? else d.attribute? m "id" := by
    intro m
    rw [attribute?_perform_of_assigns? hc h]
    simp only [and_true]
  constructor
  · rintro hcomplete ⟨n', id?', id, hc', hnew, hn, hfound, m, hm, hmid⟩
    obtain ⟨rfl, rfl⟩ : n = n' ∧ id? = id?' := by
      simpa using hc.symm.trans hc'
    have hafter : (c.perform d).attribute? m "id" = some id := by
      rw [hattribute, if_neg (Ne.symm hm)]
      exact hmid
    have hfind := hcomplete m id hafter
    rw [elementById?_perform hc h, if_neg hnew, if_pos ⟨hn, hfound⟩] at hfind
    cases hfind
  · intro hkept m id hmid
    rw [hattribute] at hmid
    rw [elementById?_perform hc h]
    split
    · rfl
    · rename_i hnew
      -- The element itself has the new identifier, so it is another one that has this.
      have hm : n ≠ m := by
        rintro rfl
        rw [if_pos rfl] at hmid
        exact hnew hmid
      rw [if_neg hm] at hmid
      rw [if_neg]
      · exact hd m id hmid
      · rintro ⟨hn, hfound⟩
        exact hkept ⟨n, id?, id, hc, hnew, hn, hfound, m, Ne.symm hm, hmid⟩

/-- Only a change that orphans an identifier loses one. -/
theorem idsComplete_perform_iff (hd : d.IdsComplete) (c : Change) :
    (c.perform d).IdsComplete ↔ ¬ c.Orphans d := by
  by_cases hid : "id" ∈ c.attributes
  · obtain ⟨n, id?, hc⟩ := Change.exists_assigns? hid (by decide) (by decide)
    by_cases h : d.isElement n = true
    · exact idsComplete_perform_of_assigns? hd hc h
    · rw [perform_of_not_isElement hc h, iff_true_left hd]
      rintro ⟨n', id?', id, hc', -, hn, -⟩
      have htarget : n = n' := (Prod.mk.inj (Option.some.inj (hc.symm.trans hc'))).1
      subst htarget
      exact h (isElement_of_attribute? hn)
  · have hkept : (c.perform d).IdsComplete ↔ d.IdsComplete :=
      idsComplete_congr (attribute?_perform d hid) (ids_perform d hid)
    rw [hkept, iff_true_left hd]
    rintro ⟨n, id?, id, hc, -⟩
    rw [Change.attributes_of_assigns? hc] at hid
    exact hid List.mem_cons_self

/-- With complete identifiers a node is found by every identifier that some element has, by
selectors and by references of rules alike. -/
theorem IdsComplete.exists_found (hd : d.IdsComplete) {n : Nat} {id : String}
    (hn : d.attribute? n "id" = some id) :
    ∃ m, d.elementById? id = some m ∧
      (∀ v selector, Page.identifier? selector = some id →
        Page.selectOne ⟨d, v⟩ selector = .ok m) ∧
      ∀ k kind, Field.peer? (⟨d, k, kind⟩ : Control) id = d.control? m := by
  obtain ⟨m, hm⟩ := Option.isSome_iff_exists.1 (hd n id hn)
  refine ⟨m, hm, ?_, ?_⟩
  · intro v selector hs
    simp only [Page.selectOne, hs, hm]
  · intro k kind
    show (d.elementById? id).bind d.control? = _
    rw [hm, Option.bind_some]

/-- **Looking up identifiers.** In a document that was read every identifier that some element has
is found. So it is all along a run of changes exactly when no change of the run takes an identifier
from the element that is found by it while another element has it too. As long as it is so,
selectors and references of an identifier that some element has lead to an element. -/
theorem ofHtml_idsComplete_iff {html : String} {d : Document} (hd : ofHtml html = .ok d)
    (changes : List Change) :
    d.IdsComplete ∧
    ((∀ s t, changes = s ++ t → (d.run s).IdsComplete) ↔
      ∀ s c t, changes = s ++ c :: t → ¬ c.Orphans (d.run s)) ∧
    ∀ s, (d.run s).IdsComplete → ∀ n id, (d.run s).attribute? n "id" = some id →
      ∃ m, (d.run s).elementById? id = some m ∧
        (∀ v selector, Page.identifier? selector = some id →
          Page.selectOne ⟨d.run s, v⟩ selector = .ok m) ∧
        ∀ k kind, Field.peer? (⟨d.run s, k, kind⟩ : Control) id = (d.run s).control? m := by
  have hread : d.IdsComplete := (indexed_ofHtml hd).complete
  refine ⟨hread, ?_, ?_⟩
  · exact forall_run_iff (I := fun _ => True) (P := IdsComplete) (fun _ _ _ => trivial)
      (fun d c _ h => idsComplete_perform_iff h c) trivial hread changes
  · intro s hs n id hn
    exact hs.exists_found hn

/-- Two paragraphs of one identifier. -/
def twinParagraphs : String := "<p id=a></p><p id=a></p>"

/-- Once the first paragraph has no identifier, the second one has it and is not found by it. -/
theorem not_idsComplete_twinParagraphs :
    ∃ d, ofHtml twinParagraphs = .ok d ∧
      (d.run [.removeAttribute 1 "id"]).attribute? 2 "id" = some "a" ∧
      (d.run [.removeAttribute 1 "id"]).elementById? "a" = none := by
  have hread : (ofHtml twinParagraphs).toOption.map (fun d =>
      let d := d.run [.removeAttribute 1 "id"]
      (d.attribute? 2 "id", d.elementById? "a")) = some (some "a", none) := by decide +kernel
  obtain ⟨d, hd, hafter⟩ := exists_of_map_ofHtml hread
  exact ⟨d, hd, (Prod.mk.inj hafter).1, (Prod.mk.inj hafter).2⟩

/-- Without an identifier the second paragraph takes nothing away, and the first one is found. -/
theorem idsComplete_twinParagraphs :
    ∃ d, ofHtml twinParagraphs = .ok d ∧ (d.run [.removeAttribute 2 "id"]).IdsComplete := by
  have hread : (ofHtml twinParagraphs).toOption.map (fun d =>
      (d.attribute? 2 "id", d.elementById? "a")) = some (some "a", some 1) := by decide +kernel
  obtain ⟨d, hd, hids⟩ := exists_of_map_ofHtml hread
  obtain ⟨htwo, hfound⟩ := Prod.mk.inj hids
  refine ⟨d, hd, (ofHtml_idsComplete_iff hd [.removeAttribute 2 "id"]).2.1.2 ?_ _ [] rfl⟩
  intro s c t hs
  obtain ⟨rfl, rfl, rfl⟩ : [] = s ∧ .removeAttribute 2 "id" = c ∧ [] = t := by
    cases s <;> simp_all
  rintro ⟨n, id?, id, hc, -, hn, hid, -⟩
  have htarget : 2 = n := (Prod.mk.inj (Option.some.inj hc)).1
  rw [← htarget] at hn hid
  have ha : "a" = id := Option.some.inj (htwo.symm.trans hn)
  rw [← ha] at hid
  cases hfound.symm.trans hid

/-! ## What is found has the identifier -/

/-- Every change keeps that what is found has the identifier. -/
theorem IdsCurrent.perform (hd : d.IdsCurrent) (c : Change) : (c.perform d).IdsCurrent := by
  by_cases hid : "id" ∈ c.attributes
  · obtain ⟨n, id?, hc⟩ := Change.exists_assigns? hid (by decide) (by decide)
    by_cases h : d.isElement n = true
    · intro m id hm
      rw [elementById?_perform hc h] at hm
      rw [attribute?_perform_of_assigns? hc h]
      simp only [and_true]
      split at hm
      · rename_i hnew
        cases hm
        rw [if_pos rfl]
        exact hnew
      · split at hm
        · cases hm
        · rename_i hkept
          have hold : d.attribute? m "id" = some id := hd m id hm
          -- The element itself was found by no other identifier than the one that it gave away.
          have hne : n ≠ m := by
            rintro rfl
            exact hkept ⟨hold, hm⟩
          rw [if_neg hne]
          exact hold
    · rw [perform_of_not_isElement hc h]
      exact hd
  · exact (idsCurrent_congr (attribute?_perform d hid) (ids_perform d hid)).2 hd

/-- **What is found.** In a document that was read the element that is found by an identifier is the
first one that has it, and nothing is found when none has. After any run of changes what is found is
an element of the document that has the identifier now. -/
theorem ofHtml_elementById? {html : String} {d : Document} (hd : ofHtml html = .ok d) :
    (∀ id, d.elementById? id =
      (d.descendants root).find? fun n => d.attribute? n "id" == some id) ∧
    ∀ changes n id, (d.run changes).elementById? id = some n →
      n ∈ (d.run changes).descendants root ∧ (d.run changes).attribute? n "id" = some id := by
  have hordered : d.Ordered := ordered_ofHtml hd
  have hindexed : d.Indexed := indexed_ofHtml hd
  refine ⟨hindexed.elementById?_eq_find? hordered, ?_⟩
  intro changes n id hn
  have hcurrent : (d.run changes).IdsCurrent :=
    run_invariant (fun _ c h => h.perform c) hindexed.current changes
  have hid : (d.run changes).attribute? n "id" = some id := hcurrent n id hn
  exact ⟨(hordered.run changes).mem_descendants_root.2 (isElement_of_attribute? hid), hid⟩

/-- The first paragraph is found. Once the second one has taken the identifier over, the first one
giving its own away takes nothing from it. -/
theorem elementById?_twinParagraphs :
    ∃ d, ofHtml twinParagraphs = .ok d ∧
      (d.descendants root).find? (fun n => d.attribute? n "id" == some "a") = some 1 ∧
      ∃ d', d' = d.run [.setAttribute 2 "ID" "a", .removeAttribute 1 "id"] ∧
        d'.elementById? "a" = some 2 ∧ 2 ∈ d'.descendants root ∧
        d'.attribute? 2 "id" = some "a" := by
  let changes : List Change := [.setAttribute 2 "ID" "a", .removeAttribute 1 "id"]
  have hread : (ofHtml twinParagraphs).toOption.map (fun d =>
      (d.elementById? "a", (d.run changes).elementById? "a")) = some (some 1, some 2) := by
    decide +kernel
  obtain ⟨d, hd, hids⟩ := exists_of_map_ofHtml hread
  obtain ⟨hfirst, hlast⟩ := Prod.mk.inj hids
  have hfound := ofHtml_elementById? hd
  exact ⟨d, hd, (hfound.1 "a").symm.trans hfirst, _, rfl, hlast, hfound.2 changes 2 "a" hlast⟩

end Document

end FormRules
