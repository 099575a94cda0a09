import FormRules.Proofs.Document.Building
import FormRules.Proofs.Runs

/-!
# Where elements stand

Where an element stands is settled by the open elements when its start tag comes, once the tag has
closed what it closes. So what holds of every element of a document and the tags above it is a
matter of each start tag and the stack that it finds.

* `Nested`: what holds of each tag of a stack and the tags around it.
* `Document.AllPlaces`: what holds of every element of a document and the tags above it.
* `Sound.filterMap_tag?_innermost`, `Sound.nested`: the stack says the tags above open elements.
* `allPlaces_push`, `allPlaces_foldl_push`: what a token does, and what a run of tokens does.
* `allPlaces_ofTokens_iff`: documents.
-/

namespace FormRules

open Markup (Attributes Token)

/-- The tag of the element that a token adds. -/
def Markup.Token.added? : Token → Option String
  | .start tag _ => some tag
  | .whole tag _ _ => some tag
  | .text _ => none
  | .stop _ => none

/-- What holds of each tag of a list and the tags behind it, which are those around it. -/
def Nested (P : String → List String → Prop) (tags : List String) : Prop :=
  ∀ inner tag outer, tags = inner ++ tag :: outer → P tag outer

theorem nested_cons {P : String → List String → Prop} {tag : String} {outer : List String} :
    Nested P (tag :: outer) ↔ P tag outer ∧ Nested P outer := by
  constructor
  · intro h
    refine ⟨h [] tag outer rfl, ?_⟩
    rintro inner tag' outer' rfl
    exact h (tag :: inner) tag' outer' rfl
  · rintro ⟨htag, h⟩ inner tag' outer' heq
    obtain ⟨rfl, hfirst⟩ | ⟨inner', rfl, hlater⟩ := List.cons_eq_append_iff.1 heq
    · cases hfirst
      exact htag
    · exact h inner' tag' outer' hlater

theorem Nested.of_append {P : String → List String → Prop} {inner outer : List String}
    (h : Nested P (inner ++ outer)) : Nested P outer := by
  rintro inner' tag outer' rfl
  exact h (inner ++ inner') tag outer' (List.append_assoc ..).symm

/-! ## Places -/

namespace Document

variable {d d' : Document} {P : String → List String → Prop}

/-- The tags of the elements above a node, the innermost first. -/
def tagsAbove (d : Document) (n : Nat) : List String := (d.ancestors n).filterMap d.tag?

/-- What holds of the tag of each element and the tags above it. -/
def AllPlaces (P : String → List String → Prop) (d : Document) : Prop :=
  ∀ n tag, d.tag? n = some tag → P tag (d.tagsAbove n)

theorem SameShape.allPlaces_iff (h : SameShape d d') : d'.AllPlaces P ↔ d.AllPlaces P := by
  simp only [AllPlaces, tagsAbove, h.tag?, h.ancestors]

theorem lt_size_of_tag? {n : Nat} {tag : String} (h : d.tag? n = some tag) : n < d.size := by
  apply lt_size_of_isElement
  rw [isElement_eq, h]
  rfl

namespace Grown

variable {p : Nat}

theorem tag?_old (h : Grown p d d') {n : Nat} (hn : n < d.size) : d'.tag? n = d.tag? n := by
  rw [Document.tag?, Document.tag?, h.element?_old n hn]

theorem tagsAbove_old (h : Grown p d d') {n : Nat} (hn : n < d.size) :
    d'.tagsAbove n = d.tagsAbove n := by
  rw [tagsAbove, tagsAbove, h.ancestors_old hn]
  apply List.filterMap_congr
  intro a ha
  exact h.tag?_old (Nat.lt_trans (lt_of_mem_ancestors ha) hn)

theorem tagsAbove_new (h : Grown p d d') (hp : p < d.size) :
    d'.tagsAbove d.size = (p :: d.ancestors p).filterMap d.tag? := by
  rw [tagsAbove, h.ancestors_new hp]
  apply List.filterMap_congr
  intro a ha
  apply h.tag?_old
  rcases List.mem_cons.1 ha with rfl | ha
  · exact hp
  · exact Nat.lt_trans (lt_of_mem_ancestors ha) hp

/-- A new node leaves the places of the others. -/
theorem allPlaces_iff (h : Grown p d d') (hp : p < d.size) :
    d'.AllPlaces P ↔ d.AllPlaces P ∧
      ∀ tag, d'.tag? d.size = some tag → P tag ((p :: d.ancestors p).filterMap d.tag?) := by
  constructor
  · intro hd
    constructor
    · intro n tag hn
      have hlt : n < d.size := lt_size_of_tag? hn
      rw [← h.tagsAbove_old hlt]
      exact hd n tag ((h.tag?_old hlt).trans hn)
    · intro tag htag
      rw [← h.tagsAbove_new hp]
      exact hd d.size tag htag
  · rintro ⟨hd, hnew⟩ n tag hn
    have hle : n < d.size + 1 := h.size ▸ lt_size_of_tag? hn
    obtain hlt | rfl := Nat.lt_succ_iff_lt_or_eq.1 hle
    · rw [h.tagsAbove_old hlt]
      exact hd n tag ((h.tag?_old hlt).symm.trans hn)
    · rw [h.tagsAbove_new hp]
      exact hnew tag hn

end Grown

theorem allPlaces_addText {p : Nat} (hp : p < d.size) (s : String) :
    (d.addText p s).AllPlaces P ↔ d.AllPlaces P := by
  rw [(grown_addText p s d).allPlaces_iff hp, and_iff_left_iff_imp]
  intro _ tag htag
  have hnone : (d.addText p s).tag? d.size = none := by
    simp [tag?, element?, content?, addText, addNode, size]
  rw [hnone] at htag
  cases htag

end Document

/-! ## The stack and the tags above -/

namespace Builder

open Document

variable {b : Builder} {P : String → List String → Prop}

/-- The tags of the open elements, the innermost first. -/
def openTags (b : Builder) : List String := b.stack.map Prod.fst

/-- The tags around the next element of a tag, once its start tag has closed what it closes. -/
def tagsAround (b : Builder) (tag : String) : List String :=
  (closeImplied tag b.stack).map Prod.fst

namespace Sound

/-- The tags on the stack are those of the innermost open node and of the nodes above it. -/
theorem filterMap_tag?_innermost (h : b.Sound) :
    (b.innermost :: b.document.ancestors b.innermost).filterMap b.document.tag? = b.openTags := by
  obtain ⟨d, stack⟩ := b
  induction stack with
  | nil =>
    have hroot : d.tag? root = none := by
      rw [tag?, h.ordered.element?_root]
      rfl
    show (root :: d.ancestors root).filterMap d.tag? = []
    rw [ancestors_of_none h.ordered.parent?_root, List.filterMap_cons_none hroot]
    rfl
  | cons entry outer ih =>
    obtain ⟨tag, n⟩ := entry
    have hclosed : Sound ⟨d, outer⟩ := h.close (List.suffix_cons _ outer)
    have hparent : d.parent? n = some (innermost ⟨d, outer⟩) := by
      obtain ⟨above, ho⟩ := opened_eq ⟨d, outer⟩
      have hchain : (n :: opened ⟨d, outer⟩).IsChain fun n p => d.parent? n = some p := h.chain
      rw [ho, List.isChain_cons_cons] at hchain
      exact hchain.1
    have htag : d.tag? n = some tag := h.tags (tag, n) List.mem_cons_self
    show (n :: d.ancestors n).filterMap d.tag? = tag :: outer.map Prod.fst
    rw [h.ordered.ancestors_eq hparent, List.filterMap_cons_some htag]
    exact congrArg _ (ih hclosed)

/-- Each open element stands under those behind it on the stack. -/
theorem nested (h : b.Sound) (hb : b.document.AllPlaces P) : Nested P b.openTags := by
  intro inner tag outer heq
  obtain ⟨inner', rest, hstack, -, hrest⟩ := List.map_eq_append_iff.1 heq
  obtain ⟨⟨tag', n⟩, outer', rfl, rfl, rfl⟩ := List.map_eq_cons_iff.1 hrest
  have hclosed : Sound ⟨b.document, (tag', n) :: outer'⟩ := h.close ⟨inner', hstack.symm⟩
  have htag : b.document.tag? n = some tag' := hclosed.tags (tag', n) List.mem_cons_self
  have hall : (n :: b.document.ancestors n).filterMap b.document.tag? =
      tag' :: outer'.map Prod.fst := hclosed.filterMap_tag?_innermost
  rw [List.filterMap_cons_some htag] at hall
  have habove : b.document.tagsAbove n = outer'.map Prod.fst := (List.cons.inj hall).2
  have hplace := hb n tag' htag
  rwa [habove] at hplace

end Sound

/-! ## Tokens -/

theorem allPlaces_addElement (h : b.Sound) (tag : String) (attributes : Attributes) :
    (b.addElement tag attributes).document.AllPlaces P ↔
      b.document.AllPlaces P ∧ P tag (b.tagsAround tag) := by
  have hclosed : Sound ⟨b.document, closeImplied tag b.stack⟩ :=
    h.close (closeImplied_suffix tag b.stack)
  have hgrown : Grown (innermost ⟨b.document, closeImplied tag b.stack⟩) b.document
      (b.addElement tag attributes).document := grown_addElement _ _ _
  rw [hgrown.allPlaces_iff hclosed.innermost_lt_size, hclosed.filterMap_tag?_innermost,
    tag?_addElement]
  simp only [Option.some.injEq, forall_eq']
  rfl

/-- A token leaves the places of all elements, and adds at most one. -/
theorem allPlaces_push (h : b.Sound) (token : Token) :
    (b.push token).document.AllPlaces P ↔
      b.document.AllPlaces P ∧ ∀ tag, token.added? = some tag → P tag (b.tagsAround tag) := by
  cases token with
  | text s =>
    rw [push, allPlaces_addText h.innermost_lt_size]
    simp [Token.added?]
  | start tag attributes =>
    rw [push, allPlaces_addElement h]
    simp [Token.added?]
  | whole tag attributes s =>
    have hlast : (b.addElement tag attributes).document.size - 1 <
        (b.addElement tag attributes).document.size := by
      rw [size_addElement]
      omega
    rw [push]
    split
    · rw [allPlaces_addElement h]
      simp [Token.added?]
    · rw [allPlaces_addText hlast, allPlaces_addElement h]
      simp [Token.added?]
  | stop tag => simp [push, Token.added?]

theorem allPlaces_of_foldl_push (h : b.Sound) {tokens : List Token}
    (hafter : (tokens.foldl push b).document.AllPlaces P) : b.document.AllPlaces P := by
  induction tokens generalizing b with
  | nil => exact hafter
  | cons token tokens ih => exact ((allPlaces_push h token).1 (ih (h.push token) hafter)).1

/-- What a start tag does to the open elements says what a run of tokens does. -/
theorem allPlaces_foldl_push {Bad : String → List String → Prop}
    (hstep : ∀ (b : Builder) tag, Nested P b.openTags →
      (P tag (b.tagsAround tag) ↔ ¬ Bad tag b.openTags))
    (h : b.Sound) (hb : b.document.AllPlaces P) (tokens : List Token) :
    (tokens.foldl push b).document.AllPlaces P ↔
      Always push (fun b token => ∀ tag, token.added? = some tag → ¬ Bad tag b.openTags) b
        tokens := by
  induction tokens generalizing b with
  | nil => exact iff_of_true hb always_nil
  | cons token tokens ih =>
    have hpush : (b.push token).document.AllPlaces P ↔
        ∀ tag, token.added? = some tag → ¬ Bad tag b.openTags := by
      rw [allPlaces_push h, and_iff_right hb]
      exact forall_congr' fun tag => imp_congr_right fun _ => hstep b tag (h.nested hb)
    rw [List.foldl_cons, always_cons, ← hpush]
    constructor
    · intro hafter
      have hnext := allPlaces_of_foldl_push (h.push token) hafter
      exact ⟨hnext, (ih (h.push token) hnext).1 hafter⟩
    · rintro ⟨hnext, hlater⟩
      exact (ih (h.push token) hnext).2 hlater

end Builder

theorem Document.allPlaces_ofTokens_iff {P Bad : String → List String → Prop}
    (hstep : ∀ (b : Builder) tag, Nested P b.openTags →
      (P tag (b.tagsAround tag) ↔ ¬ Bad tag b.openTags)) (tokens : List Token) :
    (ofTokens tokens).AllPlaces P ↔
      Always Builder.push (fun b token => ∀ tag, token.added? = some tag → ¬ Bad tag b.openTags) {}
        tokens := by
  have hempty : empty.AllPlaces P := by
    intro n tag hn
    have htag : empty.tag? n = none := by
      cases n <;> rfl
    rw [htag] at hn
    cases hn
  have hfinish : SameShape (tokens.foldl Builder.push {}).document (ofTokens tokens) :=
    (sameShape_fillTextAreas _).trans (sameShape_settleRadios _)
  rw [hfinish.allPlaces_iff, Builder.allPlaces_foldl_push hstep Builder.sound_empty hempty]

end FormRules
