import FormRules.Proofs.Document.Tree
import FormRules.Proofs.Markup.Names
import Mathlib.Data.List.Chain

/-!
# Building keeps the numbering

The open elements of a document in the making are a chain of parents from the innermost one to the
root, and the innermost one is the last node or above it. So a node that is added under it comes
next in document order.

* `Grown`: a document with one more node.
* `Builder.Sound`: the invariant, and `Builder.Sound.push`: every token keeps it.
* `ordered_ofHtml`: the nodes of a document that was read are numbered in document order.
-/

namespace FormRules

open Markup (Attributes Token)

namespace Document

/-! ## One more node -/

/-- A document with one more node under a parent. -/
structure Grown (p : Nat) (d d' : Document) : Prop where
  size : d'.size = d.size + 1
  parent?_new : d'.parent? d.size = some p
  parent?_old : ∀ n < d.size, d'.parent? n = d.parent? n
  element?_old : ∀ n < d.size, d'.element? n = d.element? n

theorem grown_addNode (p : Nat) (content : Content) (d : Document) :
    Grown p d (d.addNode p content) where
  size := Array.size_push ..
  parent?_new := by
    simp [parent?, addNode, size]
  parent?_old := by
    intro n hn
    have hne : n ≠ d.nodes.size := Nat.ne_of_lt hn
    simp only [parent?, addNode, Array.getElem?_push, if_neg hne]
  element?_old := by
    intro n hn
    have hne : n ≠ d.nodes.size := Nat.ne_of_lt hn
    simp only [element?, content?, addNode, Array.getElem?_push, if_neg hne]

theorem grown_addText (p : Nat) (s : String) (d : Document) : Grown p d (d.addText p s) :=
  grown_addNode p (.text s) d

theorem grown_addElement (p : Nat) (e : Element) (d : Document) :
    Grown p d (d.addElement p e) :=
  have h := grown_addNode p (.element e) d
  ⟨h.size, h.parent?_new, h.parent?_old, h.element?_old⟩

theorem element?_addText (p : Nat) (s : String) (d : Document) (m : Nat) :
    (d.addText p s).element? m = d.element? m := by
  by_cases hm : m = d.size
  · subst hm
    simp [element?, content?, addText, addNode, size]
  · have hne : m ≠ d.nodes.size := hm
    simp only [element?, content?, addText, addNode, Array.getElem?_push, if_neg hne]

theorem element?_addElement (p : Nat) (e : Element) (d : Document) (m : Nat) :
    (d.addElement p e).element? m = if m = d.size then some e else d.element? m := by
  by_cases hm : m = d.size
  · subst hm
    simp [element?, content?, addElement, addNode, size]
  · have hne : m ≠ d.nodes.size := hm
    rw [if_neg hm]
    simp only [element?, content?, addElement, addNode, Array.getElem?_push, if_neg hne]

theorem tag?_addElement (p : Nat) (e : Element) (d : Document) :
    (d.addElement p e).tag? d.size = some e.tag := by
  rw [tag?, element?_addElement, if_pos rfl, Option.map_some]

/-- A new node is a child of its parent, behind those that it has already, and of no other node. -/
theorem Grown.children {p : Nat} {d d' : Document} (h : Grown p d d') (hp : p < d.size) (n : Nat) :
    d'.children n = if n = p then d.children n ++ [d.size] else d.children n := by
  rw [Document.children, Document.children, h.size]
  by_cases hn : n < d.size
  · have hold : (List.range' (n + 1) (d.size - (n + 1))).filter (d'.parent? · == some n) =
        (List.range' (n + 1) (d.size - (n + 1))).filter (d.parent? · == some n) := by
      apply List.filter_congr
      intro m hm
      rw [List.mem_range'_1] at hm
      rw [h.parent?_old m (by omega)]
    have hend : n + 1 + (d.size - (n + 1)) = d.size := by omega
    have hcount : d.size + 1 - (n + 1) = d.size - (n + 1) + 1 := by omega
    rw [hcount, List.range'_1_concat, List.filter_append, hold, hend]
    by_cases hnp : n = p
    · simp [hnp, h.parent?_new]
    · simp [hnp, h.parent?_new, Ne.symm hnp]
  · have hold : d.size - (n + 1) = 0 := by omega
    have hnew : d.size + 1 - (n + 1) = 0 := by omega
    rw [hold, hnew, if_neg (by omega)]
    rfl

/-- The nodes under which the next one can hang: the last node and those above it. -/
def OnSpine (d : Document) (n : Nat) : Prop := n = d.size - 1 ∨ n ∈ d.ancestors (d.size - 1)

variable {d d' : Document}

theorem OnSpine.lt_size {n : Nat} (h : d.OnSpine n) (hd : 0 < d.size) : n < d.size := by
  obtain rfl | h := h
  · omega
  · have := lt_of_mem_ancestors h
    omega

theorem OnSpine.of_mem_ancestors {a n : Nat} (h : d.OnSpine n) (ha : a ∈ d.ancestors n) :
    d.OnSpine a := by
  obtain rfl | h := h
  · exact .inr ha
  · exact .inr (mem_ancestors_trans ha h)

namespace Grown

variable {p : Nat}

theorem ancestors_old (h : Grown p d d') {n : Nat} (hn : n < d.size) :
    d'.ancestors n = d.ancestors n := by
  induction n using Nat.strongRecOn with
  | ind n ih =>
    rw [ancestors, ancestors, h.parent?_old n hn]
    cases d.parent? n with
    | none => rfl
    | some q =>
      by_cases hq : q < n
      · simp only [hq, dite_true, ih q hq (Nat.lt_trans hq hn)]
      · simp only [hq, dite_false]

theorem ancestors_new (h : Grown p d d') (hp : p < d.size) :
    d'.ancestors d.size = p :: d.ancestors p := by
  rw [ancestors_of_some h.parent?_new hp, h.ancestors_old hp]

/-- The new node, its parent and the nodes above that one are where the next node can hang. -/
theorem onSpine_iff (h : Grown p d d') (hp : p < d.size) {n : Nat} :
    d'.OnSpine n ↔ n = d.size ∨ n = p ∨ n ∈ d.ancestors p := by
  rw [OnSpine, h.size, Nat.add_sub_cancel, h.ancestors_new hp, List.mem_cons]

/-- A node that hangs under the last one or above comes next in document order. -/
theorem ordered (h : Grown p d d') (hd : d.Ordered) (hp : d.OnSpine p) : d'.Ordered where
  size_pos := by
    rw [h.size]
    omega
  parent?_root := by
    rw [h.parent?_old root hd.size_pos]
    exact hd.parent?_root
  element?_root := by
    rw [h.element?_old root hd.size_pos]
    exact hd.element?_root
  parent?_succ := by
    intro n hn
    rw [h.size] at hn
    have hpos : 0 < d.size := hd.size_pos
    rw [h.ancestors_old (by omega : n < d.size)]
    by_cases hlast : n + 1 = d.size
    · refine ⟨p, ?_, ?_⟩
      · rw [hlast]
        exact h.parent?_new
      · have hn' : n = d.size - 1 := by omega
        rw [hn']
        exact hp
    · rw [h.parent?_old (n + 1) (by omega)]
      exact hd.parent?_succ n (by omega)

end Grown

end Document

/-! ## The invariant of building -/

namespace Builder

open Document

/-- The open nodes, the innermost first and the root last. -/
def opened (b : Builder) : List Nat := b.stack.map Prod.snd ++ [root]

/-- The nodes are numbered in document order, the open ones are a chain of parents that goes down to
where the next node can hang, and the stack says their tags. -/
structure Sound (b : Builder) : Prop where
  ordered : b.document.Ordered
  spine : b.document.OnSpine b.innermost
  chain : b.opened.IsChain fun n p => b.document.parent? n = some p
  tags : ∀ entry ∈ b.stack, b.document.tag? entry.2 = some entry.1

theorem opened_eq (b : Builder) : ∃ outer, b.opened = b.innermost :: outer := by
  rw [opened, innermost]
  cases b.stack with
  | nil => exact ⟨[], rfl⟩
  | cons entry stack => exact ⟨stack.map Prod.snd ++ [root], rfl⟩

theorem sound_empty : Sound {} where
  ordered := ⟨Nat.zero_lt_one, rfl, rfl, fun _ hn => absurd hn (by simp [Document.empty, size])⟩
  spine := .inl rfl
  chain := .singleton _
  tags := fun _ h => absurd h List.not_mem_nil

variable {b : Builder}

namespace Sound

/-- The open nodes are the innermost one and nodes above it. -/
theorem of_mem_opened (h : b.Sound) {n : Nat} (hn : n ∈ b.opened) :
    n = b.innermost ∨ n ∈ b.document.ancestors b.innermost := by
  have hchain := h.chain
  obtain ⟨outer, ho⟩ := b.opened_eq
  rw [ho] at hn hchain
  clear ho
  generalize b.innermost = first at hn hchain
  induction outer generalizing first with
  | nil => exact .inl (List.mem_singleton.1 hn)
  | cons second outer ih =>
    rw [List.isChain_cons_cons] at hchain
    obtain ⟨hparent, hchain⟩ := hchain
    rw [List.mem_cons] at hn
    obtain rfl | hn := hn
    · exact .inl rfl
    · rw [h.ordered.ancestors_eq hparent, List.mem_cons]
      exact .inr (ih second hn hchain)

theorem onSpine_of_mem_opened (h : b.Sound) {n : Nat} (hn : n ∈ b.opened) :
    b.document.OnSpine n := by
  obtain rfl | hn := h.of_mem_opened hn
  · exact h.spine
  · exact h.spine.of_mem_ancestors hn

theorem innermost_lt_size (h : b.Sound) : b.innermost < b.document.size :=
  h.spine.lt_size h.ordered.size_pos

theorem lt_size_of_mem_opened (h : b.Sound) {n : Nat} (hn : n ∈ b.opened) : n < b.document.size :=
  (h.onSpine_of_mem_opened hn).lt_size h.ordered.size_pos

theorem innermost_mem_opened (b : Builder) : b.innermost ∈ b.opened := by
  obtain ⟨outer, ho⟩ := b.opened_eq
  rw [ho]
  exact List.mem_cons_self

/-- Closing open elements from the inside keeps the invariant. -/
theorem close (h : b.Sound) {stack : List (String × Nat)} (hs : stack <:+ b.stack) :
    Sound { b with stack } := by
  have hopened : opened { b with stack } <:+ b.opened := by
    obtain ⟨inner, hinner⟩ := hs
    refine ⟨inner.map Prod.snd, ?_⟩
    rw [opened, opened, ← hinner, List.map_append, List.append_assoc]
  exact {
    ordered := h.ordered
    spine := h.onSpine_of_mem_opened (hopened.subset (innermost_mem_opened _))
    chain := h.chain.suffix hopened
    tags := fun entry he => h.tags entry (hs.subset he) }

/-- Adding a node where the next one can hang, at the innermost open element or inside it, keeps the
invariant. -/
theorem grow (h : b.Sound) {p : Nat} {d : Document} (hd : Grown p b.document d)
    (hp : b.document.OnSpine p)
    (hin : b.innermost = p ∨ b.innermost ∈ b.document.ancestors p) : Sound ⟨d, b.stack⟩ where
  ordered := hd.ordered h.ordered hp
  spine := (hd.onSpine_iff (hp.lt_size h.ordered.size_pos)).2 (.inr hin)
  chain := by
    apply h.chain.imp_of_mem_imp
    intro n q hn _ hq
    rw [hd.parent?_old n (h.lt_size_of_mem_opened hn)]
    exact hq
  tags := by
    intro entry he
    have hmem : entry.2 ∈ b.opened := List.mem_append_left _ (List.mem_map_of_mem he)
    rw [tag?, hd.element?_old _ (h.lt_size_of_mem_opened hmem)]
    exact h.tags entry he

end Sound

/-! ## What closes -/

theorem closeNamed_suffix (tag : String) (stack : List (String × Nat)) :
    closeNamed tag stack <:+ stack := by
  have hs : stack.dropWhile (·.1 ≠ tag) <:+ stack := List.dropWhile_suffix _
  rw [closeNamed]
  split
  · exact List.suffix_rfl
  · rename_i entry outer hd
    rw [hd] at hs
    exact (List.suffix_cons entry outer).trans hs

theorem closeOption?_suffix {group : Bool} {stack outer : List (String × Nat)}
    (h : closeOption? group stack = some outer) : outer <:+ stack := by
  induction stack with
  | nil => cases h
  | cons entry stack ih =>
    obtain ⟨tag, n⟩ := entry
    rw [closeOption?] at h
    split at h
    · cases h
      exact List.suffix_cons _ _
    · split at h
      · split at h
        · cases h
          exact List.suffix_cons _ _
        · cases h
      · split at h
        · cases h
        · exact (ih h).trans (List.suffix_cons _ _)

theorem closeImplied_suffix (tag : String) (stack : List (String × Nat)) :
    closeImplied tag stack <:+ stack := by
  rw [closeImplied]
  split
  · cases hc : closeOption? (tag == "optgroup") stack with
    | none => exact List.suffix_rfl
    | some outer => exact closeOption?_suffix hc
  · exact List.suffix_rfl

/-! ## Tokens -/

namespace Sound

/-- Adding an element under the innermost open node, once its start tag has closed what it
closes. -/
theorem addElement (h : b.Sound) (tag : String) (attributes : Attributes) :
    Sound (b.addElement tag attributes) := by
  have hclosed : Sound { b with stack := closeImplied tag b.stack } :=
    h.close (closeImplied_suffix tag b.stack)
  exact hclosed.grow (grown_addElement _ _ _) hclosed.spine (.inl rfl)

/-- Opening an element that was added last under the innermost open node. -/
theorem openLast (h : b.Sound) {tag : String} {n : Nat} (hn : n + 1 = b.document.size)
    (hparent : b.document.parent? n = some b.innermost)
    (htag : b.document.tag? n = some tag) : Sound { b with stack := (tag, n) :: b.stack } where
  ordered := h.ordered
  spine := .inl (by
    show n = b.document.size - 1
    omega)
  chain := by
    obtain ⟨outer, ho⟩ := b.opened_eq
    have hchain := h.chain
    rw [ho] at hchain
    show (n :: b.opened).IsChain _
    rw [ho, List.isChain_cons_cons]
    exact ⟨hparent, hchain⟩
  tags := by
    intro entry he
    rw [List.mem_cons] at he
    obtain rfl | he := he
    · exact htag
    · exact h.tags entry he

end Sound

theorem size_addElement (b : Builder) (tag : String) (attributes : Attributes) :
    (b.addElement tag attributes).document.size = b.document.size + 1 :=
  (grown_addElement _ _ b.document).size

/-- The new element hangs under the innermost open node. -/
theorem parent?_addElement (b : Builder) (tag : String) (attributes : Attributes) :
    (b.addElement tag attributes).document.parent? b.document.size =
      some (b.addElement tag attributes).innermost :=
  (grown_addElement _ _ b.document).parent?_new

theorem tag?_addElement (b : Builder) (tag : String) (attributes : Attributes) :
    (b.addElement tag attributes).document.tag? b.document.size = some tag :=
  Document.tag?_addElement _ _ b.document

/-- **The invariant of building.** Every token keeps it. -/
theorem Sound.push (h : b.Sound) (token : Token) : Sound (b.push token) := by
  cases token with
  | text s => exact h.grow (grown_addText _ _ _) h.spine (.inl rfl)
  | start tag attributes =>
    have hadded := h.addElement tag attributes
    have hsize := b.size_addElement tag attributes
    have hnew : (b.addElement tag attributes).document.size - 1 = b.document.size := by omega
    rw [Builder.push, hnew]
    exact hadded.openLast hsize.symm (b.parent?_addElement tag attributes)
      (b.tag?_addElement tag attributes)
  | whole tag attributes s =>
    have hadded := h.addElement tag attributes
    have hsize := b.size_addElement tag attributes
    have hnew : (b.addElement tag attributes).document.size - 1 = b.document.size := by omega
    rw [Builder.push]
    split
    · exact hadded
    · -- The text hangs under the new element, which is not open.
      apply hadded.grow (grown_addText _ _ _)
      · exact .inl rfl
      · right
        rw [hnew, hadded.ordered.ancestors_eq (b.parent?_addElement tag attributes)]
        exact List.mem_cons_self
  | stop tag => exact h.close (closeNamed_suffix tag b.stack)

theorem Sound.foldl_push (h : b.Sound) (tokens : List Token) :
    Sound (tokens.foldl Builder.push b) := by
  induction tokens generalizing b with
  | nil => exact h
  | cons token tokens ih => exact ih (h.push token)

/-- What adding texts and elements of certain attributes keeps holds of what is made of tokens that
add no others. -/
theorem foldl_push_induction_of {P : Document → Prop} {Q : Attributes → Prop}
    (htext : ∀ d p s, P d → P (d.addText p s))
    (helement : ∀ d p tag attributes, Q attributes → P d →
      P (d.addElement p (.ofTag tag attributes)))
    (h : P b.document) {tokens : List Token}
    (htokens : ∀ token ∈ tokens, ∀ attributes, token.attributes? = some attributes → Q attributes) :
    P (tokens.foldl push b).document := by
  have hadd : ∀ (b : Builder) tag attributes, Q attributes → P b.document →
      P (b.addElement tag attributes).document := fun b tag attributes hq h =>
    helement b.document _ tag attributes hq h
  induction tokens generalizing b with
  | nil => exact h
  | cons token tokens ih =>
    have htoken := htokens token List.mem_cons_self
    refine ih ?_ fun token' hmem => htokens token' (List.mem_cons_of_mem token hmem)
    cases token with
    | text s => exact htext _ _ _ h
    | start tag attributes => exact hadd b tag attributes (htoken attributes rfl) h
    | whole tag attributes s =>
      have hadded := hadd b tag attributes (htoken attributes rfl) h
      rw [push]
      split
      · exact hadded
      · exact htext _ _ _ hadded
    | stop tag => exact h

/-- What adding texts and elements keeps holds of what is made. -/
theorem foldl_push_induction {P : Document → Prop} (htext : ∀ d p s, P d → P (d.addText p s))
    (helement : ∀ d p tag attributes, P d → P (d.addElement p (.ofTag tag attributes)))
    (h : P b.document) (tokens : List Token) : P (tokens.foldl push b).document :=
  foldl_push_induction_of (Q := fun _ => True) htext
    (fun d p tag attributes _ => helement d p tag attributes) h fun _ _ _ _ => trivial

end Builder

namespace Document

/-! ## Documents that were read -/

theorem ordered_ofTokens (tokens : List Token) : (ofTokens tokens).Ordered := by
  have hbuilt := Builder.sound_empty.foldl_push tokens
  have hfilled := hbuilt.ordered.of_sameShape (sameShape_fillTextAreas _)
  exact hfilled.of_sameShape (sameShape_settleRadios _)

theorem exists_scan_of_ofHtml {html : String} {d : Document} (h : ofHtml html = .ok d) :
    ∃ tokens, Token.scan html.toList = .ok tokens ∧ d = ofTokens tokens := by
  rw [ofHtml] at h
  split at h
  · rename_i tokens hscan
    cases h
    exact ⟨tokens, hscan, rfl⟩
  · cases h

theorem exists_tokens_of_ofHtml {html : String} {d : Document} (h : ofHtml html = .ok d) :
    ∃ tokens, d = ofTokens tokens := by
  obtain ⟨tokens, -, hd⟩ := exists_scan_of_ofHtml h
  exact ⟨tokens, hd⟩

/-- What flagging keeps is kept by settling the groups of radio buttons. -/
theorem settleRadios_related {R : Document → Document → Prop} (hrefl : ∀ d, R d d)
    (htrans : ∀ d d' d'', R d d' → R d' d'' → R d d'')
    (hflag : ∀ d n checked, R d ((Edit.flag n checked).perform d)) (d : Document) :
    R d d.settleRadios := by
  rw [settleRadios_eq]
  apply foldl_related hrefl htrans
  intro n _ d
  rw [settle]
  split
  · rw [check_eq_editAll]
    apply editAll_induction hrefl htrans
    intro e he d
    obtain ⟨m, checked, rfl⟩ := mem_checkEdits he
    exact hflag d m checked
  · exact hrefl d

/-- What filling and flagging keep is kept by finishing a document. -/
theorem finish_related {R : Document → Document → Prop} (hrefl : ∀ d, R d d)
    (htrans : ∀ d d' d'', R d d' → R d' d'' → R d d'')
    (hfill : ∀ d n value, R d ((Edit.fill n value).perform d))
    (hflag : ∀ d n checked, R d ((Edit.flag n checked).perform d)) (d : Document) :
    R d d.fillTextAreas.settleRadios := by
  apply htrans d d.fillTextAreas
  · apply foldl_related hrefl htrans
    intro n _ d
    exact hfill d n (d.textContent n)
  · exact settleRadios_related hrefl htrans hflag d.fillTextAreas

/-- A text of whose document something can be computed has a document. -/
theorem exists_of_map_ofHtml {α : Type} {f : Document → α} {html : String} {a : α}
    (h : (ofHtml html).toOption.map f = some a) : ∃ d, ofHtml html = .ok d ∧ f d = a := by
  cases hd : ofHtml html with
  | error e =>
    rw [hd] at h
    cases h
  | ok d =>
    rw [hd] at h
    exact ⟨d, rfl, Option.some.inj h⟩

/-- The nodes of a document that was read are numbered in document order. -/
theorem ordered_ofHtml {html : String} {d : Document} (h : ofHtml html = .ok d) : d.Ordered := by
  obtain ⟨tokens, rfl⟩ := exists_tokens_of_ofHtml h
  exact ordered_ofTokens tokens

end Document

end FormRules
