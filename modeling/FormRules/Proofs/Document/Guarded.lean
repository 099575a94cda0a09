import FormRules.Document.Control
import FormRules.Proofs.Document.Building
import FormRules.Proofs.Markup.Faults

/-!
# Reading with guards

A reading that takes nothing for granted: the root is one of the open nodes, the tags of open nodes
are looked up in the document, a node is added only when some node is open and is noted as a child
of that node, and a radio button is settled only when it turns out to be an element. As the open
nodes are always a chain of parents up to the root, no guard ever fails, and the children noted are
those that follow from the parents.

* `Nesting`: a document in the making with all its open nodes.
* `Document.ofHtmlGuarded`: the reading with guards, token by token.
* `Nesting.push_ofBuilder`, `ofHtmlGuarded_eq`: the guards never fail.
* `isLexical_of_ofHtml`: the faults that are left are those of the text.
-/

namespace FormRules

open Markup (Attributes Token)

/-! ## Guards -/

/-- A document in the making, the children of its nodes as they were added, and all its open nodes,
the innermost first and the root last: the `dom` and `open` of `parse_html`. -/
structure Nesting where
  document : Document := .empty
  children : Nat → List Nat := fun _ => []
  opened : List Nat := [Document.root]

namespace Nesting

/-- The innermost open node, if there is one (`innermost`). -/
def innermost : List Nat → Except MarkupFault Nat
  | [] => .error .missingParent
  | n :: _ => .ok n

/-- The open nodes without the innermost element of a name and all inside it, as an end tag in
`parse_html` leaves them; none if there is no such element. The outermost node is never closed. -/
def closeNamed? (d : Document) (tag : String) : List Nat → Option (List Nat)
  | n :: m :: outer =>
    if d.tag? n = some tag then some (m :: outer) else closeNamed? d tag (m :: outer)
  | _ => none

/-- The open nodes without the option, or the group of options if `group` is set, that is open
inside the nearest selection, list or group; none when there is nothing to close. The outermost node
is never closed. This is the loop of `close_implied_option`. -/
def closeOption? (d : Document) (group : Bool) : List Nat → Option (List Nat)
  | n :: m :: outer =>
    if d.tag? n = some "option" then some (m :: outer)
    else if d.tag? n = some "optgroup" then (if group then some (m :: outer) else none)
    else if d.tag? n = some "select" ∨ d.tag? n = some "datalist" then none
    else closeOption? d group (m :: outer)
  | _ => none

/-- The open nodes after what the start of an element closes by itself (`close_implied_option`). -/
def closeImplied (d : Document) (tag : String) (opened : List Nat) : List Nat :=
  if tag = "option" ∨ tag = "optgroup" then (closeOption? d (tag == "optgroup") opened).getD opened
  else opened

/-- Takes over a document with one more node, and notes it as a child, as `create_node` does. -/
def adopt (parent : Nat) (d : Document) (s : Nesting) : Nesting where
  document := d
  children := Function.update s.children parent (s.children parent ++ [s.document.size])
  opened := s.opened

/-- Adds a text under a node (`create_text`). -/
def addText (parent : Nat) (content : String) (s : Nesting) : Nesting :=
  s.adopt parent (s.document.addText parent content)

/-- Adds an element under the innermost open node, once it has closed what it closes, as a start tag
in `parse_html` does. -/
def addElement (tag : String) (attributes : Attributes) (s : Nesting) :
    Except MarkupFault Nesting := do
  let s := { s with opened := closeImplied s.document tag s.opened }
  let parent ← innermost s.opened
  return s.adopt parent (s.document.addElement parent (.ofTag tag attributes))

/-- Takes in one token: what a turn of the loop of `parse_html` does to the document and the open
nodes. -/
def push (s : Nesting) : Token → Except MarkupFault Nesting
  | .text content => do
    let parent ← innermost s.opened
    return s.addText parent content
  | .start tag attributes => do
    let s' ← s.addElement tag attributes
    return { s' with opened := s.document.size :: s'.opened }
  | .whole tag attributes content => do
    let s' ← s.addElement tag attributes
    if content = "" then return s'
    else return s'.addText s.document.size content
  | .stop tag =>
    .ok { s with opened := (closeNamed? s.document tag s.opened).getD s.opened }

/-- Reads a text token by token: the loop of `parse_html`. -/
def read (s : Nesting) (text : List Char) : Except MarkupFault Nesting :=
  if _ht : text = [] then .ok s
  else match _h : Token.next text with
    | .error fault => .error fault
    | .ok (none, rest) => s.read rest
    | .ok (some token, rest) =>
      match s.push token with
      | .error fault => .error fault
      | .ok s' => s'.read rest
termination_by text.length
decreasing_by all_goals exact (Markup.next_advances _ht _h).length_lt

end Nesting

namespace Document

/-- Unchecks the group of a checked radio button, once it turns out to be an element: a turn of the
loop of `normalize_radio_groups`. -/
def settleGuarded (d : Document) (n : Nat) : Except Error Document :=
  if d.isRadio n then
    match d.checked n with
    | .error e => .error e
    | .ok checked => if checked then d.setChecked n true else .ok d
  else .ok d

/-- Leaves only the last checked radio button of each group checked (`normalize_radio_groups`). -/
def settleRadiosGuarded (d : Document) : Except Error Document :=
  (d.descendants root).reverse.foldlM settleGuarded d

/-- The document of a text and the children of its nodes, read with guards (`parse_html`). -/
def ofHtmlGuarded (html : String) : Except Error (Document × (Nat → List Nat)) :=
  match Nesting.read {} html.toList with
  | .error fault => .error (.markup fault)
  | .ok s => s.document.fillTextAreas.settleRadiosGuarded.map (·, s.children)

end Document

/-! ## Some node is always open -/

namespace Nesting

variable {b : Builder} {d : Document}

/-- A builder with the children that follow from the parents. -/
def ofBuilder (b : Builder) : Nesting := ⟨b.document, b.document.children, b.opened⟩

/-- In an empty document no node has children. -/
theorem ofBuilder_empty : ofBuilder {} = {} := by
  have hchildren : Document.empty.children = fun _ => [] := by
    funext n
    have hcount : Document.empty.size - (n + 1) = 0 := by
      show 1 - (n + 1) = 0
      omega
    rw [Document.children, hcount]
    rfl
  show (⟨Document.empty, Document.empty.children, [Document.root]⟩ : Nesting) = _
  rw [hchildren]

/-- The children noted are those that follow from the parents. -/
theorem update_children {d' : Document} {p : Nat} (h : Document.Grown p d d') (hp : p < d.size) :
    Function.update d.children p (d.children p ++ [d.size]) = d'.children := by
  funext n
  rw [Function.update_apply, h.children hp]
  by_cases hn : n = p
  · rw [if_pos hn, if_pos hn, hn]
  · rw [if_neg hn, if_neg hn]

theorem innermost_opened (b : Builder) : innermost b.opened = .ok b.innermost := by
  obtain ⟨outer, ho⟩ := b.opened_eq
  rw [ho, innermost]

/-- Whether a stack says the tags that its nodes have in a document. -/
def Tagged (d : Document) (stack : List (String × Nat)) : Prop :=
  ∀ entry ∈ stack, d.tag? entry.2 = some entry.1

theorem Tagged.tail {entry : String × Nat} {stack : List (String × Nat)}
    (h : Tagged d (entry :: stack)) : Tagged d stack := fun entry' he =>
  h entry' (List.mem_cons_of_mem entry he)

/-- The nodes that are open with a stack on top of the root. -/
def openedBy (stack : List (String × Nat)) : List Nat := stack.map Prod.snd ++ [Document.root]

theorem openedBy_cons (tag : String) (n : Nat) (stack : List (String × Nat)) :
    ∃ m outer, openedBy ((tag, n) :: stack) = n :: m :: outer ∧ openedBy stack = m :: outer := by
  cases stack with
  | nil => exact ⟨Document.root, [], rfl, rfl⟩
  | cons entry stack => exact ⟨entry.2, openedBy stack, rfl, rfl⟩

theorem closeNamed?_openedBy (tag : String) {stack : List (String × Nat)} (h : Tagged d stack) :
    (closeNamed? d tag (openedBy stack)).getD (openedBy stack) =
      openedBy (Builder.closeNamed tag stack) := by
  have hclose : closeNamed? d tag (openedBy stack) =
      (stack.dropWhile (·.1 ≠ tag)).tail?.map openedBy := by
    induction stack with
    | nil => rfl
    | cons entry stack ih =>
      obtain ⟨tag', n⟩ := entry
      obtain ⟨m, outer, hcons, houter⟩ := openedBy_cons tag' n stack
      have htag : d.tag? n = some tag' := h (tag', n) List.mem_cons_self
      rw [hcons, closeNamed?, htag, ← houter, ih h.tail]
      by_cases heq : tag' = tag
      · rw [if_pos (congrArg some heq), List.dropWhile_cons_of_neg (by simp [heq])]
        rfl
      · have hne : ¬ some tag' = some tag := fun he => heq (Option.some.inj he)
        rw [if_neg hne, List.dropWhile_cons_of_pos (by simp [heq])]
  rw [hclose, Builder.closeNamed]
  cases stack.dropWhile (·.1 ≠ tag) <;> rfl

theorem closeOption?_openedBy (group : Bool) {stack : List (String × Nat)} (h : Tagged d stack) :
    closeOption? d group (openedBy stack) = (Builder.closeOption? group stack).map openedBy := by
  induction stack with
  | nil => rfl
  | cons entry stack ih =>
    obtain ⟨tag, n⟩ := entry
    obtain ⟨m, outer, hcons, houter⟩ := openedBy_cons tag n stack
    have htag : d.tag? n = some tag := h (tag, n) List.mem_cons_self
    rw [hcons, closeOption?, htag, ← houter, ih h.tail, Builder.closeOption?]
    simp only [Option.some.injEq]
    by_cases ho : tag = "option"
    · rw [if_pos ho, if_pos ho]
      rfl
    · rw [if_neg ho, if_neg ho]
      by_cases hg : tag = "optgroup"
      · rw [if_pos hg, if_pos hg]
        cases group <;> rfl
      · rw [if_neg hg, if_neg hg]
        by_cases hs : tag = "select" ∨ tag = "datalist"
        · rw [if_pos hs, if_pos hs]
          rfl
        · rw [if_neg hs, if_neg hs]

theorem closeImplied_openedBy (tag : String) {stack : List (String × Nat)} (h : Tagged d stack) :
    closeImplied d tag (openedBy stack) = openedBy (Builder.closeImplied tag stack) := by
  rw [closeImplied, Builder.closeImplied]
  split
  · rw [closeOption?_openedBy _ h]
    cases Builder.closeOption? (tag == "optgroup") stack <;> rfl
  · rfl

theorem addText_ofBuilder (b : Builder) {p : Nat} (hp : p < b.document.size) (content : String) :
    (ofBuilder b).addText p content =
      ofBuilder { b with document := b.document.addText p content } := by
  rw [addText, adopt, ofBuilder]
  dsimp only
  rw [update_children (Document.grown_addText p content b.document) hp]
  rfl

theorem addElement_ofBuilder (h : b.Sound) (tag : String) (attributes : Attributes) :
    (ofBuilder b).addElement tag attributes = .ok (ofBuilder (b.addElement tag attributes)) := by
  have hclosed := h.close (Builder.closeImplied_suffix tag b.stack)
  have hopened : closeImplied b.document tag b.opened =
      Builder.opened { b with stack := Builder.closeImplied tag b.stack } :=
    closeImplied_openedBy tag h.tags
  have hgrown := Document.grown_addElement
    (Builder.innermost { b with stack := Builder.closeImplied tag b.stack })
    (.ofTag tag attributes) b.document
  rw [addElement, ofBuilder]
  dsimp only
  rw [hopened, innermost_opened]
  show Except.ok (adopt _ _ _) = _
  rw [adopt]
  dsimp only
  rw [update_children hgrown hclosed.innermost_lt_size]
  rfl

/-- With the invariant of building no guard of a node fails. -/
theorem push_ofBuilder (h : b.Sound) (token : Token) :
    (ofBuilder b).push token = .ok (ofBuilder (b.push token)) := by
  cases token with
  | text s =>
    rw [push]
    show (innermost b.opened >>= fun parent => pure ((ofBuilder b).addText parent s)) = _
    rw [innermost_opened]
    exact congrArg Except.ok (addText_ofBuilder b h.innermost_lt_size s)
  | start tag attributes =>
    have hsize := b.size_addElement tag attributes
    have hnew : (b.addElement tag attributes).document.size - 1 = b.document.size := by omega
    rw [push, addElement_ofBuilder h, Builder.push, hnew]
    rfl
  | whole tag attributes s =>
    have hsize := b.size_addElement tag attributes
    have hnew : (b.addElement tag attributes).document.size - 1 = b.document.size := by omega
    have hlt : b.document.size < (b.addElement tag attributes).document.size := by omega
    rw [push, addElement_ofBuilder h, Builder.push, hnew]
    show (if s = "" then Except.ok _ else Except.ok (addText b.document.size s _)) = _
    rw [addText_ofBuilder _ hlt]
    split <;> rfl
  | stop tag =>
    have hopened : (closeNamed? b.document tag b.opened).getD b.opened =
        Builder.opened { b with stack := Builder.closeNamed tag b.stack } :=
      closeNamed?_openedBy tag h.tags
    rw [push, ofBuilder, hopened]
    rfl

theorem read_eq (s : Nesting) {text : List Char} (ht : text ≠ []) :
    s.read text =
      match Token.next text with
      | .error fault => .error fault
      | .ok (none, rest) => s.read rest
      | .ok (some token, rest) =>
        match s.push token with
        | .error fault => .error fault
        | .ok s' => s'.read rest := by
  rw [read, dif_neg ht]
  split <;> rename_i h <;> rw [h]

end Nesting

/-- Reading token by token meets the tokens of the text, or its first fault. -/
theorem Nesting.read_ofBuilder {b : Builder} (h : b.Sound) (text : List Char) :
    (ofBuilder b).read text =
      match Token.scan text with
      | .error fault => .error fault
      | .ok tokens => .ok (ofBuilder (tokens.foldl Builder.push b)) := by
  induction hn : text.length using Nat.strongRecOn generalizing text b with
  | ind n ih =>
    subst hn
    by_cases ht : text = []
    · rw [read, Token.scan, dif_pos ht, dif_pos ht]
      rfl
    · rw [read_eq _ ht, Markup.Token.scan_eq ht]
      cases hnext : Token.next text with
      | error fault => rfl
      | ok result =>
        obtain ⟨token, rest⟩ := result
        have hlt : rest.length < text.length := (Markup.next_advances ht hnext).length_lt
        cases token with
        | none =>
          dsimp only
          rw [ih rest.length hlt h rest rfl]
          cases Token.scan rest <;> rfl
        | some token =>
          dsimp only
          rw [push_ofBuilder h]
          dsimp only
          rw [ih rest.length hlt (h.push token) rest rfl]
          cases Token.scan rest <;> rfl

namespace Document

/-! ## The guards of radio buttons -/

theorem settleGuarded_eq (d : Document) (n : Nat) : d.settleGuarded n = .ok (d.settle n) := by
  rw [settleGuarded, settle]
  by_cases hr : d.isRadio n = true
  · have he : d.isElement n = true := isElement_of_isRadio hr
    obtain ⟨e, hn⟩ := isElement_iff.1 he
    have hc : d.checked? n = some e.checked := by rw [checked?, hn, Option.map_some]
    have hchecked : d.checked n = .ok e.checked := by rw [checked, hc]
    rw [if_pos hr, hchecked, hr, hc]
    cases e.checked with
    | true =>
      show d.setChecked n true = _
      rw [setChecked, if_pos he]
      rfl
    | false => rfl
  · rw [if_neg hr]
    simp only [hr, Bool.false_and]
    rfl

theorem settleRadiosGuarded_eq (d : Document) : d.settleRadiosGuarded = .ok d.settleRadios := by
  have hstep : settleGuarded = fun d n => (pure (d.settle n) : Except Error Document) := by
    funext d n
    exact settleGuarded_eq d n
  rw [settleRadiosGuarded, hstep, List.foldlM_pure]
  rfl

/-- No guard fails, and the children noted are those that follow from the parents. -/
theorem ofHtmlGuarded_eq (html : String) :
    ofHtmlGuarded html = (ofHtml html).map fun d => (d, d.children) := by
  rw [ofHtmlGuarded, ofHtml, ← Nesting.ofBuilder_empty,
    Nesting.read_ofBuilder Builder.sound_empty]
  cases Token.scan html.toList with
  | error fault => rfl
  | ok tokens =>
    have hshape := (sameShape_fillTextAreas (tokens.foldl Builder.push {}).document).trans
      (sameShape_settleRadios _)
    have hchildren :
        (ofTokens tokens).children = (tokens.foldl Builder.push {}).document.children :=
      funext hshape.children
    show Except.map _ (settleRadiosGuarded _) =
      Except.ok (ofTokens tokens, (ofTokens tokens).children)
    rw [settleRadiosGuarded_eq, hchildren]
    rfl

end Document

/-- What cannot be read is markup with a fault of its text. -/
theorem Document.isLexical_of_ofHtml {html : String} {e : Error} (h : ofHtml html = .error e) :
    ∃ fault, e = .markup fault ∧ fault.IsLexical := by
  rw [ofHtml] at h
  split at h
  · cases h
  · rename_i hscan
    cases h
    exact ⟨_, rfl, Markup.isLexical_of_scan hscan⟩

end FormRules
