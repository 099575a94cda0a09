import FormRules.Document.Build
import Mathlib.Data.List.Basic

/-!
# The shape of documents

The shape of a document is what its nodes are and where they hang: texts, tags and parents. All
relations of the tree follow from it. Values, checked flags, attributes and identifiers are no part
of it, and only adding a node changes it.

* `element?_modifyElement`: what the change of one element does to each node.
* `SameShape`: two documents of one shape, and the relations of the tree that they share.
* `sameShape_check`, `sameShape_fillTextAreas`, `sameShape_settleRadios`: what leaves the shape.
-/

namespace FormRules

/-- The type of an input, unless it is the one of inputs without a type. -/
theorem Element.inputType?_beq {type : String} (h : lowerText "text" ≠ type) (e : Element) :
    (e.inputType? == some type) =
      (e.isTag "input" && (e.attribute? "type").any (lowerText · == type)) := by
  rw [inputType?]
  by_cases hinput : e.isTag "input" = true
  · rw [if_pos hinput, hinput, Bool.true_and, Option.some_beq_some]
    cases e.attribute? "type" with
    | none => simpa using h
    | some t => rfl
  · rw [if_neg hinput]
    simp only [hinput, Bool.false_and]
    rfl

namespace Document

/-! ## Changing one element -/

/-- A node with its element changed, if it holds one. -/
def changeNode (change : Element → Element) (node : Node) : Node :=
  match node.content with
  | .element e => { node with content := .element (change e) }
  | _ => node

theorem getElem?_modifyElement (n m : Nat) (change : Element → Element) (d : Document) :
    (d.modifyElement n change).nodes[m]? =
      if n = m then d.nodes[m]?.map (changeNode change) else d.nodes[m]? :=
  Array.getElem?_modify

@[simp] theorem size_modifyElement (n : Nat) (change : Element → Element) (d : Document) :
    (d.modifyElement n change).size = d.size :=
  Array.size_modify

@[simp] theorem parent?_modifyElement (n m : Nat) (change : Element → Element) (d : Document) :
    (d.modifyElement n change).parent? m = d.parent? m := by
  have hparent : ∀ node, (changeNode change node).parent = node.parent := by
    rintro ⟨parent, content⟩
    cases content <;> rfl
  rw [parent?, getElem?_modifyElement, parent?]
  by_cases h : n = m
  · rw [if_pos h]
    cases d.nodes[m]? with
    | none => rfl
    | some node => exact hparent node
  · rw [if_neg h]

theorem content?_modifyElement (n m : Nat) (change : Element → Element) (d : Document) :
    (d.modifyElement n change).content? m =
      if n = m then d.nodes[m]?.map fun node => (changeNode change node).content
      else d.content? m := by
  rw [content?, getElem?_modifyElement]
  by_cases h : n = m
  · rw [if_pos h, if_pos h, Option.map_map]
    rfl
  · rw [if_neg h, if_neg h, content?]

@[simp] theorem text?_modifyElement (n m : Nat) (change : Element → Element) (d : Document) :
    (d.modifyElement n change).text? m = d.text? m := by
  rw [text?, content?_modifyElement, text?, content?]
  by_cases h : n = m
  · rw [if_pos h]
    cases d.nodes[m]? with
    | none => rfl
    | some node =>
      obtain ⟨parent, content⟩ := node
      cases content <;> rfl
  · rw [if_neg h]

theorem element?_modifyElement (n m : Nat) (change : Element → Element) (d : Document) :
    (d.modifyElement n change).element? m =
      if n = m then (d.element? m).map change else d.element? m := by
  rw [element?, content?_modifyElement, element?, content?]
  by_cases h : n = m
  · rw [if_pos h, if_pos h]
    cases d.nodes[m]? with
    | none => rfl
    | some node =>
      obtain ⟨parent, content⟩ := node
      cases content <;> rfl
  · rw [if_neg h, if_neg h]

theorem isElement_iff {d : Document} {n : Nat} :
    d.isElement n = true ↔ ∃ e, d.element? n = some e := by
  rw [isElement, Option.isSome_iff_exists]

theorem isElement_of_any {d : Document} {n : Nat} {p : Element → Bool}
    (h : (d.element? n).any p = true) : d.isElement n = true := by
  rw [Option.any_eq_true] at h
  obtain ⟨e, he, -⟩ := h
  exact isElement_iff.2 ⟨e, he⟩

theorem isElement_of_isTag {d : Document} {tag : String} {n : Nat} (h : d.isTag tag n = true) :
    d.isElement n = true :=
  isElement_of_any h

theorem isElement_of_isRadio {d : Document} {n : Nat} (h : d.isRadio n = true) :
    d.isElement n = true :=
  isElement_of_any h

theorem isElement_of_fieldKind? {d : Document} {n : Nat} (h : (d.fieldKind? n).isSome = true) :
    d.isElement n = true := by
  rw [fieldKind?, Option.isSome_bind] at h
  exact isElement_of_any h

theorem isElement_of_attribute? {d : Document} {n : Nat} {a s : String}
    (h : d.attribute? n a = some s) : d.isElement n = true := by
  obtain ⟨e, he, -⟩ := Option.bind_eq_some_iff.1 h
  exact isElement_iff.2 ⟨e, he⟩

theorem isElement_of_checked? {d : Document} {n : Nat} {checked : Bool}
    (h : d.checked? n = some checked) : d.isElement n = true := by
  obtain ⟨e, he, -⟩ := Option.map_eq_some_iff.1 h
  exact isElement_iff.2 ⟨e, he⟩

theorem isElement_eq (d : Document) (n : Nat) : d.isElement n = (d.tag? n).isSome := by
  rw [isElement, tag?, Option.isSome_map]

theorem isTag_eq (d : Document) (tag : String) (n : Nat) :
    d.isTag tag n = (d.tag? n).any (lowerText · == tag) := by
  rw [isTag, tag?, Option.any_map]
  rfl

/-! ## One shape -/

/-- Two documents have one shape: the same nodes at the same places. -/
structure SameShape (d d' : Document) : Prop where
  size : d'.size = d.size
  parent? : d'.parent? = d.parent?
  tag? : d'.tag? = d.tag?
  text? : d'.text? = d.text?

namespace SameShape

variable {d d' d'' : Document}

theorem refl (d : Document) : SameShape d d := ⟨rfl, rfl, rfl, rfl⟩

theorem trans (h : SameShape d d') (h' : SameShape d' d'') : SameShape d d'' where
  size := h'.size.trans h.size
  parent? := h'.parent?.trans h.parent?
  tag? := h'.tag?.trans h.tag?
  text? := h'.text?.trans h.text?

theorem isElement (h : SameShape d d') (n : Nat) : d'.isElement n = d.isElement n := by
  rw [isElement_eq, isElement_eq, h.tag?]

theorem isTag (h : SameShape d d') (tag : String) (n : Nat) : d'.isTag tag n = d.isTag tag n := by
  rw [isTag_eq, isTag_eq, h.tag?]

theorem children (h : SameShape d d') (n : Nat) : d'.children n = d.children n := by
  rw [Document.children, Document.children, h.size, h.parent?]

theorem ancestors (h : SameShape d d') (n : Nat) : d'.ancestors n = d.ancestors n := by
  induction n using Nat.strongRecOn with
  | ind n ih =>
    rw [Document.ancestors, Document.ancestors, h.parent?]
    cases d.parent? n with
    | none => rfl
    | some p =>
      by_cases hp : p < n
      · simp only [hp, dite_true, ih p hp]
      · simp only [hp, dite_false]

theorem below (h : SameShape d d') (n : Nat) : d'.below n = d.below n := by
  induction n using below.induct d with
  | case1 n ih =>
    rw [below_eq, below_eq, h.children]
    apply List.flatMap_congr
    intro c hc
    rw [ih ⟨c, hc⟩]

theorem descendants (h : SameShape d d') (n : Nat) : d'.descendants n = d.descendants n := by
  have he : d'.isElement = d.isElement := funext h.isElement
  rw [Document.descendants, Document.descendants, h.below, he]

theorem nearest? (h : SameShape d d') (tag : String) (n : Nat) :
    d'.nearest? tag n = d.nearest? tag n := by
  have ht : d'.isTag tag = d.isTag tag := funext (h.isTag tag)
  rw [Document.nearest?, Document.nearest?, h.ancestors, ht]

theorem owningForm? (h : SameShape d d') (n : Nat) : d'.owningForm? n = d.owningForm? n :=
  h.nearest? "form" n

end SameShape

/-- What each of several steps keeps is kept by all of them together. -/
theorem foldl_related {α : Type} {R : Document → Document → Prop} (hrefl : ∀ d, R d d)
    (htrans : ∀ d d' d'', R d d' → R d' d'' → R d d'') {step : Document → α → Document}
    {l : List α} (h : ∀ a ∈ l, ∀ d, R d (step d a)) (d : Document) : R d (l.foldl step d) := by
  induction l generalizing d with
  | nil => exact hrefl d
  | cons a l ih =>
    have hhead : R d (step d a) := h a List.mem_cons_self d
    have htail : ∀ a' ∈ l, ∀ d, R d (step d a') := fun a' ha' => h a' (List.mem_cons_of_mem a ha')
    exact htrans _ _ _ hhead (ih htail (step d a))

theorem sameShape_foldl {α : Type} {step : Document → α → Document}
    (h : ∀ d a, SameShape d (step d a)) (l : List α) (d : Document) :
    SameShape d (l.foldl step d) :=
  foldl_related SameShape.refl (fun _ _ _ h h' => h.trans h') (fun a _ d => h d a) d

/-! ## What leaves the shape -/

theorem sameShape_modifyElement (n : Nat) {change : Element → Element}
    (h : ∀ e, (change e).tag = e.tag) (d : Document) : SameShape d (d.modifyElement n change) where
  size := size_modifyElement n change d
  parent? := funext fun m => parent?_modifyElement n m change d
  text? := funext fun m => text?_modifyElement n m change d
  tag? := by
    funext m
    rw [tag?, element?_modifyElement, tag?]
    split
    · cases d.element? m with
      | none => rfl
      | some e => exact congrArg some (h e)
    · rfl

theorem sameShape_flag (checked : Bool) (n : Nat) (d : Document) :
    SameShape d (d.flag checked n) := by
  apply sameShape_modifyElement
  intro e
  rfl

theorem sameShape_check (checked : Bool) (n : Nat) (d : Document) :
    SameShape d (d.check checked n) :=
  (sameShape_foldl (fun d m => sameShape_flag false m d) _ d).trans (sameShape_flag checked n _)

theorem sameShape_releaseId (id : Option String) (n : Nat) (d : Document) :
    SameShape d (d.releaseId id n) := by
  cases id with
  | none => exact SameShape.refl d
  | some id =>
    unfold releaseId
    dsimp only
    split
    · exact ⟨rfl, rfl, rfl, rfl⟩
    · exact SameShape.refl d

theorem sameShape_claimId (id : String) (n : Nat) (d : Document) : SameShape d (d.claimId id n) :=
  ⟨rfl, rfl, rfl, rfl⟩

theorem sameShape_fillTextAreas (d : Document) : SameShape d d.fillTextAreas := by
  apply sameShape_foldl
  intro d n
  apply sameShape_modifyElement
  intro e
  rfl

/-- Unchecks the group of a checked radio button. -/
def settle (d : Document) (n : Nat) : Document :=
  if d.isRadio n && d.checked? n == some true then d.check true n else d

theorem settleRadios_eq (d : Document) :
    d.settleRadios = (d.descendants root).reverse.foldl settle d := rfl

theorem sameShape_settle (d : Document) (n : Nat) : SameShape d (d.settle n) := by
  rw [settle]
  split
  · exact sameShape_check true n d
  · exact SameShape.refl d

theorem sameShape_settleRadios (d : Document) : SameShape d d.settleRadios :=
  sameShape_foldl sameShape_settle _ d

end Document

end FormRules
