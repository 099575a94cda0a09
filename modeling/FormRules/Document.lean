import FormRules.Field
import FormRules.Markup.Token

/-!
# Documents

A document is a tree of nodes, numbered in the order in which they were made. Node 0 is the root.
Each node knows its parent; children and all other relations follow from the parents.

* `Element`, `Node`, `Document`: the store.
* `parent?`, `children`, `ancestors`, `nearest?`: steps in the tree.
* `below`, `descendants`: the nodes and the elements under a node, in document order.
* `textContent`: the text of a node and all below it.
-/

namespace FormRules

open Markup (Attributes)

/-- A text with the ASCII letters in lower case. -/
def lowerText (s : String) : String := String.ofList (Markup.lower s.toList)

/-- An element of a document (`Element`). The value and the checked flag of a control are kept
beside the attributes from which they start. -/
structure Element where
  tag : String
  attributes : Attributes
  value : String
  checked : Bool
  deriving DecidableEq, Repr, Inhabited

namespace Element

/-- The element of a start tag, as `create_element` makes it. -/
def ofTag (tag : String) (attributes : Attributes) : Element where
  tag
  attributes
  value := (attributes.get? "value").getD ""
  checked := attributes.contains "checked"

/-- The value of an attribute. -/
def attribute? (e : Element) (name : String) : Option String := e.attributes.get? name

/-- Whether an element has a tag, written in lower case. -/
def isTag (e : Element) (tag : String) : Bool := lowerText e.tag == tag

/-- The type of an input in lower case (`input_type`); an input without a type takes text. -/
def inputType? (e : Element) : Option String :=
  if e.isTag "input" then some (lowerText ((e.attribute? "type").getD "text")) else none

/-- Whether an element is a radio button (`is_radio_input`). -/
def isRadio (e : Element) : Bool := e.inputType? == some "radio"

/-- Whether an element is a checkbox or a radio button (`is_checkbox_or_radio_input`). -/
def isCheckable (e : Element) : Bool := e.inputType? == some "checkbox" || e.isRadio

/-- The kind of control that an element is, if it is one (`field_kind`). Inputs that act as buttons
are none (`is_button_input`). -/
def fieldKind? (e : Element) : Option FieldKind :=
  if e.isTag "select" then some .select
  else if e.isTag "textarea" then some .textArea
  else match e.inputType? with
    | none => none
    | some type =>
      if type ∈ ["submit", "image", "reset", "button"] then none
      else if type = "checkbox" then some .checkbox
      else if type = "radio" then some .radio
      else some .text

/-- Sets an attribute of an element. -/
def setAttribute (name value : String) (e : Element) : Element :=
  { e with attributes := e.attributes.insert name value }

/-- Removes an attribute of an element. -/
def removeAttribute (name : String) (e : Element) : Element :=
  { e with attributes := e.attributes.erase name }

end Element

/-- What a node holds (`NodeType`). -/
inductive Content
  | root
  | element (e : Element)
  | text (s : String)
  deriving DecidableEq, Repr, Inhabited

/-- A node (`Node`): its parent, which only the root is without, and what it holds. The lists of
children are not kept; `children` finds them by the parents. -/
structure Node where
  parent : Option Nat
  content : Content
  deriving DecidableEq, Repr, Inhabited

/-- A document (`Document`): its nodes by number, and the elements that have an identifier
(`id_index`). -/
structure Document where
  nodes : Array Node
  ids : Dict String Nat
  deriving DecidableEq, Repr

namespace Document

/-- The document with nothing but a root (`Document.new`). -/
def empty : Document := ⟨#[⟨none, .root⟩], ∅⟩

instance : Inhabited Document := ⟨empty⟩

/-- The number of the root (`Document.root`). -/
def root : Nat := 0

/-- The number of nodes. -/
def size (d : Document) : Nat := d.nodes.size

/-! ## Nodes -/

/-- What a node holds. -/
def content? (d : Document) (n : Nat) : Option Content := d.nodes[n]?.map Node.content

/-- The element of a node (`Document.element`). -/
def element? (d : Document) (n : Nat) : Option Element :=
  match d.content? n with
  | some (.element e) => some e
  | _ => none

/-- The text of a text node. -/
def text? (d : Document) (n : Nat) : Option String :=
  match d.content? n with
  | some (.text s) => some s
  | _ => none

/-- Whether a node is an element. -/
def isElement (d : Document) (n : Nat) : Bool := (d.element? n).isSome

/-- Whether a node is an element with a tag, written in lower case. -/
def isTag (d : Document) (tag : String) (n : Nat) : Bool := (d.element? n).any (·.isTag tag)

/-- The tag of an element (`tag_name`). -/
def tag? (d : Document) (n : Nat) : Option String := (d.element? n).map Element.tag

/-- The value of an attribute of an element (`Document.attr`). The name is looked up as it is. -/
def attribute? (d : Document) (n : Nat) (name : String) : Option String :=
  (d.element? n).bind (·.attribute? name)

/-- Whether an element has an attribute. -/
def hasAttribute (d : Document) (n : Nat) (name : String) : Bool :=
  (d.attribute? n name).isSome

/-- The element with an identifier (`element_by_id`). -/
def elementById? (d : Document) (id : String) : Option Nat := d.ids.get? id

/-! ## Steps in the tree -/

/-- The parent of a node (`Document.parent`). -/
def parent? (d : Document) (n : Nat) : Option Nat := d.nodes[n]?.bind Node.parent

/-- The nodes above a node, from its parent up to the root. A parent has the smaller number. -/
def ancestors (d : Document) (n : Nat) : List Nat :=
  match d.parent? n with
  | none => []
  | some p => if _h : p < n then p :: d.ancestors p else []
termination_by n

/-- The nearest element above a node with a tag, written in lower case (`find_ancestor_by_tag`). -/
def nearest? (d : Document) (tag : String) (n : Nat) : Option Nat :=
  (d.ancestors n).find? (d.isTag tag)

/-- The children of a node, in document order (`Document.children`). -/
def children (d : Document) (n : Nat) : List Nat :=
  (List.range' (n + 1) (d.size - (n + 1))).filter (d.parent? · == some n)

theorem mem_children {d : Document} {n c : Nat} :
    c ∈ d.children n ↔ n < c ∧ c < d.size ∧ d.parent? c = some n := by
  simp only [children, List.mem_filter, List.mem_range'_1, beq_iff_eq]
  constructor
  · rintro ⟨h, hp⟩
    exact ⟨by omega, by omega, hp⟩
  · rintro ⟨h₁, h₂, hp⟩
    exact ⟨⟨h₁, by omega⟩, hp⟩

/-- The nodes under a node, each in front of those under it, as `collect_descendants` goes through
them. -/
def below (d : Document) (n : Nat) : List Nat :=
  (d.children n).attach.flatMap fun c => c.1 :: d.below c.1
termination_by d.size - n
decreasing_by
  have := mem_children.1 c.2
  omega

theorem below_eq (d : Document) (n : Nat) :
    d.below n = (d.children n).flatMap fun c => c :: d.below c := by
  rw [below, List.flatMap_subtype (g := fun c => c :: d.below c) fun _ _ => rfl,
    List.unattach_attach]

/-- The elements under a node, in document order (`Document.descendants`). -/
def descendants (d : Document) (n : Nat) : List Nat := (d.below n).filter d.isElement

/-- The elements under a node with a tag, written in lower case. -/
def descendantsByTag (d : Document) (tag : String) (n : Nat) : List Nat :=
  (d.descendants n).filter (d.isTag tag)

/-- The text of a node and of all nodes under it (`text_content`). -/
def textContent (d : Document) (n : Nat) : String :=
  String.join ((n :: d.below n).filterMap d.text?)

/-! ## Forms -/

/-- The forms of a document (`Document.forms`). -/
def forms (d : Document) : List Nat := d.descendantsByTag "form" root

/-- The form that a node belongs to (`owning_form`). -/
def owningForm? (d : Document) (n : Nat) : Option Nat := d.nearest? "form" n

/-- The kind of control that a node is, if it is one (`field_kind`). -/
def fieldKind? (d : Document) (n : Nat) : Option FieldKind := (d.element? n).bind (·.fieldKind?)

/-- The controls under a node, in document order (`controls_of`). -/
def controlsOf (d : Document) (n : Nat) : List Nat :=
  (d.descendants n).filter fun c => (d.fieldKind? c).isSome

/-- Whether a node is a radio button (`is_radio_input`). -/
def isRadio (d : Document) (n : Nat) : Bool := (d.element? n).any (·.isRadio)

/-- The group of a radio button (`radio_group`): the radio buttons of its name that belong to the
same form. A node without a name is alone. -/
def radioGroup (d : Document) (n : Nat) : List Nat :=
  match (d.attribute? n "name").filter (!·.isEmpty) with
  | none => [n]
  | some name =>
    let form := d.owningForm? n
    (d.descendants root).filter fun m =>
      d.isRadio m && d.attribute? m "name" == some name && d.owningForm? m == form

/-! ## Making nodes -/

/-- Adds a node under another one (`create_node`). -/
def addNode (parent : Nat) (content : Content) (d : Document) : Document :=
  { d with nodes := d.nodes.push ⟨some parent, content⟩ }

/-- Adds a text under a node (`create_text`). -/
def addText (parent : Nat) (s : String) (d : Document) : Document := d.addNode parent (.text s)

/-- Adds an element under a node (`create_element`). Of elements with one identifier the first keeps
it. -/
def addElement (parent : Nat) (e : Element) (d : Document) : Document :=
  let ids := match e.attribute? "id" with
    | some id => d.ids.insertNew id d.size
    | none => d.ids
  { d.addNode parent (.element e) with ids }

/-! ## Changing elements -/

/-- Changes the element of a node (`element_mut`). -/
def modifyElement (n : Nat) (change : Element → Element) (d : Document) : Document :=
  { d with nodes := d.nodes.modify n fun node =>
      match node.content with
      | .element e => { node with content := .element (change e) }
      | _ => node }

end Document

end FormRules
