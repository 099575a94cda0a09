import FormRules.Markup.Token

/-!
# Forests and their markup

A forest is what markup says once it is read: texts and elements in order, each element with its
attributes and the forest in it. Not every forest can be written. Two texts side by side would be
read as one, and the content of a raw-text element is nothing but text.

* `Forest`: a text or an element in front of a forest.
* `Forest.write`: the markup of a forest.
* `Forest.Writable`: names, texts and contents are such that markup can say them.
* `Meets`, `Closes`, `Forest.Placed`: no option or group of options stands where its start tag
  closes an element around it.
-/

namespace FormRules.Markup

/-- Texts and elements in document order. -/
inductive Forest
  | nil
  | text (s : String) (rest : Forest)
  | element (tag : String) (attributes : Attributes) (children rest : Forest)
  deriving DecidableEq, Repr, Inhabited

/-! ## Writing -/

/-- A text with the ampersand and a mark written as references, the mark by its name. -/
def escape (mark : Char) (name : List Char) (s : List Char) : List Char :=
  s.flatMap fun c =>
    if c = '&' then ['&', 'a', 'm', 'p', ';']
    else if c = mark then '&' :: name ++ [';']
    else [c]

/-- A text outside of tags. -/
def escapeText (s : String) : List Char := escape '<' ['l', 't'] s.toList

/-- A text in quotes. -/
def escapeQuoted (s : String) : List Char := escape '"' ['q', 'u', 'o', 't'] s.toList

/-- An attribute, its value in quotes. -/
def writeAttribute (name value : String) : List Char :=
  ' ' :: name.toList ++ '=' :: '"' :: escapeQuoted value ++ ['"']

/-- A start tag behind its angle bracket. -/
def writeStartTag (tag : String) (attributes : Attributes) : List Char :=
  tag.toList ++ attributes.entries.flatMap (fun (name, value) => writeAttribute name value) ++ ['>']

/-- An end tag behind its angle bracket and slash. -/
def writeEndTag (tag : String) : List Char := tag.toList ++ ['>']

namespace Forest

/-- The texts of a forest that are in no element, as they are. -/
def body : Forest → List Char
  | nil => []
  | text s rest => s.toList ++ rest.body
  | element _ _ _ rest => rest.body

/-- The characters that write a forest. -/
def chars : Forest → List Char
  | nil => []
  | text s rest => escapeText s ++ rest.chars
  | element tag attributes children rest =>
    '<' :: writeStartTag tag attributes ++
      (if tag ∈ voidTags then []
        else
          (if tag ∈ ["script", "style"] then children.body
            else if tag ∈ ["textarea", "title"] ∧ children ≠ nil then '\n' :: children.chars
            else children.chars) ++
            '<' :: '/' :: writeEndTag tag) ++
      rest.chars

/-- The markup of a forest. -/
def write (F : Forest) : String := String.ofList F.chars

/-- The number of nodes. -/
def size : Forest → Nat
  | nil => 0
  | text _ rest => rest.size + 1
  | element _ _ children rest => children.size + rest.size + 1

end Forest

/-! ## What can be written -/

/-- A character of the name of a tag in lower case. -/
def isLowerTagChar (c : Char) : Bool := c.isLower || c.isDigit || c == '-' || c == '_'

/-- Whether the content of an element is text alone. -/
def IsRawText (tag : String) : Prop := tag ∈ ["script", "style"] ∨ tag ∈ ["textarea", "title"]

/-- The name of a tag in lower case. -/
def IsTagName (name : String) : Prop := name ≠ "" ∧ name.toList.all isLowerTagChar

/-- The name of an attribute in lower case. -/
def IsAttributeName (name : String) : Prop :=
  name ≠ "" ∧ name.toList.all fun c => isLowerTagChar c || c == ':'

instance (tag : String) : Decidable (IsRawText tag) :=
  inferInstanceAs (Decidable (_ ∨ _))

instance (name : String) : Decidable (IsTagName name) :=
  inferInstanceAs (Decidable (_ ∧ _))

instance (name : String) : Decidable (IsAttributeName name) :=
  inferInstanceAs (Decidable (_ ∧ _))

namespace Forest

/-- Whether a text comes first. -/
def startsWithText : Forest → Bool
  | text _ _ => true
  | _ => false

/-- Whether there is at most one text and nothing else. -/
def isPlain : Forest → Bool
  | nil => true
  | text _ nil => true
  | _ => false

/-- Whether an element can have a content: void elements have none, raw-text elements at most one
text, and what is written as it is does not begin an end tag. -/
def Fits (tag : String) (children : Forest) : Prop :=
  (tag ∈ voidTags → children = nil) ∧
    (IsRawText tag → children.isPlain) ∧
    (tag ∈ ["script", "style"] → ¬ ['<', '/'] <:+: children.body)

instance (tag : String) (children : Forest) : Decidable (Fits tag children) :=
  inferInstanceAs (Decidable (_ ∧ _))

/-- Whether a forest can be written: texts are not empty and never side by side, names are in lower
case, and contents fit. -/
def Writable : Forest → Prop
  | nil => True
  | text s rest => s ≠ "" ∧ rest.startsWithText = false ∧ rest.Writable
  | element tag attributes children rest =>
    IsTagName tag ∧ (∀ name ∈ attributes.keys, IsAttributeName name) ∧ Fits tag children ∧
      children.Writable ∧ rest.Writable

instance decidableWritable : (F : Forest) → Decidable F.Writable
  | nil => .isTrue trivial
  | text _ rest =>
    have := rest.decidableWritable
    inferInstanceAs (Decidable (_ ∧ _))
  | element _ _ children rest =>
    have := children.decidableWritable
    have := rest.decidableWritable
    inferInstanceAs (Decidable (_ ∧ _))

end Forest

/-! ## Implied end tags -/

/-- Whether going outwards, with the innermost in front, one of the targets comes before all of the
barriers. -/
def Meets (targets barriers above : List String) : Prop :=
  ∃ inner target outer, above = inner ++ target :: outer ∧ target ∈ targets ∧
    ∀ tag ∈ inner, tag ∉ barriers

theorem not_meets_nil (targets barriers : List String) : ¬ Meets targets barriers [] := by
  rintro ⟨inner, target, outer, h, -⟩
  simp at h

theorem meets_cons {targets barriers above : List String} {tag : String} :
    Meets targets barriers (tag :: above) ↔
      tag ∈ targets ∨ (tag ∉ barriers ∧ Meets targets barriers above) := by
  constructor
  · rintro ⟨inner, target, outer, h, ht, hb⟩
    cases inner with
    | nil =>
      obtain ⟨rfl, -⟩ := List.cons.inj h
      exact .inl ht
    | cons t inner =>
      rw [List.cons_append] at h
      obtain ⟨rfl, habove⟩ := List.cons.inj h
      obtain ⟨hb, hinner⟩ := List.forall_mem_cons.1 hb
      exact .inr ⟨hb, inner, target, outer, habove, ht, hinner⟩
  · rintro (ht | ⟨hb, inner, target, outer, rfl, ht, hinner⟩)
    · exact ⟨[], tag, above, rfl, ht, fun _ h => absurd h List.not_mem_nil⟩
    · exact ⟨tag :: inner, target, outer, rfl, ht, List.forall_mem_cons.2 ⟨hb, hinner⟩⟩

instance decidableMeets (targets barriers : List String) :
    (above : List String) → Decidable (Meets targets barriers above)
  | [] => .isFalse (not_meets_nil targets barriers)
  | _ :: above =>
    have := decidableMeets targets barriers above
    decidable_of_iff _ meets_cons.symm

/-- Whether the start tag of an element closes one of the open elements around it. An option closes
an option, a group of options an option or group. -/
def Closes (tag : String) (above : List String) : Prop :=
  (tag = "option" ∧ Meets ["option"] ["optgroup", "select", "datalist"] above) ∨
    (tag = "optgroup" ∧ Meets ["option", "optgroup"] ["select", "datalist"] above)

instance (tag : String) (above : List String) : Decidable (Closes tag above) :=
  inferInstanceAs (Decidable (_ ∨ _))

namespace Forest

/-- Whether no element of a forest that stands inside open elements closes one of those around
it. -/
def Placed : Forest → List String → Prop
  | nil, _ => True
  | text _ rest, above => rest.Placed above
  | element tag _ children rest, above =>
    ¬ Closes tag above ∧ children.Placed (tag :: above) ∧ rest.Placed above

instance decidablePlaced : (F : Forest) → (above : List String) → Decidable (F.Placed above)
  | nil, _ => .isTrue trivial
  | text _ rest, above => rest.decidablePlaced above
  | element tag _ children rest, above =>
    have := children.decidablePlaced (tag :: above)
    have := rest.decidablePlaced above
    inferInstanceAs (Decidable (_ ∧ _))

end Forest

end FormRules.Markup
