import FormRules.Document.Change

/-!
# Building documents

A document is built from the tokens of markup, with the open elements on a stack. An end tag closes
the innermost open element of its name together with all inside it, and is dropped when there is
none. An option closes an open option, and a group of options closes an open option or group;
neither reaches out of the selection or list that they stand in. This is the part of `parse_html`
that makes nodes, once it has read a token.

* `Builder.push`: takes in one token.
* `Document.ofTokens`: the document of a sequence of tokens.
* `Document.ofHtml`: the document of a text.
-/

namespace FormRules

open Markup (Attributes Token)

/-- A document in the making, and its open elements with their tags, the innermost first: the `dom`
and `open` of `parse_html`. The root is always open and not on the stack. -/
structure Builder where
  document : Document := .empty
  stack : List (String × Nat) := []
  deriving Inhabited

namespace Builder

/-- The innermost open node (`innermost`). -/
def innermost (b : Builder) : Nat :=
  match b.stack with
  | [] => Document.root
  | (_, n) :: _ => n

/-! ## Closing -/

/-- The stack without the innermost element of a name and all inside it, as an end tag in
`parse_html` leaves it. -/
def closeNamed (tag : String) (stack : List (String × Nat)) : List (String × Nat) :=
  match stack.dropWhile (·.1 ≠ tag) with
  | [] => stack
  | _ :: outer => outer

/-- The stack without the option, or the group of options if `group` is set, that is open inside the
nearest selection, list or group; none when there is nothing to close. This is the loop of
`close_implied_option`. -/
def closeOption? (group : Bool) : List (String × Nat) → Option (List (String × Nat))
  | [] => none
  | (tag, _) :: outer =>
    if tag = "option" then some outer
    else if tag = "optgroup" then (if group then some outer else none)
    else if tag = "select" ∨ tag = "datalist" then none
    else closeOption? group outer

/-- The stack after what the start of an element closes by itself (`close_implied_option`). -/
def closeImplied (tag : String) (stack : List (String × Nat)) : List (String × Nat) :=
  if tag = "option" ∨ tag = "optgroup" then (closeOption? (tag == "optgroup") stack).getD stack
  else stack

/-! ## Tokens -/

/-- Adds an element under the innermost open node, once it has closed what it closes, as a start tag
in `parse_html` does. -/
def addElement (tag : String) (attributes : Attributes) (b : Builder) : Builder :=
  let b := { b with stack := closeImplied tag b.stack }
  { b with document := b.document.addElement b.innermost (.ofTag tag attributes) }

/-- Takes in one token: what a turn of the loop of `parse_html` does to the document and the open
elements. -/
def push (b : Builder) : Token → Builder
  | .text s => { b with document := b.document.addText b.innermost s }
  | .start tag attributes =>
    let b' := b.addElement tag attributes
    { b' with stack := (tag, b'.document.size - 1) :: b'.stack }
  | .whole tag attributes s =>
    let b := b.addElement tag attributes
    if s = "" then b
    else { b with document := b.document.addText (b.document.size - 1) s }
  | .stop tag => { b with stack := closeNamed tag b.stack }

end Builder

namespace Document

/-! ## Finishing -/

/-- Gives text areas their text as value (`initialize_form_control_values`). -/
def fillTextAreas (d : Document) : Document :=
  (d.descendantsByTag "textarea" root).foldl
    (fun d n => d.modifyElement n fun e => { e with value := d.textContent n }) d

/-- Leaves only the last checked radio button of each group checked (`normalize_radio_groups`). -/
def settleRadios (d : Document) : Document :=
  (d.descendants root).reverse.foldl
    (fun d n => if d.isRadio n && d.checked? n == some true then d.check true n else d) d

/-- The document of a sequence of tokens: the rest of `parse_html` once the tokens are read. -/
def ofTokens (tokens : List Token) : Document :=
  (tokens.foldl Builder.push {}).document.fillTextAreas.settleRadios

/-- The document of a text (`Document.from_html`, `parse_html`). -/
def ofHtml (html : String) : Except Error Document :=
  match Token.scan html.toList with
  | .ok tokens => .ok (ofTokens tokens)
  | .error fault => .error (.markup fault)

end Document

end FormRules
