import FormRules.Text.Quoted

/-!
# Errors

What can go wrong, by cause. A rule that is broken, markup that cannot be read and a page operation
that asks for what is not there are errors; a value that fails its rules is not.

* `MarkupFault`: the faults of markup and of changes to a document.
* `Error`: all errors.
* `Error.message`: the text of an error.
-/

namespace FormRules

open Text (quoted)

/-- What is wrong with markup, or with a change that was asked of a document: the causes of
`HtmlParse`. -/
inductive MarkupFault
  | unclosedComment
  | unclosedDeclaration
  | unclosedEndTag (name : String)
  | emptyTagName
  | unclosedStartTag (name : String)
  | missingAttributeValue
  | unclosedQuote
  | unclosedElement (name : String)
  /-- No node is open under which the next one could hang. -/
  | missingParent
  /-- A change whose target is no element; `what` names the thing to change. -/
  | notAnElement (what : String)
  deriving DecidableEq, Repr, Inhabited

/-- The text of a fault of markup, which `HtmlParse` carries. -/
def MarkupFault.message : MarkupFault → String
  | unclosedComment => "unclosed HTML comment"
  | unclosedDeclaration => "unclosed declaration tag"
  | unclosedEndTag name => "unclosed </" ++ name ++ "> end tag"
  | emptyTagName => "empty tag name"
  | unclosedStartTag name => "unclosed <" ++ name ++ "> start tag"
  | missingAttributeValue => "missing attribute value"
  | unclosedQuote => "unclosed quoted attribute value"
  | unclosedElement name => "unclosed <" ++ name ++ ">"
  | missingParent => "missing parent element"
  | notAnElement what => what ++ " target is not an element"

/-- What is wrong with the modifiers of a pattern rule: the causes of `InvalidModifiers`. -/
inductive ModifierFault
  | repeated (c : Char)
  | unknown (c : Char)
  deriving DecidableEq, Repr, Inhabited

/-- The text of a fault of modifiers, as `RegexFlags.parse` words it. -/
def ModifierFault.message : ModifierFault → String
  | repeated c => "repeated flag '" ++ String.ofList [c] ++ "'"
  | unknown c => "unknown flag '" ++ String.ofList [c] ++ "'"

/-- Whatever can go wrong (`Error`). -/
inductive Error
  | markup (fault : MarkupFault)
  /-- A pattern that the engine rejects, with the engine's reason. -/
  | invalidPattern (pattern reason : String)
  | invalidModifiers (modifiers : String) (fault : ModifierFault)
  /-- A comparison rule without a target. -/
  | missingOperand (operator : String)
  | selectorNotFound (selector : String)
  | unsupportedSelector (selector : String)
  | typeMismatch (selector expected actual : String)
  | assertionFailed (selector expected actual : String)
  deriving DecidableEq, Repr, Inhabited

/-- The text of an error, as `Error` is displayed. -/
def Error.message : Error → String
  | markup fault => "html parse error: " ++ fault.message
  | invalidPattern pattern reason => "invalid regexp pattern " ++ quoted pattern ++ ": " ++ reason
  | invalidModifiers modifiers fault =>
    "invalid regexp modifiers: " ++ quoted (modifiers ++ ": " ++ fault.message)
  | missingOperand operator => "operator " ++ operator ++ " requires a comparison target"
  | selectorNotFound selector => "selector not found: " ++ selector
  | unsupportedSelector selector => "unsupported selector: " ++ selector
  | typeMismatch selector expected actual =>
    "type mismatch for " ++ selector ++ ": expected " ++ expected ++ ", actual " ++ actual
  | assertionFailed selector expected actual =>
    "assertion failed for " ++ selector ++ ": expected " ++ expected ++ ", actual " ++ actual

end FormRules
