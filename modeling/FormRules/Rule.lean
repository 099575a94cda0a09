import FormRules.Text.Blank

/-!
# Rule texts

A rule text holds rules between blanks. A rule is the name of an operator and its arguments, each
after a colon. A rule without a name is dropped; an empty argument keeps its place.

* `Rule.parse`: the rules of a text.
* `Rule.render`: the written form of one rule.
* `Rule.Renderable`: the rules that a text can hold.
-/

namespace FormRules

/-- The name of an operator and its arguments (`RuleSpec`). -/
structure Rule where
  operator : String
  args : List String
  deriving DecidableEq, Repr, Inhabited

namespace Rule

open Text

/-- The argument at a place, counted from zero (`RuleSpec.arg`). -/
def arg? (r : Rule) (i : Nat) : Option String := r.args[i]?

/-! ## Reading -/

/-- Separates the name and the arguments of a rule. -/
def isColon (c : Char) : Bool := c == ':'

/-- The rule between two blanks, none when it has no name. This is the body of the loop of
`parse_rule_spec`. -/
def ofWord? (word : List Char) : Option Rule :=
  match cut isColon word with
  | [] => none
  | operator :: args =>
    if operator = [] then none else some ⟨String.ofList operator, args.map String.ofList⟩

/-- The rules of a text, in order (`parse_rule_spec`). -/
def parse (text : String) : List Rule := (words text.toList).filterMap ofWord?

/-! ## Writing -/

/-- A text that one part of a rule can be: no colon and no blank. -/
def IsPart (s : String) : Prop := ∀ c ∈ s.toList, isColon c = false ∧ isBlank c = false

/-- A rule that a rule text can hold. -/
structure Renderable (r : Rule) : Prop where
  operator_ne : r.operator ≠ ""
  operator_part : IsPart r.operator
  args_part : ∀ a ∈ r.args, IsPart a

/-- The written form of a rule: its name, then each argument after a colon. -/
def render (r : Rule) : String :=
  r.args.foldl (fun s a => s ++ ":" ++ a) r.operator

end Rule

end FormRules
