import FormRules.Pattern.Match

/-!
# Engines for patterns

A rule that matches patterns works with any engine.

* `Engine`: makes a test of a pattern and some flags, or says what is wrong.
* `Engine.standard`: the engine of this library.
-/

namespace FormRules.Pattern

/-- An engine makes a test of a pattern, or says why it cannot (`RegexBuilder.build`); the test says
of a text whether the pattern matches in it, or why that cannot be said (`Regex.is_match`). -/
abbrev Engine := String → Flags → Except String (String → Except String Bool)

/-- The engine that follows all spots of a match, in place of the `backend` of `Regex`. -/
def Engine.standard : Engine := fun pattern flags =>
  match Expr.read flags pattern with
  | .ok a => .ok fun text => .ok (a.test text)
  | .error fault => .error fault.message

end FormRules.Pattern
