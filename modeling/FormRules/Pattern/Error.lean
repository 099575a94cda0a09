/-!
# Faults of patterns

What can be wrong with a pattern, and a text for each fault.
-/

namespace FormRules.Pattern

/-- What is wrong with a pattern. -/
inductive Fault
  | nothingToRepeat
  | unclosedGroup
  | unopenedGroup
  | unknownGroup
  | badGroupName
  | tooDeep
  | badFlag
  | trailingBackslash
  | badEscape (c : Char)
  | badCodePoint
  | unknownProperty (name : String)
  | unclosedClass
  | badClassItem
  | badRange
  | badCount
  | badReference
  | namedAndNumbered
  | variableLookBehind
  deriving DecidableEq, Repr, Inhabited

/-- The text of a fault. -/
def Fault.message : Fault → String
  | nothingToRepeat => "nothing to repeat"
  | unclosedGroup => "unclosed group"
  | unopenedGroup => "closing parenthesis without a group"
  | unknownGroup => "unknown kind of group"
  | badGroupName => "malformed group name"
  | tooDeep => "groups are nested too deeply"
  | badFlag => "unknown flag"
  | trailingBackslash => "backslash at the end"
  | badEscape c => "unknown escape " ++ String.ofList [c]
  | badCodePoint => "malformed code point"
  | unknownProperty name => "unknown property " ++ name
  | unclosedClass => "unclosed character class"
  | badClassItem => "misplaced item in a character class"
  | badRange => "range out of order"
  | badCount => "repetition bounds out of order"
  | badReference => "reference to a group that does not exist"
  | namedAndNumbered => "references by number beside named groups"
  | variableLookBehind => "look-behind of variable length"

end FormRules.Pattern
