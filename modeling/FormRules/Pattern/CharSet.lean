import FormRules.Unicode.CaseFold
import FormRules.Unicode.Property

/-!
# Sets of characters

What one character of a pattern can match: a character, a range, a property, or a class in brackets
with its unions and set operations.

* `CharSet.mem`: membership, with case counted or not.
* `CharSet.digits`, `CharSet.spaces`, `CharSet.wordChars`: the classes with a letter of their own.
-/

namespace FormRules.Pattern

open Unicode

/-- A set of characters. -/
inductive CharSet
  | none
  | range (first last : Char)
  /-- The characters of any of the tables, or of none of them. -/
  | property (negated : Bool) (tables : List RangeTable)
  | union (a b : CharSet)
  /-- A class in brackets. -/
  | bracket (negated : Bool) (a : CharSet)
  | intersection (a b : CharSet)
  | difference (a b : CharSet)
  | symmetricDifference (a b : CharSet)
  deriving Inhabited

namespace CharSet

/-- The set of one character. -/
def one (c : Char) : CharSet := bracket false (range c c)

/-- All characters but those of a set. -/
def allBut (a : CharSet) : CharSet := bracket true a

/-- The decimal digits. -/
def digits (negated : Bool) : CharSet := property negated [digitTable]

/-- White space. -/
def spaces (negated : Bool) : CharSet := property negated [whiteSpaceTable]

/-- The characters of words. -/
def wordChars (negated : Bool) : CharSet := property negated wordTables

/-- The ASCII hexadecimal digits. -/
def hexDigits (negated : Bool) : CharSet :=
  bracket negated (union (range '0' '9') (union (range 'A' 'F') (range 'a' 'f')))

/-- Whether a set has a code point, or with `ignoreCase` one that differs from it in case only.
Case is ignored in properties, in brackets and on both sides of an operation, before a negation. -/
def mem (ignoreCase : Bool) : CharSet → Nat → Bool
  | none, _ => false
  | range first last, n => first.toNat ≤ n && n ≤ last.toNat
  | property negated tables, n => negated != near n fun n => tables.any (·.mem n)
  | union a b, n => a.mem ignoreCase n || b.mem ignoreCase n
  | bracket negated a, n => negated != near n (a.mem ignoreCase)
  | intersection a b, n => near n (a.mem ignoreCase) && near n (b.mem ignoreCase)
  | difference a b, n => near n (a.mem ignoreCase) && !near n (b.mem ignoreCase)
  | symmetricDifference a b, n => near n (a.mem ignoreCase) != near n (b.mem ignoreCase)
where
  /-- Whether a test holds at a code point or at one of its case variants. -/
  near (n : Nat) (test : Nat → Bool) : Bool :=
    test n || (ignoreCase && (caseVariants n).any test)

end CharSet

end FormRules.Pattern
