/-!
# The order of texts by 16-bit units

Texts are compared as sequences of 16-bit code units. A character at or above `U+10000` counts as
two surrogate units, so it sorts below the characters from `U+E000` to `U+FFFF`.

* `units`: the code units of a text.
* `compareUnits`: lexicographic order of two such sequences.
-/

namespace FormRules.Text

/-- The code units of a character: itself, or a high and a low surrogate. -/
def charUnits (c : Char) : List Nat :=
  let n := c.toNat
  if n < 0x10000 then [n]
  else [0xD800 + (n - 0x10000) / 0x400, 0xDC00 + (n - 0x10000) % 0x400]

/-- The code units of a text. -/
def units (s : List Char) : List Nat := s.flatMap charUnits

/-- Lexicographic order; a proper beginning comes first. -/
def compareUnits : List Nat → List Nat → Ordering
  | [], [] => .eq
  | [], _ :: _ => .lt
  | _ :: _, [] => .gt
  | a :: s, b :: t => (compare a b).then (compareUnits s t)

/-- The order of two texts by their code units, by which `Comparison.holds` compares them. -/
def compareText (s t : String) : Ordering := compareUnits (units s.toList) (units t.toList)

end FormRules.Text
