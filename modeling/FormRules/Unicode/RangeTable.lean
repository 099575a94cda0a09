/-!
# Tables of code points

A set of code points as ranges in ascending order.

* `RangeTable.mem`: membership, by halving.
* `RangeTable.ofText`: reads the written form, in which ranges stand between blanks and are one or
  two hexadecimal bounds.
-/

namespace FormRules.Unicode

/-- Ranges of code points with both bounds, apart from each other and in ascending order. -/
structure RangeTable where
  ranges : Array (Nat × Nat)
  deriving Repr, Inhabited

namespace RangeTable

/-- Looks for a code point among the ranges from `low` up to `high`. -/
def search (t : RangeTable) (n low high : Nat) : Bool :=
  if _ : low < high then
    let middle := (low + high) / 2
    match t.ranges[middle]? with
    | none => false
    | some (first, last) =>
      if n < first then t.search n low middle
      else if last < n then t.search n (middle + 1) high
      else true
  else false
termination_by high - low

/-- Whether a code point is in the table. -/
def mem (t : RangeTable) (n : Nat) : Bool := t.search n 0 t.ranges.size

/-! ## Written form -/

/-- The value of a hexadecimal digit of the written form. -/
def digit (c : Char) : Nat :=
  if c.isDigit then c.toNat - '0'.toNat else c.toNat - 'A'.toNat + 10

/-- Reads the written form. Between two blanks there is a bound, or a bound, a hyphen and a bound;
`low` holds the bound in front of a hyphen. -/
def readRanges (s : List Char) : Array (Nat × Nat) :=
  let start : Array (Nat × Nat) × Option Nat × Nat := (#[], none, 0)
  let (ranges, low, high) := s.foldl (fun (ranges, low, high) c =>
    if c = '-' then (ranges, some high, 0)
    else if c = ' ' then (ranges.push (low.getD high, high), none, 0)
    else (ranges, low, high * 16 + digit c)) start
  ranges.push (low.getD high, high)

/-- The table of a written form. -/
def ofText (s : String) : RangeTable := ⟨readRanges s.toList⟩

end RangeTable

end FormRules.Unicode
