/-!
# Digits

Digits and the whole numbers that they write. Letters are digits beyond nine, in either case.

* `digit?`: the value of a digit in a radix.
* `number?`: the number that digits write in a radix.
* `decimal`: the number that decimal digits write.
* `charOf?`: the character of a code point.
-/

namespace FormRules.Text

/-- The value of a digit in a radix up to 36. -/
def digit? (radix : Nat) (c : Char) : Option Nat :=
  let value :=
    if '0' ≤ c ∧ c ≤ '9' then c.toNat - '0'.toNat
    else if 'a' ≤ c ∧ c ≤ 'z' then c.toNat - 'a'.toNat + 10
    else if 'A' ≤ c ∧ c ≤ 'Z' then c.toNat - 'A'.toNat + 10
    else radix
  if value < radix then some value else none

/-- The number that digits write in a radix, none when one is no digit. -/
def number? (radix : Nat) (digits : List Char) : Option Nat :=
  (digits.mapM (digit? radix)).map fun values => values.foldl (fun n d => n * radix + d) 0

/-- The number that decimal digits write. -/
def decimal (digits : List Char) : Nat :=
  digits.foldl (fun n c => n * 10 + (c.toNat - '0'.toNat)) 0

/-- The character of a code point. -/
def charOf? (n : Nat) : Option Char :=
  if h : n.isValidChar then some (Char.ofNatAux n h) else none

end FormRules.Text
