/-!
# Binary floating point numbers of 64 bits

A number is held exactly: a finite one is a sign and a count of units of `2^-1074`, the smallest
positive number. Order and rounding are then arithmetic of natural numbers.

* `roundUnits`: the count of units next to a quotient, with 53 significant bits, ties to even.
* `ofRatio`, `ofNat`, `shiftIn`: numbers from exact values, rounded once.
* `compare?`: the order, in which `NaN` has no place and the two zeros are one.
* `bits`: the interchange encoding.
-/

namespace FormRules

/-- A binary floating point number of 64 bits. -/
inductive Binary64
  | nan
  | infinite (negative : Bool)
  /-- The number `± units · 2^-1074`. -/
  | finite (negative : Bool) (units : Nat)
  deriving DecidableEq, Repr, Inhabited

namespace Binary64

/-- Units in one: `1 = 2^1074 · 2^-1074`. -/
def unitsPerOne : Nat := Nat.pow 2 1074

/-- The first count of units that is out of range: `2^1024 = 2^2098 · 2^-1074`. -/
def unitLimit : Nat := Nat.pow 2 2098

/-- Positive zero. -/
def zero : Binary64 := finite false 0

/-- Tells `NaN` from the numbers. -/
def isNaN : Binary64 → Bool
  | nan => true
  | _ => false

/-! ## Rounding -/

/-- The whole number next to `num / den`; a half goes to the even neighbour. -/
def roundHalfEven (num den : Nat) : Nat :=
  let floor := num / den
  let rest := num % den
  if 2 * rest < den then floor
  else if den < 2 * rest then floor + 1
  else if floor % 2 = 0 then floor else floor + 1

/-- How many low bits of a count of units 53 significant bits leave out. -/
def dropBits (units : Nat) : Nat := units.log2 + 1 - 53

/-- The count of units next to `num / den` among those of at most 53 significant bits; a half goes
to the even neighbour. -/
def roundUnits (num den : Nat) : Nat :=
  let grid := Nat.pow 2 (dropBits (num / den))
  roundHalfEven num (den * grid) * grid

/-- The number of that many units, out of range an infinity. -/
def ofUnits (negative : Bool) (units : Nat) : Binary64 :=
  if units < unitLimit then finite negative units else infinite negative

/-- The number next to `± num / den`. -/
def ofRatio (negative : Bool) (num den : Nat) : Binary64 :=
  ofUnits negative (roundUnits (num * unitsPerOne) den)

/-- The number next to a whole number. -/
def ofNat (n : Nat) : Binary64 := ofRatio false n 1

/-- The number next to `x · radix + digit`, rounded once: a turn of the loop of
`parse_prefixed_radix`. -/
def shiftIn (radix : Nat) (x : Binary64) (digit : Nat) : Binary64 :=
  match x with
  | finite negative units =>
    ofUnits negative (roundUnits (units * radix + digit * unitsPerOne) 1)
  | other => other

/-! ## Order -/

/-- Where a number stands among the others, in units. The infinities stand just outside the
range; `NaN` stands nowhere. -/
def place? : Binary64 → Option Int
  | nan => none
  | infinite negative => some (if negative then -(unitLimit : Int) else unitLimit)
  | finite negative units => some (if negative then -(units : Int) else units)

/-- The order of two numbers, none when one is `NaN`, by which `Comparison.holds` compares. -/
def compare? (x y : Binary64) : Option Ordering :=
  match x.place?, y.place? with
  | some a, some b => some (compare a b)
  | _, _ => none

/-! ## Encoding -/

/-- The first number that the 52 bits of the fraction field cannot hold. -/
def fractionLimit : Nat := 0x10000000000000

/-- The field of the sign, which is set for negative numbers. -/
def signBit (negative : Bool) : Nat := if negative then 0x8000000000000000 else 0

/-- Exponent and fraction fields of a finite number. A count of at most 52 bits is its own
encoding; above, each binade adds one to the exponent field. -/
def magnitudeBits (units : Nat) : Nat :=
  let dropped := dropBits units
  dropped * fractionLimit + units / Nat.pow 2 dropped

/-- The interchange encoding, none for `NaN`, which has many. -/
def bits? : Binary64 → Option Nat
  | nan => none
  | infinite negative => some (signBit negative + 0x7FF * fractionLimit)
  | finite negative units => some (signBit negative + magnitudeBits units)

/-- The encoding in 16 hexadecimal digits. -/
def hexText (x : Binary64) : String :=
  match x.bits? with
  | none => "NaN"
  | some bits =>
    let digits := Nat.toDigits 16 bits
    String.ofList (List.replicate (16 - digits.length) '0' ++ digits)

end Binary64

end FormRules
