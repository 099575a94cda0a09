import FormRules.Binary64
import FormRules.Text.Blank
import FormRules.Text.Digits

/-!
# Numeric literals

Which number a text stands for: blanks around it do not count, an empty text is zero, `Infinity`
may carry a sign, whole numbers may be written in radix 16, 8 or 2 without a sign, and all else is
a decimal literal or no number. This is `parse_js_number`.

* `Decimal.read?`: decimal literals, `[+-]?(D(\.D?)?|\.D)([eE][+-]?D)?` with `D` a run of digits.
* `Decimal.toBinary64`: the number next to a decimal.
* `ofText`: the number that a text stands for, `NaN` for all other texts.
-/

namespace FormRules.Numeral

open Text

/-- Takes a sign off the front; true is minus. -/
def takeSign : List Char → Bool × List Char
  | '-' :: s => (true, s)
  | '+' :: s => (false, s)
  | s => (false, s)

/-! ## Decimal literals -/

/-- The number `± coefficient · 10^exponent`. -/
structure Decimal where
  negative : Bool
  coefficient : Nat
  exponent : Int
  deriving DecidableEq, Repr

namespace Decimal

/-- The exponent part of a literal, zero when there is none. -/
def readExponent? : List Char → Option Int
  | [] => some 0
  | c :: s =>
    let (negative, digits) := takeSign s
    if (c = 'e' ∨ c = 'E') ∧ digits ≠ [] ∧ digits.all Char.isDigit then
      some (if negative then -(decimal digits : Int) else decimal digits)
    else none

/-- The fraction part of a literal and what follows it. -/
def takeFraction : List Char → List Char × List Char
  | '.' :: s => (s.takeWhile Char.isDigit, s.dropWhile Char.isDigit)
  | s => ([], s)

/-- Reads a whole text as a decimal literal. It succeeds where `is_decimal_literal` does. -/
def read? (s : List Char) : Option Decimal :=
  let (negative, s) := takeSign s
  let whole := s.takeWhile Char.isDigit
  let (fraction, s) := takeFraction (s.dropWhile Char.isDigit)
  if whole = [] ∧ fraction = [] then none
  else (readExponent? s).map fun exponent =>
    ⟨negative, decimal (whole ++ fraction), exponent - fraction.length⟩

/-- The number next to a decimal. Far outside the range the answer is clear from the exponent, and
the power of ten is not computed. -/
def toBinary64 (d : Decimal) : Binary64 :=
  if d.coefficient = 0 then .finite d.negative 0
  else if 400 < d.exponent then .infinite d.negative
  else if d.exponent + d.coefficient.log2 < -400 then .finite d.negative 0
  else if 0 ≤ d.exponent then
    .ofRatio d.negative (d.coefficient * Nat.pow 10 d.exponent.toNat) 1
  else .ofRatio d.negative d.coefficient (Nat.pow 10 (-d.exponent).toNat)

end Decimal

/-! ## Literals with a radix -/

/-- The radix that a literal's first two characters name, and its digits: the prefixes of
`parse_js_number` and `has_radix_prefix`. -/
def takeRadix? : List Char → Option (Nat × List Char)
  | '0' :: c :: digits =>
    if c = 'x' ∨ c = 'X' then some (16, digits)
    else if c = 'o' ∨ c = 'O' then some (8, digits)
    else if c = 'b' ∨ c = 'B' then some (2, digits)
    else none
  | _ => none

/-- The number that the digits of a radix stand for, rounded after each digit
(`parse_prefixed_radix`). -/
def ofRadixDigits (radix : Nat) (digits : List Char) : Binary64 :=
  match digits with
  | [] => .nan
  | digits =>
    match digits.mapM (digit? radix) with
    | none => .nan
    | some values => values.foldl (Binary64.shiftIn radix) .zero

/-! ## Texts -/

/-- The number that a text without blanks around it stands for: `parse_js_number` once it has
trimmed the text. A sign in front of a radix gives no decimal literal, so it needs no test of its
own. -/
def ofTrimmed (s : List Char) : Binary64 :=
  if s = [] then .zero
  else if s = "Infinity".toList ∨ s = "+Infinity".toList then .infinite false
  else if s = "-Infinity".toList then .infinite true
  else match takeRadix? s with
    | some (radix, digits) => ofRadixDigits radix digits
    | none =>
      match Decimal.read? s with
      | some d => d.toBinary64
      | none => .nan

/-- The number that a text stands for (`parse_js_number`). -/
def ofText (s : String) : Binary64 := ofTrimmed (trimChars s.toList)

end FormRules.Numeral
