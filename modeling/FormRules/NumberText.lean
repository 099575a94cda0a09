/-!
# Spellings of numbers

The spellings that the `number` rule takes, with `D` a run of ASCII digits:

* decimal: `[-+]?D([.,]D)?`, with exponents allowed also `([eE][-+]?D)?` behind it;
* integer: `[-+]?D`, with exponents allowed also `([eE]\+?D)?` behind it.

`isNumberText` reads a text from left to right; a run of digits is always taken whole.
-/

namespace FormRules

/-- Whether a number may have an exponent (`NumberFormat`). -/
inductive NumberFormat
  | allowExponent
  | plain
  deriving DecidableEq, Repr, Inhabited

namespace NumberText

/-- Leaves out one character of a class in front, if there is one: `is_number_text` does so with
signs. -/
def skip (isSkipped : Char → Bool) : List Char → List Char
  | [] => []
  | c :: s => if isSkipped c then s else c :: s

/-- Leaves out a run of digits, of which there has to be one (`skip_digits`). -/
def skipDigits? (s : List Char) : Option (List Char) :=
  if s.takeWhile Char.isDigit = [] then none else some (s.dropWhile Char.isDigit)

/-- Leaves out a part that a character of a class opens, if one does: a fraction or an exponent in
`is_number_text`. -/
def skipPart? (opens : Char → Bool) (part : List Char → Option (List Char)) :
    List Char → Option (List Char)
  | [] => some []
  | c :: s => if opens c then part s else some (c :: s)

/-- Plus and minus. -/
def isSign (c : Char) : Bool := c == '-' || c == '+'

/-- Point and comma. -/
def isPoint (c : Char) : Bool := c == '.' || c == ','

/-- The two letters that open an exponent. -/
def isExponentMark (c : Char) : Bool := c == 'e' || c == 'E'

end NumberText

open NumberText in
/-- Tells the texts that are spelled as numbers (`is_number_text`). -/
def isNumberText (s : String) (format : NumberFormat) (integer : Bool) : Bool :=
  let fraction := fun rest => if integer then some rest else skipPart? isPoint skipDigits? rest
  let exponent := fun rest =>
    match format with
    | .plain => some rest
    | .allowExponent =>
      skipPart? isExponentMark
        (fun e => skipDigits? (skip (if integer then (· == '+') else isSign) e)) rest
  (skipDigits? (skip isSign s.toList) >>= fraction >>= exponent) == some []

end FormRules
