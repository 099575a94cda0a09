/-!
# Blank characters, trimming and words

White space in rule texts and in values is the Unicode property `White_Space`.

* `isBlank`: the 25 characters of the property.
* `trim`: a text without the blanks at its two ends.
* `cut`: the pieces between the separators of a text, empty ones included.
* `words`: the non-empty pieces between blanks.
-/

namespace FormRules.Text

/-- The Unicode property `White_Space`. -/
def isBlank (c : Char) : Bool :=
  let n := c.toNat
  (0x09 ≤ n && n ≤ 0x0D) || n == 0x20 || n == 0x85 || n == 0xA0 || n == 0x1680 ||
    (0x2000 ≤ n && n ≤ 0x200A) || n == 0x2028 || n == 0x2029 || n == 0x202F || n == 0x205F ||
    n == 0x3000

/-! ## Trimming -/

/-- The characters without the blanks in front. -/
def trimStart (s : List Char) : List Char := s.dropWhile isBlank

/-- The characters without the blanks at the two ends. -/
def trimChars (s : List Char) : List Char := (trimStart (trimStart s).reverse).reverse

/-- The text without the blanks at its two ends. -/
def trim (s : String) : String := String.ofList (trimChars s.toList)

/-! ## Cutting -/

/-- The pieces between the separators, in order. There is one piece more than there are
separators. -/
def cut (isSeparator : Char → Bool) : List Char → List (List Char)
  | [] => [[]]
  | c :: s =>
    if isSeparator c then [] :: cut isSeparator s
    else match cut isSeparator s with
      | [] => [[c]]
      | piece :: pieces => (c :: piece) :: pieces

/-- The non-empty pieces between blanks. -/
def words (s : List Char) : List (List Char) := (cut isBlank s).filter (· ≠ [])

end FormRules.Text
