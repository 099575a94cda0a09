import FormRules.Text.Digits

/-!
# Character references

A reference is an ampersand, a run of letters, digits and number signs, and then a semicolon that
may be missing. The run is taken whole: it is one of the known names, or a number sign and the
number of a code point, in decimal or behind an `x` in hexadecimal. An ampersand in front of any
other run stands for itself.

* `namedChar?`, `numberedChar?`, `referredChar?`: the character of a run.
* `decode`: a text with its references replaced.
-/

namespace FormRules.Markup

/-- The names of characters that `character_reference` knows. -/
def characterNames : List (String × Char) :=
  [("amp", '&'), ("lt", '<'), ("gt", '>'), ("quot", '"'), ("apos", '\''), ("nbsp", '\u00a0'),
    ("copy", '©'), ("reg", '®'), ("euro", '€'), ("pound", '£'), ("yen", '¥'), ("deg", '°'),
    ("plusmn", '±'), ("times", '×'), ("divide", '÷'), ("hellip", '…')]

/-- The character of a name: the table of `character_reference`. -/
def namedChar? (run : List Char) : Option Char :=
  (characterNames.find? fun (name, _) => name.toList = run).map Prod.snd

/-- The character whose code point digits write in a radix: the end of `character_reference`. -/
def charOfDigits? (radix : Nat) (digits : List Char) : Option Char :=
  if digits = [] then none else (Text.number? radix digits).bind Text.charOf?

/-- The character of a run behind the number sign, by its radix in `character_reference`. -/
def numberedChar? (run : List Char) : Option Char :=
  match run with
  | [] => none
  | c :: digits =>
    if c = 'x' ∨ c = 'X' then charOfDigits? 16 digits else charOfDigits? 10 run

/-- The character that a run behind an ampersand refers to (`character_reference`). -/
def referredChar? (run : List Char) : Option Char :=
  match run with
  | '#' :: run => numberedChar? run
  | run => namedChar? run

/-- A character of a run. -/
def isRunChar (c : Char) : Bool := c.isAlphanum || c == '#'

/-- Leaves out the semicolon that ends a reference. -/
def dropSemicolon : List Char → List Char
  | ';' :: s => s
  | s => s

theorem length_dropSemicolon_le (s : List Char) : (dropSemicolon s).length ≤ s.length := by
  unfold dropSemicolon
  split
  · exact Nat.le_succ _
  · exact Nat.le_refl _

/-- A text with its references replaced by the characters that they refer to
(`decode_character_references`). -/
def decode : List Char → List Char
  | [] => []
  | c :: s =>
    if c = '&' then
      match referredChar? (s.takeWhile isRunChar) with
      | some referred => referred :: decode (dropSemicolon (s.dropWhile isRunChar))
      | none => '&' :: decode s
    else c :: decode s
termination_by s => s.length
decreasing_by
  · have h₁ := length_dropSemicolon_le (s.dropWhile isRunChar)
    have h₂ := (List.dropWhile_sublist isRunChar (l := s)).length_le
    simp only [List.length_cons]
    omega
  all_goals simp

end FormRules.Markup
