import FormRules.Unicode.Property

/-!
# Quoted texts

A text in double quotes, in which nothing hides: quotes, backslashes, controls and whatever does
not show by itself are escaped.

* `quotedChar`: the written form of a character.
* `quoted`: the written form of a text.
-/

namespace FormRules.Text

/-- A code point in hexadecimal between braces. -/
def codePointEscape (c : Char) : List Char :=
  ['\\', 'u', '\x7b'] ++ Nat.toDigits 16 c.toNat ++ ['\x7d']

/-- A character as it stands in a quoted text. Marks that attach to the character in front are
written as code points, and so is all that does not show. -/
def quotedChar (c : Char) : List Char :=
  if c = '\x00' then ['\\', '0']
  else if c = '\t' then ['\\', 't']
  else if c = '\r' then ['\\', 'r']
  else if c = '\n' then ['\\', 'n']
  else if c = '"' ∨ c = '\\' then ['\\', c]
  else if Unicode.extendsGrapheme c.toNat then codePointEscape c
  else if Unicode.isPrintable c.toNat then [c]
  else codePointEscape c

/-- A text in quotes. -/
def quoted (s : String) : String :=
  String.ofList ('"' :: s.toList.flatMap quotedChar ++ ['"'])

end FormRules.Text
