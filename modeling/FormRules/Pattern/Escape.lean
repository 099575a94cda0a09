import FormRules.Pattern.CharSet
import FormRules.Pattern.Error
import FormRules.Text.Digits

/-!
# Escapes

What a backslash and the characters behind it stand for.

* `Escape`: a character, a set, a place in the text or a reference to a group.
* `Escape.read`: reads an escape, given what follows the backslash, and returns the rest.
-/

namespace FormRules.Pattern

open Text (charOf? decimal digit? number?)

/-- A place between two characters. -/
inductive Edge
  | textStart | textEnd
  /-- The end of the text, or of the text without the line feeds that end it. -/
  | textEndBeforeFeeds
  | lineStart | lineEnd
  | wordBoundary | noWordBoundary
  | wordStart | wordEnd
  | wordStartHalf | wordEndHalf
  deriving DecidableEq, Repr, Inhabited

/-- How a reference names a group. -/
inductive GroupName
  | number (n : Nat)
  | name (s : String)
  deriving DecidableEq, Repr, Inhabited

/-- What an escape stands for. -/
inductive Escape
  | char (c : Char)
  | set (s : CharSet)
  | edge (e : Edge)
  | reference (g : GroupName)
  /-- An escape that matches the empty text everywhere. -/
  | nothing
  deriving Inhabited

/-! ## Numbers and names -/

/-- A hexadecimal digit. -/
def isHexDigit (c : Char) : Bool := (digit? 16 c).isSome

/-- The character of a code point in hexadecimal digits. -/
def ofHex (digits : List Char) : Except Fault Char :=
  match (number? 16 digits).bind charOf? with
  | some c => .ok c
  | none => .error .badCodePoint

/-- Reads a code point: so many digits, or one to eight digits in braces. -/
def readHex (count : Nat) (s : List Char) : Except Fault (Char × List Char) :=
  let digits := s.take count
  if digits.length = count ∧ digits.all isHexDigit then do
    return (← ofHex digits, s.drop count)
  else match s with
    | '\x7b' :: s =>
      let (digits, s) := s.span isHexDigit
      match s with
      | '\x7d' :: s =>
        if digits = [] ∨ 8 < digits.length then .error .badCodePoint
        else do return (← ofHex digits, s)
      | _ => .error .badCodePoint
    | _ => .error .badCodePoint

/-- A character of a group's name. -/
def isNameChar (c : Char) : Bool := c == '_' || Unicode.isWordChar c.toNat

/-- Reads a group's name up to the character that closes it. -/
def readName (close : Char) (s : List Char) : Except Fault (String × List Char) :=
  let (name, s) := s.span isNameChar
  match s with
  | c :: s =>
    if c = close ∧ name ≠ [] then .ok (String.ofList name, s) else .error .badGroupName
  | [] => .error .badGroupName

/-- A name made of digits alone is a number. -/
def GroupName.ofString (name : String) : GroupName :=
  if name.toList.all Char.isDigit then .number (decimal name.toList) else .name name

/-- Reads the name or number that a reference gives in angle brackets or quotes. -/
def readReference : List Char → Except Fault (GroupName × List Char)
  | '<' :: s => do let (name, s) ← readName '>' s; return (.ofString name, s)
  | '\'' :: s => do let (name, s) ← readName '\'' s; return (.ofString name, s)
  | _ => .error .badGroupName

/-! ## Properties -/

/-- Reads the name of a property, one letter or a name in braces; a circumflex in front of a name
negates it. -/
def readProperty (negated : Bool) : List Char → Except Fault (CharSet × List Char)
  | '\x7b' :: s =>
    match s.span (· ≠ '\x7d') with
    | (_, []) => .error .unclosedClass
    | ('^' :: name, _ :: s) => do return (← find (!negated) (String.ofList name), s)
    | (name, _ :: s) => do return (← find negated (String.ofList name), s)
  | c :: s => do return (← find negated (String.ofList [c]), s)
  | [] => .error (.badEscape 'p')
where
  /-- The set of a property. -/
  find (negated : Bool) (name : String) : Except Fault CharSet :=
    match Unicode.property? name with
    | some tables => .ok (.property negated tables)
    | none => .error (.unknownProperty name)

/-! ## Escapes -/

/-- Reads what may follow the letter of a word boundary: the kind of boundary in braces. -/
def readBoundary (s : List Char) : Edge × List Char :=
  let kinds : List (String × Edge) :=
    [("\x7bstart\x7d", .wordStart), ("\x7bend\x7d", .wordEnd),
      ("\x7bstart-half\x7d", .wordStartHalf), ("\x7bend-half\x7d", .wordEndHalf)]
  match kinds.find? fun (written, _) => written.toList.isPrefixOf s with
  | some (written, edge) => (edge, s.drop written.length)
  | none => (.wordBoundary, s)

/-- The characters that a letter stands for behind a backslash. -/
def controlChar? : Char → Option Char
  | 'a' => some '\x07'
  | 'e' => some '\x1b'
  | 'f' => some '\x0c'
  | 'n' => some '\n'
  | 'r' => some '\r'
  | 't' => some '\t'
  | 'v' => some '\x0b'
  | _ => none

namespace Escape

/-- Reads an escape that means the same inside and outside a class. -/
def readCommon (c : Char) (s : List Char) : Except Fault (Escape × List Char) :=
  match c with
  | 'd' => .ok (set (.digits false), s)
  | 'D' => .ok (set (.digits true), s)
  | 's' => .ok (set (.spaces false), s)
  | 'S' => .ok (set (.spaces true), s)
  | 'w' => .ok (set (.wordChars false), s)
  | 'W' => .ok (set (.wordChars true), s)
  | 'h' => .ok (set (.hexDigits false), s)
  | 'H' => .ok (set (.hexDigits true), s)
  | 'x' => do let (c, s) ← readHex 2 s; return (char c, s)
  | 'u' => do let (c, s) ← readHex 4 s; return (char c, s)
  | 'U' => do let (c, s) ← readHex 8 s; return (char c, s)
  | 'p' => do let (p, s) ← readProperty false s; return (set p, s)
  | 'P' => do let (p, s) ← readProperty true s; return (set p, s)
  | c =>
    match controlChar? c with
    | some control => .ok (char control, s)
    | none => if c.isAlpha then .error (.badEscape c) else .ok (char c, s)

/-- Reads an escape inside a class. -/
def readInClass : List Char → Except Fault (Escape × List Char)
  | [] => .error .trailingBackslash
  | 'b' :: s => .ok (char '\x08', s)
  | c :: s => if c.isDigit then .error .badClassItem else readCommon c s

/-- Reads an escape outside a class. A number refers to a group, and has to be less than half of
the pattern's size in bytes. -/
def read (size : Nat) : List Char → Except Fault (Escape × List Char)
  | [] => .error .trailingBackslash
  | 'A' :: s => .ok (edge .textStart, s)
  | 'z' :: s => .ok (edge .textEnd, s)
  | 'Z' :: s => .ok (edge .textEndBeforeFeeds, s)
  | 'G' :: s => .ok (edge .textStart, s)
  | 'K' :: s => .ok (nothing, s)
  | 'b' :: s => let (e, s) := readBoundary s; .ok (edge e, s)
  | 'B' :: s => .ok (edge .noWordBoundary, s)
  | '<' :: s => .ok (edge .wordStart, s)
  | '>' :: s => .ok (edge .wordEnd, s)
  | 'k' :: s => do let (g, s) ← readReference s; return (reference g, s)
  | c :: s =>
    if c.isDigit then
      let (digits, s) := (c :: s).span Char.isDigit
      let n := decimal digits
      if n < size / 2 then .ok (reference (.number n), s) else .error .badReference
    else readCommon c s

end Escape

end FormRules.Pattern
