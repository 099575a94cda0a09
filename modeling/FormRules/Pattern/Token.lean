import FormRules.Pattern.Class

/-!
# Tokens of patterns

A pattern is a sequence of atoms, quantifiers, group openings and closings, bars and flag changes.

* `Token`: the tokens.
* `Token.scan`: the tokens of a pattern. A brace that opens no repetition stands for itself.
-/

namespace FormRules.Pattern

/-- The flags that a pattern can change. -/
inductive Flag
  | ignoreCase | multiLine | dotAll | swapGreed
  /-- A flag that changes nothing. -/
  | unicode
  deriving DecidableEq, Repr, Inhabited

/-- What a group is for. -/
inductive GroupKind
  | capture
  | named (name : String)
  | lookAhead (negated : Bool)
  | lookBehind (negated : Bool)
  | atomic
  | plain
  deriving DecidableEq, Repr, Inhabited

/-- How often an item is repeated. No upper bound is `none`. -/
structure Count where
  least : Nat
  most : Option Nat
  lazy : Bool
  possessive : Bool
  deriving DecidableEq, Repr, Inhabited

/-- A token of a pattern. -/
inductive Token
  | char (c : Char)
  | set (s : CharSet)
  | anyChar
  | caret
  | dollar
  | edge (e : Edge)
  | nothing
  | reference (g : GroupName)
  | count (c : Count)
  | opening (k : GroupKind)
  | closing
  | bar
  /-- Flags to set and flags to clear. -/
  | flags (on off : List Flag)
  deriving Inhabited

/-! ## Quantifiers -/

/-- Reads what may follow a quantifier: a question mark, then a plus sign. -/
def readGreed (least : Nat) (most : Option Nat) (s : List Char) : Token × List Char :=
  let (lazy, s) := match s with
    | '?' :: s => (true, s)
    | s => (false, s)
  match s with
  | '+' :: s => (.count ⟨least, most, lazy, true⟩, s)
  | s => (.count ⟨least, most, lazy, false⟩, s)

/-- Reads a repetition in braces, given what follows the opening one. -/
def readBounds? (s : List Char) : Option ((Nat × Option Nat) × List Char) :=
  let (first, s) := s.span Char.isDigit
  match s with
  | '\x7d' :: s =>
    if first = [] then none else some ((Text.decimal first, some (Text.decimal first)), s)
  | ',' :: s =>
    let (second, s) := s.span Char.isDigit
    match s with
    | '\x7d' :: s =>
      some ((Text.decimal first, if second = [] then none else some (Text.decimal second)), s)
    | _ => none
  | _ => none

/-! ## Groups -/

/-- The flag of a letter. -/
def flag? : Char → Option Flag
  | 'i' => some .ignoreCase
  | 'm' => some .multiLine
  | 's' => some .dotAll
  | 'U' => some .swapGreed
  | 'u' => some .unicode
  | _ => none

/-- The flags of some letters. -/
def readFlags (letters : List Char) : Except Fault (List Flag) :=
  match letters.mapM flag? with
  | some flags => .ok flags
  | none => .error .badFlag

/-- Reads a change of flags, given what follows the question mark: letters to set, and behind a
hyphen letters to clear. A colon makes a group of what follows, which the second token opens. -/
def readFlagChange (s : List Char) : Except Fault (List Token × List Char) :=
  let (written, s) := s.span fun c => c ≠ ')' ∧ c ≠ ':'
  let (on, off) := written.span (· ≠ '-')
  match s with
  | [] => .error .unclosedGroup
  | c :: s => do
    let on ← readFlags on
    let off ← match off with
      | [] => .ok []
      | _ :: [] => .error .badFlag
      | _ :: off => readFlags off
    if Flag.unicode ∈ off then .error .badFlag
    else if c = ')' then
      if written = [] then .error .badFlag else return ([.flags on off], s)
    else return ([.opening .plain, .flags on off], s)

/-- Reads the opening of a group, given what follows the parenthesis. -/
def readOpening : List Char → Except Fault (List Token × List Char)
  | '?' :: '=' :: s => .ok ([.opening (.lookAhead false)], s)
  | '?' :: '!' :: s => .ok ([.opening (.lookAhead true)], s)
  | '?' :: '<' :: '=' :: s => .ok ([.opening (.lookBehind false)], s)
  | '?' :: '<' :: '!' :: s => .ok ([.opening (.lookBehind true)], s)
  | '?' :: '>' :: s => .ok ([.opening .atomic], s)
  | '?' :: '<' :: s => do
    let (name, s) ← readName '>' s
    return ([.opening (.named name)], s)
  | '?' :: 'P' :: '<' :: s => do
    let (name, s) ← readName '>' s
    return ([.opening (.named name)], s)
  | '?' :: 'P' :: '=' :: s => do
    let (name, s) ← readName ')' s
    return ([.reference (.ofString name)], s)
  | '?' :: s => readFlagChange s
  | s => .ok ([.opening .capture], s)

/-! ## Patterns -/

/-- The token of an escape. -/
def Escape.token : Escape → Token
  | .char c => .char c
  | .set a => .set a
  | .edge e => .edge e
  | .reference g => .reference g
  | .nothing => .nothing

/-- Reads the next tokens. `atStart` says that no item stands in front, so that a brace cannot be
a repetition. -/
def readTokens (size : Nat) (atStart : Bool) (c : Char) (s : List Char) :
    Except Fault (List Token × List Char) :=
  match c with
  | '\\' => do let (e, s) ← Escape.read size s; return ([e.token], s)
  | '[' => do let (a, s) ← readClass s; return ([.set a], s)
  | '(' => readOpening s
  | ')' => .ok ([.closing], s)
  | '|' => .ok ([.bar], s)
  | '.' => .ok ([.anyChar], s)
  | '^' => .ok ([.caret], s)
  | '$' => .ok ([.dollar], s)
  | '?' => let (t, s) := readGreed 0 (some 1) s; .ok ([t], s)
  | '*' => let (t, s) := readGreed 0 none s; .ok ([t], s)
  | '+' => let (t, s) := readGreed 1 none s; .ok ([t], s)
  | '\x7b' =>
    match if atStart then none else readBounds? s with
    | some ((least, most), s) => let (t, s) := readGreed least most s; .ok ([t], s)
    | none => .ok ([.char c], s)
  | c => .ok ([.char c], s)

namespace Token

/-- Whether an item stands in front of what follows a token. -/
def startsBranch : Token → Bool
  | .count _ | .opening _ | .bar => true
  | _ => false

/-- Reads tokens to the end. Each round takes at least one character. -/
def scanFrom (size : Nat) : (rounds : Nat) → (atStart : Bool) → List Char →
    Except Fault (List Token)
  | 0, _, _ => .ok []
  | _ + 1, _, [] => .ok []
  | rounds + 1, atStart, c :: s => do
    let (tokens, s) ← readTokens size atStart c s
    let atStart := (tokens.getLast?.map startsBranch).getD atStart
    return tokens ++ (← scanFrom size rounds atStart s)

/-- The tokens of a pattern. -/
def scan (pattern : String) : Except Fault (List Token) :=
  scanFrom pattern.utf8ByteSize (pattern.length + 1) true pattern.toList

end Token

end FormRules.Pattern
