import FormRules.Pattern.Escape

/-!
# Character classes

A class in brackets is read in two steps. The first finds its end and its escapes; the second reads
items, ranges, nested classes and the set operations `&&`, `--` and `~~`, which bind weaker than
the union of neighbours and group to the left.

* `ClassToken`, `scanClass`: the tokens of a class, up to the bracket that closes it.
* `readClass`: the set of a class.
-/

namespace FormRules.Pattern

/-- A token of a class: a character that may be punctuation, or one that an escape gave. -/
inductive ClassToken
  | plain (c : Char)
  | literal (c : Char)
  | set (s : CharSet)
  deriving Inhabited

/-! ## The extent of a class -/

/-- Collects the tokens of a class whose brackets are open `depth` times, up to the last bracket.
Each round takes at least one character, so the size of the pattern bounds their number. -/
def scanItems : (rounds : Nat) → (depth : Nat) → List Char →
    Except Fault (List ClassToken × List Char)
  | 0, _, _ => .error .unclosedClass
  | rounds + 1, depth, s =>
    match s with
    | [] => .error .unclosedClass
    | '\\' :: s => do
      let (escape, s) ← Escape.readInClass s
      let token ← match escape with
        | .char c => .ok (ClassToken.literal c)
        | .set a => .ok (ClassToken.set a)
        | _ => .error .badClassItem
      let (tokens, s) ← scanItems rounds depth s
      return (token :: tokens, s)
    | ']' :: s =>
      match depth with
      | 0 | 1 => .ok ([.plain ']'], s)
      | depth + 2 => do
        let (tokens, s) ← scanItems rounds (depth + 1) s
        return (.plain ']' :: tokens, s)
    | c :: s => do
      let (tokens, s) ← scanItems rounds (if c = '[' then depth + 1 else depth) s
      return (.plain c :: tokens, s)

/-- Collects the tokens of a class, given what follows its first bracket. A circumflex and then a
closing bracket right at the start are not looked at. -/
def scanClass (s : List Char) : Except Fault (List ClassToken × List Char) := do
  let (hat, s) := match s with
    | '^' :: s => ([ClassToken.plain '^'], s)
    | s => ([], s)
  let (bracket, s) := match s with
    | ']' :: s => ([ClassToken.plain ']'], s)
    | s => ([], s)
  let (tokens, s) ← scanItems (s.length + 1) 1 s
  return (hat ++ bracket ++ tokens, s)

/-! ## The set of a class -/

/-- An operation on sets. -/
inductive SetOperation
  | intersection | difference | symmetricDifference
  deriving DecidableEq, Repr, Inhabited

/-- The set that an operation makes of two. -/
def SetOperation.apply : SetOperation → CharSet → CharSet → CharSet
  | intersection => .intersection
  | difference => .difference
  | symmetricDifference => .symmetricDifference

/-- A class that is open: its left operand so far and the union that grows. -/
structure OpenClass where
  negated : Bool
  left : Option (CharSet × SetOperation)
  items : CharSet
  deriving Inhabited

namespace OpenClass

/-- Adds an item to the union. -/
def add (a : CharSet) (o : OpenClass) : OpenClass := { o with items := .union o.items a }

/-- The set of what has been read so far. -/
def operand (o : OpenClass) : CharSet :=
  match o.left with
  | none => o.items
  | some (left, operation) => operation.apply left o.items

/-- Starts the right operand of an operation. -/
def operate (operation : SetOperation) (o : OpenClass) : OpenClass :=
  { o with left := some (o.operand, operation), items := .none }

/-- The set of the class, once it closes. -/
def close (o : OpenClass) : CharSet := .bracket o.negated o.operand

end OpenClass

/-- Adds the hyphens at the start of a class, then a closing bracket if it comes first. -/
def openItems (o : OpenClass) : List ClassToken → OpenClass × List ClassToken
  | .plain '-' :: rest =>
    let (o, rest) := openHyphens (o.add (.range '-' '-')) rest
    (o, rest)
  | .plain ']' :: rest => (o.add (.range ']' ']'), rest)
  | rest => (o, rest)
where
  /-- Adds further hyphens. -/
  openHyphens (o : OpenClass) : List ClassToken → OpenClass × List ClassToken
    | .plain '-' :: rest => openHyphens (o.add (.range '-' '-')) rest
    | rest => (o, rest)

/-- Opens a class, given what follows its bracket. -/
def openClass (rest : List ClassToken) : OpenClass × List ClassToken :=
  match rest with
  | .plain '^' :: rest => openItems ⟨true, none, .none⟩ rest
  | rest => openItems ⟨false, none, .none⟩ rest

/-- The operation that two equal characters ask for. -/
def setOperation? : List ClassToken → Option (SetOperation × List ClassToken)
  | .plain '&' :: .plain '&' :: rest => some (.intersection, rest)
  | .plain '-' :: .plain '-' :: rest => some (.difference, rest)
  | .plain '~' :: .plain '~' :: rest => some (.symmetricDifference, rest)
  | _ => none

/-- The character of an item, none for a set. -/
def ClassToken.char? : ClassToken → Option Char
  | plain c | literal c => some c
  | set _ => none

/-- Reads one item: a range when a hyphen follows that is neither the last character of the class
nor the first of an operation. -/
def readItem (first : ClassToken) (rest : List ClassToken) :
    Except Fault (CharSet × List ClassToken) :=
  let alone := match first with
    | .plain c | .literal c => CharSet.range c c
    | .set a => a
  match rest with
  | .plain '-' :: .plain ']' :: _ => .ok (alone, rest)
  | .plain '-' :: .plain '-' :: _ => .ok (alone, rest)
  | .plain '-' :: last :: rest =>
    match first.char?, last.char? with
    | some a, some b => if a ≤ b then .ok (.range a b, rest) else .error .badRange
    | _, _ => .error .badRange
  | rest => .ok (alone, rest)

/-- Reads the items of the innermost open class. Each round takes at least one token. -/
def readItems : (rounds : Nat) → OpenClass → (outer : List OpenClass) → List ClassToken →
    Except Fault CharSet
  | 0, _, _, _ => .error .unclosedClass
  | rounds + 1, inner, outer, tokens =>
    match tokens with
    | [] => .error .unclosedClass
    | .plain '[' :: rest =>
      let (nested, rest) := openClass rest
      readItems rounds nested (inner :: outer) rest
    | .plain ']' :: rest =>
      match outer, rest with
      | [], [] => .ok inner.close
      | [], _ :: _ => .error .badClassItem
      | enclosing :: outer, rest => readItems rounds (enclosing.add inner.close) outer rest
    | first :: rest =>
      match setOperation? (first :: rest) with
      | some (operation, rest) => readItems rounds (inner.operate operation) outer rest
      | none => do
        let (a, rest) ← readItem first rest
        readItems rounds (inner.add a) outer rest

/-- Reads a class, given what follows its first bracket, and returns the rest of the pattern. -/
def readClass (s : List Char) : Except Fault (CharSet × List Char) := do
  let (tokens, s) ← scanClass s
  let (o, rest) := openClass tokens
  return (← readItems (rest.length + 1) o [] rest, s)

end FormRules.Pattern
