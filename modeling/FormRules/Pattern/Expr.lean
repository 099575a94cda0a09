import FormRules.Pattern.Token

/-!
# Expressions

The tree of a pattern, built from its tokens with the groups that are open on a stack.

* `Expr`: the tree.
* `Expr.width?`: the length of all matches, where they have one.
* `Expr.ofTokens`: the tree of a sequence of tokens.
* `Expr.read`: the tree of a pattern under some flags.
-/

namespace FormRules.Pattern

/-- The flags that a match depends on (`RegexFlags`). -/
structure Flags where
  ignoreCase : Bool := false
  multiLine : Bool := false
  dotAll : Bool := false
  deriving DecidableEq, Repr, Inhabited

/-- The tree of a pattern. -/
inductive Expr
  | empty
  /-- One character of a set. -/
  | one (set : CharSet) (ignoreCase : Bool)
  | edge (e : Edge)
  | seq (a b : Expr)
  | alt (a b : Expr)
  /-- A group whose match can be referred to. -/
  | group (index : Nat) (a : Expr)
  /-- The text that a group matched last. -/
  | again (index : Nat) (ignoreCase : Bool)
  | lookAhead (negated : Bool) (a : Expr)
  /-- A match that ends here and has one of the widths. -/
  | lookBehind (negated : Bool) (widths : List Nat) (a : Expr)
  /-- The first match of an expression, whatever follows. -/
  | atomic (a : Expr)
  | loop (least : Nat) (most : Option Nat) (lazy : Bool) (a : Expr)
  deriving Inhabited

namespace Expr

/-- The number of characters of all matches, none when matches differ or refer to others. -/
def width? : Expr → Option Nat
  | empty | edge _ | lookAhead .. | lookBehind .. => some 0
  | one .. => some 1
  | seq a b => do return (← a.width?) + (← b.width?)
  | alt a b => do
    let n ← a.width?
    if (← b.width?) = n then some n else none
  | group _ a | atomic a => a.width?
  | again .. => none
  | loop least most _ a => if most = some least then a.width?.map (least * ·) else none

/-- Whether a quantifier may stand behind an expression. -/
def isRepeatable : Expr → Bool
  | empty | edge _ | lookAhead .. | lookBehind .. => false
  | _ => true

/-- Leaves out the groups that nothing refers to. -/
def keepGroups (kept : List Nat) : Expr → Expr
  | group index a => if index ∈ kept then group index (a.keepGroups kept) else a.keepGroups kept
  | seq a b => seq (a.keepGroups kept) (b.keepGroups kept)
  | alt a b => alt (a.keepGroups kept) (b.keepGroups kept)
  | lookAhead negated a => lookAhead negated (a.keepGroups kept)
  | lookBehind negated widths a => lookBehind negated widths (a.keepGroups kept)
  | atomic a => atomic (a.keepGroups kept)
  | loop least most lazy a => loop least most lazy (a.keepGroups kept)
  | a => a

/-- Expressions one behind another. -/
def sequence (items : List Expr) : Expr :=
  match items with
  | [] => empty
  | [a] => a
  | a :: items => seq a (sequence items)

/-- A choice between expressions. -/
def choice (branches : List Expr) : Expr :=
  match branches with
  | [] => empty
  | [a] => a
  | a :: branches => alt a (choice branches)

end Expr

/-! ## Building -/

/-- The flags while a pattern is read. -/
structure Mode extends Flags where
  swapGreed : Bool := false

/-- Sets or clears a flag. -/
def Mode.change (value : Bool) (m : Mode) : Flag → Mode
  | .ignoreCase => { m with ignoreCase := value }
  | .multiLine => { m with multiLine := value }
  | .dotAll => { m with dotAll := value }
  | .swapGreed => { m with swapGreed := value }
  | .unicode => m

/-- A group that is open: what it is for, the flags in front of it, its finished alternatives and
the items of the current one, both with the newest first. -/
structure Level where
  kind : GroupKind := .plain
  index : Nat := 0
  outer : Mode := {}
  branches : List Expr := []
  items : List Expr := []

namespace Level

/-- Adds an item. -/
def add (a : Expr) (l : Level) : Level := { l with items := a :: l.items }

/-- The alternatives of a group, in order. -/
def alternatives (l : Level) : List Expr :=
  (Expr.sequence l.items.reverse :: l.branches).reverse

/-- Starts the next alternative. -/
def nextBranch (l : Level) : Level :=
  { l with branches := Expr.sequence l.items.reverse :: l.branches, items := [] }

/-- The expression of a group that closes. Alternatives that look behind may differ in width, but
each has to have one. -/
def close (l : Level) : Except Fault Expr :=
  let body := Expr.choice l.alternatives
  match l.kind with
  | .capture | .named _ => .ok (.group l.index body)
  | .lookAhead negated => .ok (.lookAhead negated body)
  | .lookBehind negated =>
    match l.alternatives.mapM Expr.width? with
    | some widths => .ok (.lookBehind negated widths.eraseDups body)
    | none => .error .variableLookBehind
  | .atomic => .ok (.atomic body)
  | .plain => .ok body

end Level

/-- What has been built so far. -/
structure Builder where
  mode : Mode
  inner : Level := {}
  outer : List Level := []
  groups : Nat := 0
  /-- The names of groups with their numbers, the newest first. -/
  names : List (String × Nat) := []
  /-- The groups that are referred to. -/
  references : List Nat := []
  /-- Whether some reference is by number. -/
  numbered : Bool := false

namespace Builder

/-- How deep groups may be nested. -/
def depthLimit : Nat := 63

/-- Adds an item to the innermost group. -/
def add (a : Expr) (b : Builder) : Builder := { b with inner := b.inner.add a }

/-- Repeats the newest item. -/
def repeatLast (c : Count) (b : Builder) : Except Fault Builder :=
  match b.inner.items with
  | [] => .error .nothingToRepeat
  | a :: items =>
    if !a.isRepeatable then .error .nothingToRepeat
    else if c.most.any (· < c.least) then .error .badCount
    else
      let loop := Expr.loop c.least c.most (c.lazy != b.mode.swapGreed) a
      let item := if c.possessive then Expr.atomic loop else loop
      .ok { b with inner := { b.inner with items := item :: items } }

/-- Opens a group. -/
def openGroup (kind : GroupKind) (b : Builder) : Except Fault Builder :=
  if depthLimit ≤ b.outer.length then .error .tooDeep
  else
    let opened (index : Nat) : Builder :=
      { b with inner := { kind, index, outer := b.mode }, outer := b.inner :: b.outer }
    let index := b.groups + 1
    match kind with
    | .capture => .ok { opened index with groups := index }
    | .named name => .ok { opened index with groups := index, names := (name, index) :: b.names }
    | _ => .ok (opened 0)

/-- Closes the innermost group. -/
def closeGroup (b : Builder) : Except Fault Builder :=
  match b.outer with
  | [] => .error .unopenedGroup
  | level :: outer => do
    let a ← b.inner.close
    return { b with mode := b.inner.outer, inner := level.add a, outer }

/-- Adds a reference to a group. -/
def refer (g : GroupName) (b : Builder) : Except Fault Builder :=
  let referring (index : Nat) (numbered : Bool) : Builder :=
    { b.add (.again index b.mode.ignoreCase) with
      references := index :: b.references, numbered := b.numbered || numbered }
  match g with
  | .number n => .ok (referring n true)
  | .name s =>
    match b.names.lookup s with
    | some n => .ok (referring n false)
    | none => .error .badReference

/-- Takes in one token. -/
def push (b : Builder) : Token → Except Fault Builder
  | .char c => .ok (b.add (.one (.one c) b.mode.ignoreCase))
  | .set a => .ok (b.add (.one a b.mode.ignoreCase))
  | .anyChar =>
    .ok (b.add (.one (.allBut (if b.mode.dotAll then .none else .range '\n' '\n')) false))
  | .caret => .ok (b.add (.edge (if b.mode.multiLine then .lineStart else .textStart)))
  | .dollar => .ok (b.add (.edge (if b.mode.multiLine then .lineEnd else .textEnd)))
  | .edge e => .ok (b.add (.edge e))
  | .nothing => .ok (b.add .empty)
  | .reference g => b.refer g
  | .count c => b.repeatLast c
  | .opening kind => b.openGroup kind
  | .closing => b.closeGroup
  | .bar => .ok { b with inner := b.inner.nextBranch }
  | .flags on off =>
    let mode := off.foldl (Mode.change false) (on.foldl (Mode.change true) b.mode)
    .ok ({ b with mode }.add .empty)

/-- The expression once all tokens are in. References by number do not go with named groups, and
every reference needs its group. -/
def finish (b : Builder) : Except Fault Expr :=
  if !b.outer.isEmpty then .error .unclosedGroup
  else if b.numbered && !b.names.isEmpty then .error .namedAndNumbered
  else if b.references.any fun n => n == 0 || b.groups < n then .error .badReference
  else do return (← b.inner.close).keepGroups b.references

end Builder

namespace Expr

/-- The tree of a sequence of tokens. -/
def ofTokens (flags : Flags) (tokens : List Token) : Except Fault Expr := do
  (← tokens.foldlM Builder.push { mode := { toFlags := flags } }).finish

/-- The tree of a pattern. -/
def read (flags : Flags) (pattern : String) : Except Fault Expr := do
  ofTokens flags (← Token.scan pattern)

end Expr

end FormRules.Pattern
