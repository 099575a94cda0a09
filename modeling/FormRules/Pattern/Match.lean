import FormRules.Pattern.Expr
import Std.Data.HashSet

/-!
# Matching

A match is followed as a set of spots, which are positions in the text together with the groups
matched so far. An expression leads from one spot to the spots behind its matches, in the order in
which backtracking would try them. Each spot is followed once, so nested repetitions do not
multiply the work.

* `Expr.spots`: the spots behind the matches of an expression.
* `Expr.test`: whether an expression matches somewhere in a text.
-/

namespace FormRules.Pattern

/-- A position in a text, and the bounds of the groups matched so far. -/
structure Spot where
  position : Nat
  captures : List (Nat × Nat × Nat)
  deriving BEq, Hashable, Repr, Inhabited

namespace Spot

/-- Remembers the text of a group that ends at a spot. -/
def capture (index start : Nat) (s : Spot) : Spot :=
  { s with captures := (index, start, s.position) :: s.captures.filter (·.1 != index) }

/-- The bounds of a group. -/
def capture? (index : Nat) (s : Spot) : Option (Nat × Nat) := s.captures.lookup index

/-- Leaves out the spots that came before. -/
def distinct : List Spot → List Spot
  | [] => []
  | [s] => [s]
  | spots =>
    let start : Std.HashSet Spot × List Spot := (∅, [])
    let (_, kept) := spots.foldl (fun (seen, kept) s =>
      if seen.contains s then (seen, kept) else (seen.insert s, s :: kept)) start
    kept.reverse

end Spot

/-! ## Edges and references -/

/-- Whether a character of a word stands at a position. -/
def wordAt (text : Array Char) (i : Nat) : Bool :=
  text[i]?.any fun c => Unicode.isWordChar c.toNat

/-- Whether a character of a word stands in front of a position. -/
def wordBefore (text : Array Char) (i : Nat) : Bool := i != 0 && wordAt text (i - 1)

/-- Whether a position is an edge of a kind. -/
def Edge.holds (text : Array Char) (i : Nat) : Edge → Bool
  | textStart => i == 0
  | textEnd => i == text.size
  | textEndBeforeFeeds => (text.toList.drop i).all (· == '\n')
  | lineStart => i == 0 || text[i - 1]? == some '\n'
  | lineEnd => i == text.size || text[i]? == some '\n'
  | wordBoundary => wordBefore text i != wordAt text i
  | noWordBoundary => wordBefore text i == wordAt text i
  | wordStart => !wordBefore text i && wordAt text i
  | wordEnd => wordBefore text i && !wordAt text i
  | wordStartHalf => !wordBefore text i
  | wordEndHalf => !wordAt text i

/-- The size of some characters in bytes. -/
def byteSize (s : List Char) : Nat := s.foldl (fun n c => n + c.utf8Size) 0

/-- The shortest beginning of a text with at least so many bytes. -/
def takeBytes : Nat → List Char → List Char
  | _, [] => []
  | bytes, c :: s => if bytes = 0 then [] else c :: takeBytes (bytes - c.utf8Size) s

/-- Whether two texts differ in case only. -/
def sameUpToCase (a b : List Char) : Bool :=
  a.length == b.length && (a.zip b).all fun (x, y) => Unicode.fold x.toNat == Unicode.fold y.toNat

/-- The length of the text at a position that repeats an earlier one. Where case is ignored, the
two have the same number of bytes. -/
def repeated? (ignoreCase : Bool) (earlier here : List Char) : Option Nat :=
  if earlier.isPrefixOf here then some earlier.length
  else if !ignoreCase then none
  else
    let taken := takeBytes (byteSize earlier) here
    if byteSize taken = byteSize earlier ∧ sameUpToCase earlier taken then some taken.length
    else none

/-! ## Repetition -/

/-- What a repetition has met: the rounds left and spots already followed, and the spots where it
can end, the latest first. -/
structure Walk where
  seen : Std.HashSet (Nat × Spot) := ∅
  found : List Spot := []

/-- Follows a repetition for some further rounds. An eager one tries another round before it ends,
a lazy one after. A round that does not move is the last one. Without a bound the rounds left do
not matter, and a spot is followed once. -/
def Walk.follow (next : Spot → List Spot) (lazy bounded : Bool) : Nat → Spot → Walk → Walk
  | 0, s, w => { w with found := s :: w.found }
  | rounds + 1, s, w =>
    let key := (if bounded then rounds else 0, s)
    if w.seen.contains key then w
    else
      let w := { w with seen := w.seen.insert key }
      let w := if lazy then { w with found := s :: w.found } else w
      let w := (next s).foldl (fun w t =>
        if s.position < t.position then w.follow next lazy bounded rounds t
        else { w with found := t :: w.found }) w
      if lazy then w else { w with found := s :: w.found }

/-- The spots behind so many rounds. -/
def afterRounds (next : Spot → List Spot) : Nat → List Spot → List Spot
  | 0, spots => spots
  | rounds + 1, spots =>
    match spots with
    | [] => []
    | spots => afterRounds next rounds (Spot.distinct (spots.flatMap next))

/-- The spots behind a repetition. Without a bound, the characters left bound the rounds. -/
def repeatSpots (size : Nat) (next : Spot → List Spot) (least : Nat) (most : Option Nat)
    (lazy : Bool) (s : Spot) : List Spot :=
  let starts := afterRounds next least [s]
  let bounded := most.isSome
  let w := starts.foldl (fun w s =>
    w.follow next lazy bounded ((most.map (· - least)).getD (size - s.position + 1)) s)
    ({} : Walk)
  Spot.distinct w.found.reverse

/-! ## Expressions -/

namespace Expr

/-- The spots behind the matches of an expression at a spot. -/
def spots (text : Array Char) : Expr → Spot → List Spot
  | empty, s => [s]
  | one set ignoreCase, s =>
    match text[s.position]? with
    | some c => if set.mem ignoreCase c.toNat then [{ s with position := s.position + 1 }] else []
    | none => []
  | edge e, s => if e.holds text s.position then [s] else []
  | seq a b, s => Spot.distinct ((a.spots text s).flatMap (b.spots text))
  | alt a b, s => Spot.distinct (a.spots text s ++ b.spots text s)
  | group index a, s => (a.spots text s).map (Spot.capture index s.position)
  | again index ignoreCase, s =>
    match s.capture? index with
    | none => []
    | some (start, stop) =>
      let earlier := (text.toList.drop start).take (stop - start)
      match repeated? ignoreCase earlier (text.toList.drop s.position) with
      | some n => [{ s with position := s.position + n }]
      | none => []
  | lookAhead negated a, s => glance negated s (a.spots text s)
  | lookBehind negated widths a, s =>
    glance negated s <| widths.flatMap fun n =>
      if n ≤ s.position then
        (a.spots text { s with position := s.position - n }).filter (·.position == s.position)
      else []
  | atomic a, s => (a.spots text s).take 1
  | loop least most lazy a, s => repeatSpots text.size (a.spots text) least most lazy s
where
  /-- Stays at a spot if there is a match, and keeps the groups of the first one; with a negation,
  stays if there is none. -/
  glance (negated : Bool) (s : Spot) : List Spot → List Spot
    | [] => if negated then [s] else []
    | t :: _ => if negated then [] else [{ t with position := s.position }]

/-- Whether an expression matches somewhere in a text. -/
def test (a : Expr) (text : String) : Bool :=
  let text := text.toList.toArray
  (List.range (text.size + 1)).any fun i => !(a.spots text ⟨i, []⟩).isEmpty

end Expr

end FormRules.Pattern
