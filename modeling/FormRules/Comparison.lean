import FormRules.Numeral
import FormRules.Text.Units

/-!
# Comparison of a value with a target

Two texts are compared as numbers when both stand for one. When only the target does, the length
of the value is compared with it; otherwise the texts are compared by their 16-bit units. An empty
value is not compared at all: presence is not a matter of comparison.

* `Relation`: the six relations and their names.
* `Comparison.coerce`: how a value and a target are compared.
* `Comparison.holds`, `compareTexts`: whether a relation holds.
-/

namespace FormRules

/-- The relations that a comparison rule can ask for (`CompareOperator`). -/
inductive Relation
  | eq | neq | lt | lte | gt | gte
  deriving DecidableEq, Repr, Inhabited

namespace Relation

/-- The relations in the order of their declaration (`CompareOperator.ALL`). -/
def all : List Relation := [eq, neq, lt, lte, gt, gte]

/-- The name of a relation in a rule text (`CompareOperator.as_str`). -/
def name : Relation → String
  | eq => "eq"
  | neq => "neq"
  | lt => "lt"
  | lte => "lte"
  | gt => "gt"
  | gte => "gte"

/-- The relation of that name (`from_name`). -/
def ofName? (name : String) : Option Relation := all.find? (·.name == name)

/-- Whether two sides in that order stand in the relation (`accepts`, which takes no relation to
hold where there is no order). -/
def admits : Relation → Ordering → Bool
  | eq, o => o == .eq
  | neq, o => o != .eq
  | lt, o => o == .lt
  | lte, o => o != .gt
  | gt, o => o == .gt
  | gte, o => o != .lt

end Relation

/-- The two sides of a comparison, once it is settled what they are compared as (`Comparison`). -/
inductive Comparison
  /-- The value is empty: every relation holds. -/
  | skipped
  | numeric (current target : Binary64)
  /-- The value is text and the target a number: the length is compared. -/
  | length (length : Nat) (target : Binary64)
  | text (current target : String)
  deriving DecidableEq, Repr

namespace Comparison

/-- Settles what a value and a target are compared as (`Comparison.coerce`). -/
def coerce (current target : String) : Comparison :=
  if current.isEmpty then skipped
  else
    let currentNumber := Numeral.ofText current
    let targetNumber := Numeral.ofText target
    if targetNumber.isNaN then text current target
    else if currentNumber.isNaN then length current.length targetNumber
    else numeric currentNumber targetNumber

/-- The order of the two sides, none when there is nothing to order: the `ordering` of
`Comparison.holds`. -/
def ordering? : Comparison → Option Ordering
  | skipped => none
  | numeric current target => current.compare? target
  | length n target => (Binary64.ofNat n).compare? target
  | text current target => some (Text.compareText current target)

/-- Whether the two sides stand in a relation (`Comparison.holds`). -/
def holds (relation : Relation) : Comparison → Bool
  | skipped => true
  | c => c.ordering?.any relation.admits

end Comparison

/-- Whether a value, blanks around it aside, stands in a relation to a target (`compare_values`). -/
def compareTexts (relation : Relation) (current target : String) : Bool :=
  (Comparison.coerce (Text.trim current) target).holds relation

end FormRules
