import FormRules.Dict
import FormRules.Field

/-!
# Display states

What a field last displayed. A field that was never judged, or was cleared, is neutral, and neutral
states are not stored.

* `DisplayState`: neutral, valid or invalid.
* `DisplayStates`: the states of fields by their keys.
* `get_set`: a change of one key leaves the others alone.
-/

namespace FormRules

/-- What a field displays (`FieldDisplayState`). -/
inductive DisplayState
  | neutral | valid | invalid
  deriving DecidableEq, Repr, Inhabited

/-- The name of a state (`FieldDisplayState.as_str`). -/
def DisplayState.name : DisplayState → String
  | neutral => "neutral"
  | valid => "valid"
  | invalid => "invalid"

/-- The states of fields (`FieldStates`). -/
structure DisplayStates where
  stored : Dict FieldKey DisplayState := ∅
  deriving DecidableEq, Repr, Inhabited

namespace DisplayStates

/-- The state of a field (`FieldStates.get`). -/
def get (k : FieldKey) (s : DisplayStates) : DisplayState := (s.stored.get? k).getD .neutral

/-- Changes the state of a field (`FieldStates.set`). The neutral state is kept by not storing it,
which is `FieldStates.clear`. -/
def set (k : FieldKey) (state : DisplayState) (s : DisplayStates) : DisplayStates :=
  match state with
  | .neutral => ⟨s.stored.erase k⟩
  | state => ⟨s.stored.insert k state⟩

/-- The number of stored states (`FieldStates.len`). -/
def size (s : DisplayStates) : Nat := s.stored.size

/-- Whether no state is stored (`FieldStates.is_empty`). -/
def isEmpty (s : DisplayStates) : Bool := s.stored.entries.isEmpty

/-- The keys of the invalid fields in ascending order of their texts (`invalid_keys`). -/
def invalidKeys (s : DisplayStates) : List FieldKey :=
  ((s.stored.entries.filter (·.2 = .invalid)).map Prod.fst).mergeSort
    fun a b => decide (a.text ≤ b.text)

theorem get_set (k k' : FieldKey) (state : DisplayState) (s : DisplayStates) :
    (s.set k state).get k' = if k' = k then state else s.get k' := by
  cases state <;> simp only [set, get, Dict.get?_erase, Dict.get?_insert] <;> split <;> rfl

end DisplayStates

end FormRules
