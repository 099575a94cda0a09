import FormRules.Config
import FormRules.Dict
import FormRules.Error
import FormRules.Field

/-!
# Operators

A rule names an operator, and a handler judges fields for it. A handler can only fail a pass or
find the rule itself broken; it cannot undo what another handler did.

* `Reply`: what a handler leaves of a pass.
* `Handler`: a function of field, mode and arguments.
* `Registry`: handlers by the names of operators.
-/

namespace FormRules

/-- What a handler leaves of a pass that was good so far: the `ValidationState` that it was handed,
and the error that `OperatorHandler.evaluate` returns. A handler can only fail the state. -/
structure Reply where
  /-- Whether the handler failed the pass. -/
  failed : Bool := false
  /-- What is wrong with the rule, if something is. -/
  error? : Option Error := none
  deriving DecidableEq, Repr, Inhabited

namespace Reply

/-- The pass stays good. -/
def pass : Reply := {}

/-- The pass fails (`ValidationState.fail`). -/
def fail : Reply := { failed := true }

/-- The pass fails unless a condition holds (`ValidationState.require`). -/
def require (condition : Bool) : Reply := { failed := !condition }

/-- The rule is broken. -/
def broken (e : Error) : Reply := { error? := some e }

/-- One reply and, unless it found the rule broken, another. -/
def andThen (a b : Reply) : Reply :=
  match a.error? with
  | some _ => a
  | none => { b with failed := a.failed || b.failed }

end Reply

/-- A handler judges a field for an operator (`OperatorHandler.evaluate`). -/
abbrev Handler (φ : Type) := φ → Option Mode → List String → Reply

/-- The handlers of operators (`OperatorRegistry`). -/
structure Registry (φ : Type) where
  handlers : Dict String (Handler φ)

namespace Registry

variable {φ : Type}

/-- The registry without handlers (`OperatorRegistry.new`). -/
def empty : Registry φ := ⟨∅⟩

/-- The handler of an operator (`OperatorRegistry.get`). -/
def handler? (r : Registry φ) (name : String) : Option (Handler φ) := r.handlers.get? name

/-- Whether an operator has a handler (`OperatorRegistry.contains`). -/
def contains (r : Registry φ) (name : String) : Bool := (r.handler? name).isSome

/-- Gives an operator a handler, in place of any it had (`OperatorRegistry.register`). -/
def register (name : String) (handler : Handler φ) (r : Registry φ) : Registry φ :=
  ⟨r.handlers.insert name handler⟩

/-- Takes the handler of an operator away (`OperatorRegistry.unregister`). -/
def unregister (name : String) (r : Registry φ) : Registry φ := ⟨r.handlers.erase name⟩

/-- The names of the operators in ascending order (`OperatorRegistry.names`). -/
def names (r : Registry φ) : List String := r.handlers.keys.mergeSort (fun a b => decide (a ≤ b))

end Registry

end FormRules
