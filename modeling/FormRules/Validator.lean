import FormRules.DisplayState
import FormRules.Operator.Builtin
import FormRules.Trace

/-!
# Validators

A validator holds everything that lasts from pass to pass: the operators, the display states of
fields, the forms that changed, the observers and the trace. What it tells the outside is written
into a journal.

* `Failure`, `Report`: how a pass over one field comes out.
* `Notice`, `Observer`, `Effect`: what observers hear, and what else shows outside.
* `Validator`: the state, with its small changes.
-/

namespace FormRules

/-- The rule that failed a pass (`ValidationOutcome`). -/
structure Failure where
  /-- The place of the rule among the rules of the field, counted from zero. -/
  index : Nat
  operator : String
  args : List String
  deriving DecidableEq, Repr, Inhabited

/-- How a pass over a field came out (`SessionReport`, whose `outcome` and `notified` follow from
its verdict). A failure says whether observers were told of it. -/
inductive Report
  | passed
  | failed (failure : Failure) (notified : Bool)
  | exempt (reason : Exemption)
  deriving DecidableEq, Repr, Inhabited

namespace Report

/-- Whether observers were told of the pass (`SessionReport.notified`). -/
def notified : Report → Bool
  | passed => true
  | failed _ notified => notified
  | exempt _ => false

/-- The rule that failed the pass (`SessionReport.outcome`). -/
def failure? : Report → Option Failure
  | failed failure _ => some failure
  | _ => none

/-- Whether the pass did not fail (`SessionReport.is_valid`). -/
def isValid (r : Report) : Bool := r.failure?.isNone

end Report

/-! ## Observers -/

/-- What observers hear at the end of a pass (`on_valid`, `on_invalid`). -/
inductive Notice
  | valid (field : FieldKey)
  | invalid (field : FieldKey) (failure : Failure) (message : String)
  deriving DecidableEq, Repr, Inhabited

/-- An observer answers a notice of a failure with nothing or with the reason for a refusal
(`ValidationObserver`). It may answer by all that it heard, the present notice last. -/
structure Observer where
  refusal? : List Notice → Option String

/-- What shows outside: a trace line, a notice to one observer, or a refusal that was ignored. -/
inductive Effect
  | traced (line : TraceLine)
  | told (observer : Nat) (notice : Notice)
  | warned (field : FieldKey) (refusal : String)
  deriving DecidableEq, Repr, Inhabited

/-- What one observer heard. -/
def heardBy (observer : Nat) (journal : List Effect) : List Notice :=
  journal.filterMap fun
    | .told i notice => if i = observer then some notice else none
    | _ => none

/-! ## State -/

/-- A validator of fields of one host (`Validator`), with the journal of what showed outside. -/
structure Validator (φ : Type) where
  config : Config
  registry : Registry φ
  states : DisplayStates := {}
  /-- The forms that changed, each once. -/
  dirty : List FormKey := []
  observers : List Observer := []
  trace : Trace
  /-- All effects, oldest first. -/
  journal : List Effect := []

namespace Validator

variable {φ : Type}

/-- The validator of a configuration, with the built-in operators (`Validator.with_config`). -/
def ofConfig [Field φ] (config : Config) (engine : Pattern.Engine := .standard) : Validator φ where
  config
  registry := builtins config.numberFormat engine
  trace := .ofConfig config.trace

/-- The display state of a field (`Validator.display_state`). -/
def displayState (v : Validator φ) (k : FieldKey) : DisplayState := v.states.get k

/-- Whether a form changed since it was last submitted or marked clean (`Validator.is_dirty`). -/
def isDirty (v : Validator φ) (k : FormKey) : Bool := decide (k ∈ v.dirty)

/-! ## Changes -/

/-- Writes an effect into the journal. -/
def record (e : Effect) (v : Validator φ) : Validator φ := { v with journal := v.journal ++ [e] }

/-- Says a trace line (`TraceState.line`). It shows outside even when the trace does not keep it. -/
def say (line : TraceLine) (v : Validator φ) : Validator φ :=
  { v.record (.traced line) with trace := v.trace.add line }

/-- Changes the display state of a field. -/
def display (k : FieldKey) (state : DisplayState) (v : Validator φ) : Validator φ :=
  { v with states := v.states.set k state }

/-- Marks a form as changed, as `Validator.change` does. -/
def markDirty (k : FormKey) (v : Validator φ) : Validator φ := { v with dirty := v.dirty.insert k }

/-- Marks a form as not changed (`Validator.mark_clean`). -/
def markClean (k : FormKey) (v : Validator φ) : Validator φ :=
  { v with dirty := v.dirty.filter (· ≠ k) }

/-- Gives an operator a handler (`Validator.register_operator`). -/
def register (name : String) (handler : Handler φ) (v : Validator φ) : Validator φ :=
  { v with registry := v.registry.register name handler }

/-- Takes the handler of an operator away (`Validator.unregister_operator`). -/
def unregister (name : String) (v : Validator φ) : Validator φ :=
  { v with registry := v.registry.unregister name }

/-- Adds an observer behind the others (`Validator.add_observer`). -/
def addObserver (o : Observer) (v : Validator φ) : Validator φ :=
  { v with observers := v.observers ++ [o] }

/-- Turns the trace on or off (`Validator.enable_trace`). -/
def enableTrace (enabled : Bool) (v : Validator φ) : Validator φ :=
  { v with trace := v.trace.enable enabled }

/-- Takes the kept trace lines out (`Validator.take_trace_logs`). -/
def takeTrace (v : Validator φ) : List TraceLine × Validator φ :=
  (v.trace.take.1, { v with trace := v.trace.take.2 })

/-! ## Notices -/

/-- Tells every observer, in the order in which they were added. -/
def tell (notice : Notice) (v : Validator φ) : Validator φ :=
  { v with
    journal := v.journal ++ (List.range v.observers.length).map fun i => .told i notice }

/-- The reasons of the observers that refuse a notice, in their order. -/
def refusals (notice : Notice) (v : Validator φ) : List String :=
  v.observers.zipIdx.filterMap fun (o, i) => o.refusal? (heardBy i v.journal ++ [notice])

/-- Reports a refusal and goes on, as `record_failure` does behind the calls of the observers. -/
def ignore (k : FieldKey) (refusal : String) (v : Validator φ) : Validator φ :=
  (v.record (.warned k refusal)).say (.ignored k refusal)

/-- Tells every observer of a failure, then reports the refusals: the part of `record_failure` that
is left out when the field was invalid before. -/
def notify (k : FieldKey) (failure : Failure) (message : String) (v : Validator φ) : Validator φ :=
  let notice := Notice.invalid k failure message
  (v.refusals notice).foldl (fun v refusal => v.ignore k refusal) (v.tell notice)

end Validator

end FormRules
