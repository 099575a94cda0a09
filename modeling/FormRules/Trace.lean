import FormRules.Config
import FormRules.Error
import FormRules.Field

/-!
# The trace

A validator says what it does in trace lines. While the trace is enabled the latest of them are
kept, up to a limit, until they are taken.

* `TraceLine`: the lines, with their texts in `TraceLine.text`.
* `Trace`: the kept lines, oldest first.
-/

namespace FormRules

/-- Why a field is not judged (`ExemptReason`). -/
inductive Exemption
  | disabled
  | noRules
  deriving DecidableEq, Repr, Inhabited

/-- The name of an exemption. -/
def Exemption.name : Exemption → String
  | disabled => "disabled"
  | noRules => "no-rules"

/-- The name of what set off a pass: the `mode_label` of `Validator.validate`. -/
def modeLabel (mode : Option Mode) : String := (mode.map Mode.name).getD "none"

/-- What a validator says about its work, by the calls of `TraceState.line`. -/
inductive TraceLine
  | exempt (field : FieldKey) (mode : Option Mode) (reason : Exemption)
  | unregistered (field : FieldKey) (index : Nat) (operator : String)
  | broken (field : FieldKey) (index : Nat) (operator : String) (error : Error)
  | invalid (field : FieldKey) (index : Nat) (operator : String) (notified : Bool)
  | valid (field : FieldKey)
  /-- An observer refused a notice, with this reason. -/
  | ignored (field : FieldKey) (refusal : String)
  | optedOut (form : FormKey) (controls : Nat)
  | aborted (form : FormKey)
  | proceed (form : FormKey)
  | cancel (form : FormKey) (count : Nat)
  | dirty (form : FormKey)
  deriving DecidableEq, Repr, Inhabited

/-- The text under which a refusal of an observer is reported (`NotifyError`). -/
def refusalText (reason : String) : String := "notification failed: " ++ reason

namespace TraceLine

/-- The beginning of a line about one rule of a field. -/
def rulePart (index : Nat) (operator : String) : String :=
  "rule=" ++ toString index ++ " operator=" ++ operator

/-- The text of a line, as it is passed to `TraceState.line`. -/
def text : TraceLine → String
  | exempt field mode reason =>
    "[validate] " ++ field.text ++ " mode=" ++ modeLabel mode ++ " exempt=" ++ reason.name
  | unregistered field index operator =>
    "[validate] " ++ field.text ++ " " ++ rulePart index operator ++ " unregistered"
  | broken field index operator error =>
    "[validate] " ++ field.text ++ " " ++ rulePart index operator ++ " error=" ++ error.message
  | invalid field index operator notified =>
    "[validate] " ++ field.text ++ " invalid " ++ rulePart index operator ++ " notified=" ++
      toString notified
  | valid field => "[validate] " ++ field.text ++ " valid"
  | ignored field refusal => "[notify] " ++ field.text ++ " ignored: " ++ refusalText refusal
  | optedOut form controls =>
    "[submit] " ++ form.text ++ " opted out controls=" ++ toString controls
  | aborted form => "[submit] " ++ form.text ++ " aborted: configuration error"
  | proceed form => "[submit] " ++ form.text ++ " proceed"
  | cancel form count => "[submit] " ++ form.text ++ " cancel invalid=" ++ toString count
  | dirty form => "[change] " ++ form.text ++ " dirty"

end TraceLine

/-- The lines that are kept (`TraceState`). -/
structure Trace where
  enabled : Bool
  limit : Nat
  lines : List TraceLine := []
  deriving DecidableEq, Repr, Inhabited

namespace Trace

/-- The trace of a configuration, still empty (`TraceState.from_config`). It keeps one line at
least. -/
def ofConfig (c : TraceConfig) : Trace := { enabled := c.enabled, limit := max c.limit 1 }

/-- Takes in a line (`TraceState.line`). A full trace lets go of its oldest line. -/
def add (line : TraceLine) (t : Trace) : Trace :=
  if !t.enabled then t
  else if t.limit ≤ t.lines.length then { t with lines := t.lines.drop 1 ++ [line] }
  else { t with lines := t.lines ++ [line] }

/-- Turns the trace on or off (`enable_trace`). Lines that are kept stay. -/
def enable (enabled : Bool) (t : Trace) : Trace := { t with enabled }

/-- Takes all lines out, oldest first (`TraceState.take`). -/
def take (t : Trace) : List TraceLine × Trace := (t.lines, { t with lines := [] })

end Trace

end FormRules
