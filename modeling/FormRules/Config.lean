import FormRules.NumberText

/-!
# Configuration

Names of attributes, default messages and policies of a validator.
-/

namespace FormRules

/-- Whether trace lines are kept, and how many (`TraceConfig`). -/
structure TraceConfig where
  enabled : Bool := false
  limit : Nat := 10000
  deriving DecidableEq, Repr, Inhabited

/-- The configuration of a validator (`ValidatorConfig`), with its defaults. -/
structure Config where
  /-- The attribute with the rules of a field. -/
  ruleAttribute : String := "data-validate"
  errorTextAttribute : String := "data-validate-error-text"
  /-- The attribute of a form that turns validation off. -/
  optOutAttribute : String := "novalidate"
  /-- The attribute of a submit control that turns validation off for that submission. -/
  submitterOptOutAttribute : String := "formnovalidate"
  defaultErrorText : String := "Value is invalid."
  /-- The word in the rules of a form that asks for a warning on leaving. -/
  leaveDirective : String := "submitted"
  defaultLeaveWarning : String :=
    "Any data changed in the forms may be lost if it was not submitted."
  numberFormat : NumberFormat := .allowExponent
  trace : TraceConfig := {}
  deriving DecidableEq, Repr, Inhabited

/-- What sets off a pass (`ValidationMode`). -/
inductive Mode
  | change
  | submit
  deriving DecidableEq, Repr, Inhabited

/-- The name of a mode (`ValidationMode.as_str`). -/
def Mode.name : Mode → String
  | change => "change"
  | submit => "submit"

namespace Config

/-- The attribute with the rules of one mode (`mode_rule_attribute`). -/
def modeRuleAttribute (c : Config) (mode : Mode) : String := c.ruleAttribute ++ "-" ++ mode.name

/-- Keeps so many trace lines, but at least one (`with_trace_log_limit`). -/
def withTraceLimit (limit : Nat) (c : Config) : Config :=
  { c with trace := { c.trace with limit := max limit 1 } }

end Config

end FormRules
