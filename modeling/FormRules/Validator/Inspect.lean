import FormRules.Validator

/-!
# Looking into a validator

One-line texts that show the state of a registry and of a validator, for logs.

* `Registry.inspect`, `Validator.inspect`.
-/

namespace FormRules

open Text (quoted)

/-- A record: its name, then its fields between braces. -/
def inspectRecord (name : String) (fields : List (String × String)) : String :=
  name ++ " \x7b " ++ ", ".intercalate (fields.map fun (label, value) => label ++ ": " ++ value) ++
    " \x7d"

/-- A list between brackets. -/
def inspectList (items : List String) : String := "[" ++ ", ".intercalate items ++ "]"

/-- A set, or the entries of a map, between braces. -/
def inspectSet (items : List String) : String := "\x7b" ++ ", ".intercalate items ++ "\x7d"

/-- The state of a registry, as `OperatorRegistry` is shown for debugging. -/
def Registry.inspect {φ : Type} (r : Registry φ) : String :=
  inspectRecord "OperatorRegistry" [("operators", inspectList (r.names.map quoted))]

/-- A format of numbers. -/
def NumberFormat.inspect : NumberFormat → String
  | allowExponent => "AllowExponent"
  | plain => "Plain"

/-- A display state. -/
def DisplayState.inspect : DisplayState → String
  | neutral => "Neutral"
  | valid => "Valid"
  | invalid => "Invalid"

/-- A configuration. -/
def Config.inspect (c : Config) : String :=
  inspectRecord "ValidatorConfig"
    [("rule_attribute", quoted c.ruleAttribute),
      ("error_text_attribute", quoted c.errorTextAttribute),
      ("opt_out_attribute", quoted c.optOutAttribute),
      ("submitter_opt_out_attribute", quoted c.submitterOptOutAttribute),
      ("default_error_text", quoted c.defaultErrorText),
      ("leave_directive", quoted c.leaveDirective),
      ("default_leave_warning", quoted c.defaultLeaveWarning),
      ("number_format", c.numberFormat.inspect),
      ("trace", inspectRecord "TraceConfig"
        [("enabled", toString c.trace.enabled), ("log_limit", toString c.trace.limit)])]

/-- The display states. -/
def DisplayStates.inspect (s : DisplayStates) : String :=
  inspectRecord "FieldStates"
    [("states", inspectSet (s.stored.entries.map fun (k, state) =>
      "FieldKey(" ++ quoted k.text ++ "): " ++ state.inspect))]

/-- The state of a validator, as `Validator` is shown for debugging. -/
def Validator.inspect {φ : Type} (v : Validator φ) : String :=
  inspectRecord "Validator"
    [("config", v.config.inspect),
      ("registry", v.registry.inspect),
      ("field_states", v.states.inspect),
      ("dirty_forms", inspectSet (v.dirty.map fun k => "FormKey(" ++ quoted k.text ++ ")")),
      ("observers", toString v.observers.length)]

end FormRules
