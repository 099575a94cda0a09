import FormRules.Rule
import FormRules.Validator

/-!
# Sessions

A session is one pass over one field (`Validator.validate`). Its rules are judged in order; the
first that fails decides, and one that is broken ends the session with an error and leaves the
display state as it was.

* `Registry.judge`: what rules make of a field.
* `Validator.rules?`: the rules that count in a mode.
* `Validator.validate`: the session.
-/

namespace FormRules

/-- What the rules of a field come to in `Validator.validate`. -/
inductive Ruling
  | passed
  | failed (failure : Failure)
  | broken (index : Nat) (operator : String) (error : Error)
  deriving DecidableEq, Repr, Inhabited

/-- A ruling, with the rules on the way to it whose operator has no handler. -/
structure Judgement where
  ruling : Ruling
  passedOver : List (Nat × String) := []
  deriving DecidableEq, Repr, Inhabited

/-- Judges a field by rules of which the first has a given place: the loop of `Validator.validate`,
with `dispatch` in it. Rules without a handler are passed over. -/
def Registry.judge {φ : Type} (r : Registry φ) (f : φ) (mode : Option Mode) :
    (index : Nat) → List Rule → Judgement
  | _, [] => ⟨.passed, []⟩
  | index, rule :: rules =>
    match r.handler? rule.operator with
    | none =>
      let rest := r.judge f mode (index + 1) rules
      { rest with passedOver := (index, rule.operator) :: rest.passedOver }
    | some handler =>
      let reply := handler f mode rule.args
      match reply.error? with
      | some e => ⟨.broken index rule.operator e, []⟩
      | none =>
        if reply.failed then ⟨.failed ⟨index, rule.operator, rule.args⟩, []⟩
        else r.judge f mode (index + 1) rules

namespace Validator

variable {φ : Type} [Field φ]

/-- The rule text of a field (`effective_rule_spec`): that of the mode when there is one that is not
empty, else the general one. A text of blanks counts; it holds no rules. -/
def rules? (v : Validator φ) (f : φ) (mode : Option Mode) : Option String :=
  (mode.bind fun m => filledAttribute? f (v.config.modeRuleAttribute m)) <|>
    filledAttribute? f v.config.ruleAttribute

/-- The text that observers get with a failure: the `message` of `record_failure`. -/
def errorText (v : Validator φ) (f : φ) : String :=
  (filledAttribute? f v.config.errorTextAttribute).getD v.config.defaultErrorText

/-- Ends a session with a failure (`record_failure`). Observers hear of it only when the field was
not invalid before. -/
def fail (v : Validator φ) (f : φ) (failure : Failure) : Validator φ × Report :=
  let k := Field.key f
  let notified := v.displayState k != .invalid
  let v := (v.display k .invalid).say (.invalid k failure.index failure.operator notified)
  (if notified then v.notify k failure (v.errorText f) else v, .failed failure notified)

/-- Ends a session without a failure (`record_success`). -/
def succeed (v : Validator φ) (f : φ) : Validator φ × Report :=
  let k := Field.key f
  (((v.display k .valid).say (.valid k)).tell (.valid k), .passed)

/-- Ends a session by its ruling, as `Validator.validate` does behind its loop. -/
def conclude (v : Validator φ) (f : φ) : Ruling → Validator φ × Except Error Report
  | .passed => let (v, report) := v.succeed f; (v, .ok report)
  | .failed failure => let (v, report) := v.fail f failure; (v, .ok report)
  | .broken index operator e => (v.say (.broken (Field.key f) index operator e), .error e)

/-- One session over a field (`Validator.validate`). -/
def validate (v : Validator φ) (f : φ) (mode : Option Mode) :
    Validator φ × Except Error Report :=
  let k := Field.key f
  if Field.isDisabled f then
    ((v.display k .neutral).say (.exempt k mode .disabled), .ok (.exempt .disabled))
  else match v.rules? f mode with
    | none => (v.say (.exempt k mode .noRules), .ok (.exempt .noRules))
    | some text =>
      let judgement := v.registry.judge f mode 0 (Rule.parse text)
      let v := judgement.passedOver.foldl
        (fun v (index, operator) => v.say (.unregistered k index operator)) v
      v.conclude f judgement.ruling

end Validator

end FormRules
