import FormRules.PlainForm
import FormRules.Proofs.Operator.Builtin
import FormRules.Proofs.Session

/-!
# Empty values

An empty value is as good as any to a rule about the form of a value or about a comparison, whatever
its arguments. Of the built-in operators only `required` asks for a value. What an empty value does
not excuse is a comparison without a target, which is broken for every value.

* `Rule.lacksTarget`: the rule is a comparison without a target.
* `reply?_of_value_empty`, `reply?_of_lacksTarget`: what the handlers reply.
* `validate_of_value_empty`: how a session over a field with an empty value comes out.
-/

namespace FormRules

open Pattern (Engine)

/-- The rule is a comparison without an argument. -/
def Rule.lacksTarget (rule : Rule) : Bool :=
  (Relation.ofName? rule.operator).isSome && rule.args.isEmpty

theorem Relation.ofName?_name (relation : Relation) : ofName? relation.name = some relation := by
  cases relation <;> rfl

theorem Relation.name_of_ofName? {name : String} {relation : Relation}
    (h : ofName? name = some relation) : relation.name = name := by
  simpa using List.find?_some h

variable {φ : Type} [Field φ] {f : φ} {mode : Option Mode} {format : NumberFormat}
  {engine : Engine}

/-! ## Replies -/

/-- A comparison with an empty value holds. -/
theorem compareTexts_of_empty (relation : Relation) (target : String) :
    compareTexts relation "" target = true := rfl

theorem reply?_of_lacksTarget {rule : Rule} (h : rule.lacksTarget = true) :
    (builtins format engine).reply? f mode rule =
      some (.broken (.missingOperand rule.operator)) := by
  rw [Rule.lacksTarget, Bool.and_eq_true, Option.isSome_iff_exists, List.isEmpty_iff] at h
  obtain ⟨⟨relation, hrelation⟩, hargs⟩ := h
  have hname := Relation.name_of_ofName? hrelation
  rw [Registry.reply?, ← hname, hargs,
    Operator.handler?_of_isBuiltin (.compare relation)]
  rfl

/-- What a built-in operator other than `required` replies to an empty value. -/
theorem Operator.pass_of_value_empty (hempty : Field.value f = "") {name : String}
    {handler : Handler φ} (hb : IsBuiltin format engine name handler) (hname : name ≠ "required")
    {args : List String} (htarget : Rule.lacksTarget ⟨name, args⟩ = false) :
    handler f mode args = .pass := by
  cases hb with
  | required => exact absurd rfl hname
  | date => simp [Operator.date, hempty, Reply.require, Reply.pass]
  | number => simp [Operator.number, hempty, Reply.require, Reply.pass]
  | regexp => simp [Operator.regexp, hempty]
  | compare relation =>
    cases args with
    | nil =>
      rw [Rule.lacksTarget, Relation.ofName?_name] at htarget
      cases htarget
    | cons token args =>
      simp only [Operator.compare, hempty, compareTexts_of_empty]
      rfl

theorem reply?_of_value_empty (hempty : Field.value f = "") {rule : Rule}
    (hname : rule.operator ≠ "required") (htarget : rule.lacksTarget = false) {reply : Reply}
    (h : (builtins format engine).reply? f mode rule = some reply) : reply = .pass := by
  rw [Registry.reply?, Option.map_eq_some_iff] at h
  obtain ⟨handler, hhandler, rfl⟩ := h
  have hb := Operator.all_isBuiltin_builtins format engine _ _ hhandler
  exact Operator.pass_of_value_empty hempty hb hname htarget

/-! ## Sessions -/

section

variable {rules : List Rule}

/-- Rules that ask for no value pass an empty one, up to the first comparison without a target. -/
theorem undecidedBefore_of_value_empty (hempty : Field.value f = "")
    (hrules : ∀ rule ∈ rules, rule.operator ≠ "required") {n : Nat}
    (htarget : ∀ j < n, ∀ rule, rules[j]? = some rule → rule.lacksTarget = false) :
    (builtins format engine).UndecidedBefore f mode rules n := by
  intro j hj rule hrule reply hreply
  have hpass := reply?_of_value_empty hempty (hrules rule (List.mem_of_getElem? hrule))
    (htarget j hj rule hrule) hreply
  rw [hpass]
  decide

theorem exists_decidesAt_of_value_empty (hempty : Field.value f = "")
    (hrules : ∀ rule ∈ rules, rule.operator ≠ "required") {rule : Rule}
    (hfirst : rules.find? Rule.lacksTarget = some rule) :
    ∃ i, (builtins format engine).DecidesAt f mode rules i rule
      (.broken (.missingOperand rule.operator)) := by
  obtain ⟨hlacks, front, rest, rfl, hfront⟩ := List.find?_eq_some_iff_append.1 hfirst
  refine ⟨front.length, ?_, reply?_of_lacksTarget hlacks, .inr rfl, ?_⟩
  · simp
  · refine undecidedBefore_of_value_empty hempty hrules fun j hj rule' hrule' => ?_
    rw [List.getElem?_append_left hj] at hrule'
    simpa using hfront rule' (List.mem_of_getElem? hrule')

end

namespace Validator

variable {v : Validator φ} {text : String}

theorem passed_of_value_empty (hregistry : v.registry = builtins format engine)
    (henabled : Field.isDisabled f = false) (hempty : Field.value f = "")
    (hcounts : RuleText v.config f mode text)
    (hrules : ∀ rule ∈ Rule.parse text, rule.operator ≠ "required")
    (hnone : (Rule.parse text).find? Rule.lacksTarget = none) :
    (v.validate f mode).2 = .ok .passed ∧
      (v.validate f mode).1.displayState (Field.key f) = .valid := by
  rw [List.find?_eq_none] at hnone
  have hundecided : v.registry.UndecidedBefore f mode (Rule.parse text)
      (Rule.parse text).length := by
    rw [hregistry]
    refine undecidedBefore_of_value_empty hempty hrules fun j _ rule hrule => ?_
    exact Bool.eq_false_iff.2 (hnone rule (List.mem_of_getElem? hrule))
  obtain ⟨hresult, hsettled⟩ := session_validate (.passed henabled hcounts hundecided)
  exact ⟨hresult, by rw [hsettled.displayState, if_pos rfl]⟩

theorem broken_of_value_empty (hregistry : v.registry = builtins format engine)
    (henabled : Field.isDisabled f = false) (hempty : Field.value f = "")
    (hcounts : RuleText v.config f mode text)
    (hrules : ∀ rule ∈ Rule.parse text, rule.operator ≠ "required") {rule : Rule}
    (hfirst : (Rule.parse text).find? Rule.lacksTarget = some rule) :
    (v.validate f mode).2 = .error (.missingOperand rule.operator) ∧
      (v.validate f mode).1.displayState (Field.key f) = v.displayState (Field.key f) := by
  have hdecides : ∃ i, v.registry.DecidesAt f mode (Rule.parse text) i rule
      (.broken (.missingOperand rule.operator)) := by
    rw [hregistry]
    exact exists_decidesAt_of_value_empty hempty hrules hfirst
  obtain ⟨i, hdecides⟩ := hdecides
  obtain ⟨hresult, hsettled⟩ := session_validate (.broken henabled hcounts hdecides rfl)
  exact ⟨hresult, by rw [hsettled.displayState, if_pos rfl]⟩

/-- **Empty values.** Let the built-in operators judge an enabled field with an empty value by rules
of which none is `required`. The field passes and displays so, unless some comparison has no target;
then the first of these is the error. So the field never fails. -/
theorem validate_of_value_empty (hregistry : v.registry = builtins format engine)
    (henabled : Field.isDisabled f = false) (hempty : Field.value f = "")
    (hcounts : RuleText v.config f mode text)
    (hrules : ∀ rule ∈ Rule.parse text, rule.operator ≠ "required") :
    ((Rule.parse text).find? Rule.lacksTarget = none →
      (v.validate f mode).2 = .ok .passed ∧
        (v.validate f mode).1.displayState (Field.key f) = .valid) ∧
    (∀ rule, (Rule.parse text).find? Rule.lacksTarget = some rule →
      (v.validate f mode).2 = .error (.missingOperand rule.operator) ∧
        (v.validate f mode).1.displayState (Field.key f) = v.displayState (Field.key f)) ∧
    ∀ failure notified, (v.validate f mode).2 ≠ .ok (.failed failure notified) := by
  have hpassed := passed_of_value_empty hregistry henabled hempty hcounts hrules
  have hbroken (rule : Rule) (hfirst : (Rule.parse text).find? Rule.lacksTarget = some rule) :=
    broken_of_value_empty hregistry henabled hempty hcounts hrules hfirst
  refine ⟨hpassed, hbroken, fun failure notified hfailed => ?_⟩
  cases hfirst : (Rule.parse text).find? Rule.lacksTarget with
  | none =>
    rw [(hpassed hfirst).1] at hfailed
    cases hfailed
  | some rule =>
    rw [(hbroken rule hfirst).1] at hfailed
    cases hfailed

end Validator

/-! ## An optional field -/

/-- A field with a blank value, under a rule of every kind but `required`. -/
def blankControl : PlainControl where
  form := { id := "f" }
  field :=
    { id := "a", value := " \t"
      attributes :=
        .ofList [("data-validate", "date number:integer regexp:q:( lt:#gone eq gt")] }

/-- Neither the modifiers and the pattern, which are both wrong, nor the missing field matter, but
the first comparison without a target does. -/
theorem validate_blankControl :
    ((Validator.ofConfig {}).validate blankControl none).2 = .error (.missingOperand "eq") ∧
      ((Validator.ofConfig {}).validate blankControl none).1.displayState (Field.key blankControl) =
        .neutral := by
  have hcounts : RuleText ({} : Config) blankControl none
      "date number:integer regexp:q:( lt:#gone eq gt" :=
    .general (fun m hm => nomatch hm) rfl (by decide)
  have hregistry : (Validator.ofConfig (φ := PlainControl) {}).registry =
      builtins .allowExponent .standard := rfl
  obtain ⟨-, hbroken, -⟩ := Validator.validate_of_value_empty
    hregistry rfl (by decide) hcounts (by decide)
  exact hbroken ⟨"eq", []⟩ (by decide)

end FormRules
