import FormRules.Calendar
import FormRules.Comparison
import FormRules.Operator
import FormRules.Pattern

/-!
# Built-in operators

* `required`: a value that is there and is not the placeholder, of the field or of another one.
* `date`, `number`, `regexp`: the form of a value; an empty value has every form.
* `eq`, `neq`, `lt`, `lte`, `gt`, `gte`: comparisons with a literal or with another field.

`builtins` is the registry of these, for any format of numbers and any engine for patterns.
-/

namespace FormRules

open Pattern (Engine Flags)

/-! ## Modifiers -/

/-- Takes in one modifier, as a turn of the loop of `RegexFlags.parse` does; `seen` are those in
front of it. The last three change nothing when a text is tested once. -/
def readModifier (seen : List Char) (flags : Flags) (c : Char) : Except ModifierFault Flags :=
  if c ∈ seen then .error (.repeated c)
  else match c with
    | 'i' => .ok { flags with ignoreCase := true }
    | 'm' => .ok { flags with multiLine := true }
    | 's' => .ok { flags with dotAll := true }
    | 'g' | 'y' | 'u' => .ok flags
    | c => .error (.unknown c)

/-- Takes in the modifiers one by one, up to the first at fault: the loop of `RegexFlags.parse`. -/
def readModifiersFrom (seen : List Char) (flags : Flags) : List Char → Except ModifierFault Flags
  | [] => .ok flags
  | c :: rest =>
    match readModifier seen flags c with
    | .error fault => .error fault
    | .ok flags => readModifiersFrom (c :: seen) flags rest

/-- The flags that modifiers stand for (`RegexFlags.parse`). -/
def readModifiers (modifiers : String) : Except ModifierFault Flags :=
  readModifiersFrom [] {} modifiers.toList

namespace Operator

variable {φ : Type} [Field φ]

/-! ## Handlers -/

/-- The value, or that of the field which the first argument refers to, is there and is not the
placeholder (`RequiredOperator`). -/
def required : Handler φ := fun f _ args =>
  let value := Field.resolve f (args.head?.filter (!·.isEmpty))
  .require (!value.isEmpty && !value.matchesPlaceholder)

/-- The value is empty or names a day (`DateOperator`). -/
def date : Handler φ := fun f _ _ =>
  let value := Field.value f
  .require (value.isEmpty || Calendar.isDateText value)

/-- The value is empty or spelled as a number, with the argument `integer` as a whole one
(`NumberOperator`). -/
def number (format : NumberFormat) : Handler φ := fun f _ args =>
  let value := Field.value f
  .require (value.isEmpty || isNumberText value format (args.head? == some "integer"))

/-- The value or the pattern is empty, or the pattern matches in the value (`RegexpOperator`). -/
def regexp (engine : Engine) : Handler φ := fun f _ args =>
  let modifiers := (args[0]?).getD ""
  let pattern := (args[1]?).getD ""
  let value := Field.value f
  if value.isEmpty || pattern.isEmpty then .pass
  else match readModifiers modifiers with
    | .error fault => .broken (.invalidModifiers modifiers fault)
    | .ok flags =>
      match engine pattern flags with
      | .error reason => .broken (.invalidPattern pattern reason)
      | .ok test =>
        match test value with
        | .error reason => .broken (.invalidPattern pattern reason)
        | .ok isMatch => .require isMatch

/-- The value is empty or stands in a relation to the target that the first argument gives
(`CompareHandler`). -/
def compare (relation : Relation) : Handler φ := fun f _ args =>
  match args with
  | [] => .broken (.missingOperand relation.name)
  | token :: _ => .require (compareTexts relation (Field.value f) (Field.operand f token))

end Operator

/-! ## The registry -/

/-- The names of the built-in operators, in the order of their declaration
(`builtin_operator_names`). -/
def builtinNames : List String :=
  ["required", "date", "number", "regexp"] ++ Relation.all.map Relation.name

/-- The built-in operators (`OperatorRegistry.with_builtins`). -/
def builtins {φ : Type} [Field φ] (format : NumberFormat) (engine : Engine) : Registry φ :=
  let forms := Registry.empty
    |>.register "required" Operator.required
    |>.register "date" Operator.date
    |>.register "number" (Operator.number format)
    |>.register "regexp" (Operator.regexp engine)
  Relation.all.foldl (fun r relation => r.register relation.name (Operator.compare relation)) forms

end FormRules
