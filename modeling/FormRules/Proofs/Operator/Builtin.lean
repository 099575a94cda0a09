import FormRules.Operator.Builtin

/-!
# What built-in operators reply

The registry of built-in operators is a chain of insertions. Seen from outside it is a relation
between names and handlers, and what holds of all built-in operators is shown by its cases.

* `Registry.All`: what holds of every handler of a registry.
* `Operator.IsBuiltin`: the names and their handlers. `all_isBuiltin_builtins`: the registry of
  built-in operators holds no others.
* `Registry.OnlyBuiltins`: a registry with built-in operators only, perhaps not all of them.
* `Operator.SeenAlike`, `SeenAlike.reply`: what of a field the built-in operators look at.
* `Error.IsBrokenRule`, `isBrokenRule_of_isBuiltin`: the errors that they reply.
-/

namespace FormRules

open Pattern (Engine)

variable {φ : Type}

/-- An error that says of a rule that it is broken. -/
def Error.IsBrokenRule : Error → Prop
  | invalidPattern _ _ => True
  | invalidModifiers _ _ => True
  | missingOperand _ => True
  | _ => False

/-! ## All handlers of a registry -/

namespace Registry

/-- Every handler of a registry and the name of its operator have a property. -/
def All (P : String → Handler φ → Prop) (r : Registry φ) : Prop :=
  ∀ name handler, r.handler? name = some handler → P name handler

variable {P : String → Handler φ → Prop} {r : Registry φ}

theorem all_empty : All P (empty : Registry φ) := by
  intro name handler h
  cases h

theorem handler?_register (r : Registry φ) (name : String) (handler : Handler φ) (name' : String) :
    (r.register name handler).handler? name' =
      if name' = name then some handler else r.handler? name' :=
  Dict.get?_insert name name' handler r.handlers

theorem All.register {name : String} {handler : Handler φ} (h : r.All P) (hnew : P name handler) :
    (r.register name handler).All P := by
  intro name' handler' h'
  rw [handler?_register] at h'
  split at h'
  · rename_i hname
    cases h'
    exact hname ▸ hnew
  · exact h name' handler' h'

end Registry

variable [Field φ]

namespace Operator

/-! ## The built-in operators -/

/-- The names of the built-in operators and their handlers. -/
inductive IsBuiltin (format : NumberFormat) (engine : Engine) : String → Handler φ → Prop
  | required : IsBuiltin format engine "required" required
  | date : IsBuiltin format engine "date" date
  | number : IsBuiltin format engine "number" (number format)
  | regexp : IsBuiltin format engine "regexp" (regexp engine)
  | compare (relation : Relation) : IsBuiltin format engine relation.name (compare relation)

variable {format : NumberFormat} {engine : Engine} {name : String} {handler : Handler φ}

theorem all_isBuiltin_builtins (format : NumberFormat) (engine : Engine) :
    (builtins format engine : Registry φ).All (IsBuiltin format engine) := by
  have hforms := Registry.all_empty (P := IsBuiltin (φ := φ) format engine)
    |>.register .required |>.register .date |>.register .number |>.register .regexp
  exact List.foldlRecOn (motive := Registry.All (IsBuiltin format engine)) Relation.all _ hforms
    fun r hr relation _ => hr.register (.compare relation)

theorem handler?_of_isBuiltin (h : IsBuiltin format engine name handler) :
    (builtins format engine).handler? name = some handler := by
  cases h with
  | compare relation =>
    cases relation <;>
      simp [builtins, Relation.all, Relation.name, Registry.handler?_register]
  | _ => simp [builtins, Relation.all, Relation.name, Registry.handler?_register]

/-! ## What they look at -/

/-- Two fields on which all that the built-in operators look at is the same: the values of the
field, and those of the fields that it refers to. -/
structure SeenAlike (f f' : φ) : Prop where
  value : Field.value f' = Field.value f
  resolved : Field.resolved f' = Field.resolved f
  peer_value : ∀ id, (Field.peer? f' id).map Field.value = (Field.peer? f id).map Field.value
  peer_resolved : ∀ id,
    (Field.peer? f' id).map Field.resolved = (Field.peer? f id).map Field.resolved

theorem SeenAlike.reply {f f' : φ} (h : SeenAlike f f') (hb : IsBuiltin format engine name handler)
    (mode : Option Mode) (args : List String) : handler f' mode args = handler f mode args := by
  have hresolve : ∀ token, Field.resolve f' token = Field.resolve f token := by
    intro token
    rw [Field.resolve, Field.resolve]
    split
    · rw [h.peer_resolved]
    · exact h.resolved
  have hoperand : ∀ token, Field.operand f' token = Field.operand f token := by
    intro token
    rw [Field.operand, Field.operand]
    split
    · rw [h.peer_value]
    · rfl
  cases hb with
  | required => simp only [Operator.required, hresolve]
  | date => simp only [Operator.date, h.value]
  | number => simp only [Operator.number, h.value]
  | regexp => simp only [Operator.regexp, h.value]
  | compare relation =>
    cases args with
    | nil => rfl
    | cons token args => simp only [Operator.compare, h.value, hoperand]

/-! ## Their errors -/

theorem isBrokenRule_of_isBuiltin (hb : IsBuiltin format engine name handler) {f : φ}
    {mode : Option Mode} {args : List String} {e : Error}
    (he : (handler f mode args).error? = some e) : e.IsBrokenRule := by
  cases hb with
  | required => cases he
  | date => cases he
  | number => cases he
  | regexp =>
    simp only [Operator.regexp] at he
    split at he
    · cases he
    split at he
    · cases he
      trivial
    split at he
    · cases he
      trivial
    split at he
    · cases he
      trivial
    · cases he
  | compare relation =>
    cases args with
    | nil =>
      cases he
      trivial
    | cons token args => cases he

end Operator

/-! ## Registries without other operators -/

/-- A registry has no operators but built-in ones. Some may be missing, and formats and engines may
differ. -/
def Registry.OnlyBuiltins (r : Registry φ) : Prop :=
  r.All fun name handler => ∃ format engine, Operator.IsBuiltin format engine name handler

theorem onlyBuiltins_builtins (format : NumberFormat) (engine : Engine) :
    (builtins format engine : Registry φ).OnlyBuiltins :=
  fun name handler h =>
    ⟨format, engine, Operator.all_isBuiltin_builtins format engine name handler h⟩

end FormRules
