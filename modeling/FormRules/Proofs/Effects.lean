import FormRules.Validator

/-!
# What observers are told, and what small changes keep

The journal of a validator holds trace lines, notices and refusals. Of these only the notices are
calls of observers. This module separates them from the rest and says what the small changes of a
validator leave alone.

* `calls`: the notices of a journal, each with the place of the observer that got it.
* `Steady`: nothing changed that only the host changes.
* `Quiet`: moreover no display state changed and no observer was called.
* `steady_notify`, `calls_notify`: telling a failure calls every observer once, in their order,
  whatever the observers answer.
-/

namespace FormRules

/-! ## Calls -/

/-- The notices of a journal in their order, each with the place of the observer that got it. -/
def calls (journal : List Effect) : List (Nat × Notice) :=
  journal.filterMap fun
    | .told i notice => some (i, notice)
    | _ => none

/-- One call of each of a number of observers, in their order. -/
def callsOf (count : Nat) (notice : Notice) : List (Nat × Notice) :=
  (List.range count).map fun i => (i, notice)

@[simp] theorem calls_append (s t : List Effect) : calls (s ++ t) = calls s ++ calls t :=
  List.filterMap_append

@[simp] theorem calls_traced (line : TraceLine) : calls [.traced line] = [] := rfl

@[simp] theorem calls_warned (k : FieldKey) (refusal : String) : calls [.warned k refusal] = [] :=
  rfl

theorem calls_told (count : Nat) (notice : Notice) :
    calls ((List.range count).map fun i => .told i notice) = callsOf count notice := by
  rw [calls, callsOf, List.filterMap_map]
  show (List.range count).filterMap (fun i => some (i, notice)) = _
  rw [List.filterMap_eq_map']

namespace Validator

variable {φ : Type} {v v' v'' : Validator φ}

/-! ## Steady and quiet changes -/

/-- Configuration, operators, observers and marks of forms are as they were. -/
structure Steady (v v' : Validator φ) : Prop where
  config : v'.config = v.config
  registry : v'.registry = v.registry
  observers : v'.observers = v.observers
  dirty : v'.dirty = v.dirty

/-- Also the display states are as they were, and no observer was called. -/
structure Quiet (v v' : Validator φ) : Prop extends Steady v v' where
  states : v'.states = v.states
  calls : calls v'.journal = calls v.journal

theorem Steady.refl (v : Validator φ) : Steady v v := ⟨rfl, rfl, rfl, rfl⟩

theorem Steady.trans (h : Steady v v') (h' : Steady v' v'') : Steady v v'' where
  config := h'.config.trans h.config
  registry := h'.registry.trans h.registry
  observers := h'.observers.trans h.observers
  dirty := h'.dirty.trans h.dirty

theorem Quiet.refl (v : Validator φ) : Quiet v v := ⟨Steady.refl v, rfl, rfl⟩

theorem Quiet.trans (h : Quiet v v') (h' : Quiet v' v'') : Quiet v v'' where
  toSteady := h.toSteady.trans h'.toSteady
  states := h'.states.trans h.states
  calls := h'.calls.trans h.calls

theorem Quiet.displayState (h : Quiet v v') (k : FieldKey) :
    v'.displayState k = v.displayState k := by
  rw [Validator.displayState, Validator.displayState, h.states]

/-- Quiet changes one after the other are a quiet change. -/
theorem quiet_foldl {α : Type} {change : Validator φ → α → Validator φ}
    (h : ∀ v a, Quiet v (change v a)) (l : List α) (v : Validator φ) :
    Quiet v (l.foldl change v) := by
  induction l generalizing v with
  | nil => exact Quiet.refl v
  | cons a l ih => exact (h v a).trans (ih (change v a))

/-! ## Small changes -/

theorem quiet_say (line : TraceLine) (v : Validator φ) : Quiet v (v.say line) where
  toSteady := ⟨rfl, rfl, rfl, rfl⟩
  states := rfl
  calls := by
    show FormRules.calls (v.journal ++ [.traced line]) = _
    rw [calls_append, calls_traced, List.append_nil]

theorem quiet_ignore (k : FieldKey) (refusal : String) (v : Validator φ) :
    Quiet v (v.ignore k refusal) := by
  have h : Quiet v (v.record (.warned k refusal)) := by
    refine ⟨⟨rfl, rfl, rfl, rfl⟩, rfl, ?_⟩
    show FormRules.calls (v.journal ++ [.warned k refusal]) = _
    rw [calls_append, calls_warned, List.append_nil]
  exact h.trans (quiet_say _ _)

theorem steady_display (k : FieldKey) (state : DisplayState) (v : Validator φ) :
    Steady v (v.display k state) := ⟨rfl, rfl, rfl, rfl⟩

theorem displayState_display (k k' : FieldKey) (state : DisplayState) (v : Validator φ) :
    (v.display k state).displayState k' = if k' = k then state else v.displayState k' :=
  DisplayStates.get_set k k' state v.states

theorem steady_tell (notice : Notice) (v : Validator φ) : Steady v (v.tell notice) :=
  ⟨rfl, rfl, rfl, rfl⟩

theorem calls_tell (notice : Notice) (v : Validator φ) :
    calls (v.tell notice).journal = calls v.journal ++ callsOf v.observers.length notice := by
  show calls (v.journal ++ _) = _
  rw [calls_append, calls_told]

/-- The refusals come behind the notices and are no notices. -/
theorem quiet_refusals (k : FieldKey) (failure : Failure) (message : String) (v : Validator φ) :
    Quiet (v.tell (.invalid k failure message)) (v.notify k failure message) :=
  quiet_foldl (fun v refusal => quiet_ignore k refusal v) _ _

theorem steady_notify (k : FieldKey) (failure : Failure) (message : String) (v : Validator φ) :
    Steady v (v.notify k failure message) :=
  (steady_tell _ v).trans (quiet_refusals k failure message v).toSteady

theorem states_notify (k : FieldKey) (failure : Failure) (message : String) (v : Validator φ) :
    (v.notify k failure message).states = v.states :=
  (quiet_refusals k failure message v).states

/-- Every observer is called once, in the order of the observers. No answer keeps the next one from
being called. -/
theorem calls_notify (k : FieldKey) (failure : Failure) (message : String) (v : Validator φ) :
    calls (v.notify k failure message).journal =
      calls v.journal ++ callsOf v.observers.length (.invalid k failure message) := by
  rw [(quiet_refusals k failure message v).calls, calls_tell]

end Validator

end FormRules
