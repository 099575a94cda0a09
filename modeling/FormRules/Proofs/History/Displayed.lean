import FormRules.Proofs.DisplayStates
import FormRules.Proofs.History
import FormRules.Proofs.Runs

/-!
# Display states over runs

The display state of a field is what was written last. Sessions and clearings write, several of them
in one submission, and some of them for fields that share a key, so that this is stated of the acts
of a run.

* `Act.written?`: the display state of a field that an act writes.
* `displayState_act`: an act leaves what it writes, or else what was there.
* `onlyJudgements_performAll`: no act stores a neutral state.
* `displayState_run`: the display states at the end of a run, and what the store shows of them.
-/

namespace FormRules

variable {φ γ σ : Type} [Field φ]

/-- The display state of the field `k` that an act writes. -/
def Act.written? (v : Validator φ) (k : FieldKey) : Act φ → Option DisplayState
  | session f mode => if Field.key f = k then writtenState? (v.validate f mode).2 else none
  | clear k' => if k' = k then some .neutral else none
  | _ => none

namespace Validator

/-! ## The last write -/

theorem displayState_act (v : Validator φ) (a : Act φ) (k : FieldKey) :
    (a.perform v).displayState k = (a.written? v k).getD (v.displayState k) := by
  cases a with
  | session f mode =>
    rw [Act.perform, Act.written?]
    by_cases hk : Field.key f = k
    · rw [if_pos hk, ← hk, displayState_validate]
    · rw [if_neg hk, displayState_validate_ne v f mode (Ne.symm hk), Option.getD_none]
  | clear k' =>
    rw [Act.perform, Act.written?, displayState_display]
    by_cases hk : k' = k
    · rw [if_pos hk, if_pos hk.symm, Option.getD_some]
    · rw [if_neg hk, if_neg (Ne.symm hk), Option.getD_none]
  | say line => exact (quiet_say line v).displayState k
  | _ => rfl

theorem displayState_act_iff (v : Validator φ) (a : Act φ) (k : FieldKey) (state : DisplayState) :
    (a.perform v).displayState k = state ↔
      a.written? v k = some state ∨ v.displayState k = state ∧ a.written? v k = none := by
  rw [displayState_act]
  cases a.written? v k <;> simp

/-! ## The store -/

theorem states_conclude (v : Validator φ) (f : φ) (ruling : Ruling) :
    (v.conclude f ruling).1.states = v.states ∨
      ∃ state, (v.conclude f ruling).1.states = v.states.set (Field.key f) state := by
  cases ruling with
  | passed => exact .inr ⟨.valid, rfl⟩
  | broken index operator e => exact .inl rfl
  | failed failure =>
    refine .inr ⟨.invalid, ?_⟩
    show (v.fail f failure).1.states = _
    rw [fail]
    dsimp only
    split
    · exact states_notify _ _ _ _
    · rfl

/-- A session changes the stored state of its field at most. -/
theorem states_validate (v : Validator φ) (f : φ) (mode : Option Mode) :
    (v.validate f mode).1.states = v.states ∨
      ∃ state, (v.validate f mode).1.states = v.states.set (Field.key f) state := by
  cases hd : Field.isDisabled f with
  | true =>
    rw [validate, if_pos hd]
    exact .inr ⟨.neutral, rfl⟩
  | false =>
    cases ht : v.rules? f mode with
    | none =>
      rw [validate, hd, ht]
      exact .inl rfl
    | some text =>
      have hquiet := quiet_passOver v (Field.key f)
        (v.registry.judge f mode 0 (Rule.parse text)).passedOver
      rw [validate_of_rules hd ht, ← hquiet.states]
      exact states_conclude _ _ _

theorem onlyJudgements_act {v : Validator φ} (h : v.states.OnlyJudgements) (a : Act φ) :
    (a.perform v).states.OnlyJudgements := by
  cases a with
  | session f mode =>
    obtain hstates | ⟨state, hstates⟩ := states_validate v f mode
    · rwa [Act.perform, hstates]
    · rw [Act.perform, hstates]
      exact h.set _ state
  | clear k => exact h.set k .neutral
  | _ => exact h

theorem onlyJudgements_performAll {v : Validator φ} (h : v.states.OnlyJudgements)
    (acts : List (Act φ)) : (v.performAll acts).states.OnlyJudgements := by
  induction acts generalizing v with
  | nil => exact h
  | cons a acts ih => exact ih (onlyJudgements_act h a)

/-! ## Runs -/

/-- **Display states over a run.** From the creation of a validator on, a run does what its acts do.
A field displays what the last of them that wrote its display state wrote, and is neutral if none
did. No neutral state is stored, so that the number of entries is that of the fields with a
judgement, and the invalid fields are listed in strictly ascending order. -/
theorem displayState_run [Form γ φ] [Attributed σ] (config : Config) (engine : Pattern.Engine)
    (ops : List (Operation φ γ σ)) :
    (ofConfig config engine).run ops =
        (ofConfig config engine).performAll ((ofConfig config engine).acts ops) ∧
    (∀ k state, ((ofConfig config engine).run ops).displayState k = state ↔
      Since Act.perform (fun v a => a.written? v k = some state)
          (fun v a => a.written? v k = none) (ofConfig config engine)
          ((ofConfig config engine).acts ops) ∨
        state = .neutral ∧ Always Act.perform (fun v a => a.written? v k = none)
          (ofConfig config engine) ((ofConfig config engine).acts ops)) ∧
    ((ofConfig config engine).run ops).states.Tidy := by
  have hacts := run_eq_performAll (ofConfig config engine) ops
  have hfirst : (ofConfig config engine : Validator φ).states.OnlyJudgements := by
    intro e he
    cases he
  refine ⟨hacts, fun k state => ?_, ?_⟩
  · have hrun := holds_foldl_iff (P := fun v => v.displayState k = state)
      (fun v a => displayState_act_iff v a k state) (ofConfig config engine)
      ((ofConfig config engine).acts ops)
    rw [hacts, @eq_comm _ state]
    exact hrun
  · rw [hacts]
    exact (onlyJudgements_performAll hfirst _).tidy

end Validator

end FormRules
