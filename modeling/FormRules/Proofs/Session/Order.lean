import FormRules.PlainForm
import FormRules.Proofs.Session

/-!
# The order of sessions

Sessions share the operators, the display states and the observers, and the rules of a field may
look up other fields. Still a session reads no display state but that of its own field and writes no
other, so that sessions over fields with different keys do not disturb each other.

* `Validator.validateEach`: sessions over fields, each in a mode of its own.
* `validate_after_ne`: behind a session of another key a session comes out as if it came first.
* `results_validateEach`, `displayState_validateEach`: with distinct keys every session of a list
  comes out as if it were the only one.
* `sessions_commute`: so the order of the sessions makes no difference.
-/

namespace FormRules

variable {φ : Type} [Field φ]

namespace Validator

/-- Sessions over fields in their order, each in its mode: the validator after the last, and every
result. -/
def validateEach (v : Validator φ) :
    List (φ × Option Mode) → Validator φ × List (Except Error Report)
  | [] => (v, [])
  | (f, mode) :: rest =>
    let (v, result) := v.validate f mode
    let (v, results) := v.validateEach rest
    (v, result :: results)

/-- The keys of the fields that sessions are held over. -/
def keysOf (each : List (φ × Option Mode)) : List FieldKey := each.map fun p => Field.key p.1

/-! ## Single sessions -/

theorem settled_validate (v : Validator φ) (f : φ) (mode : Option Mode) :
    ∃ state notice, Settled v (Field.key f) state notice (v.validate f mode).1 := by
  obtain ⟨result, state, notice, h⟩ :=
    exists_session v.config v.registry f mode (v.displayState (Field.key f))
  exact ⟨state, notice, (session_validate h).2⟩

theorem steady_validate (v : Validator φ) (f : φ) (mode : Option Mode) :
    Steady v (v.validate f mode).1 := by
  obtain ⟨state, notice, h⟩ := settled_validate v f mode
  exact h.toSteady

theorem displayState_validate_ne (v : Validator φ) (f : φ) (mode : Option Mode) {k : FieldKey}
    (hk : k ≠ Field.key f) : (v.validate f mode).1.displayState k = v.displayState k := by
  obtain ⟨state, notice, h⟩ := settled_validate v f mode
  rw [h.displayState, if_neg hk]

/-- A session behind the session of another key comes out as if it came first. -/
theorem validate_after_ne (v : Validator φ) {f g : φ} (m n : Option Mode)
    (hk : Field.key g ≠ Field.key f) :
    ((v.validate f m).1.validate g n).2 = (v.validate g n).2 ∧
      ((v.validate f m).1.validate g n).1.displayState (Field.key g) =
        (v.validate g n).1.displayState (Field.key g) :=
  validate_congr (steady_validate v f m).config (steady_validate v f m).registry
    (displayState_validate_ne v f m hk)

/-! ## Sessions one after the other -/

variable {each other : List (φ × Option Mode)}

theorem steady_validateEach (v : Validator φ) (each : List (φ × Option Mode)) :
    Steady v (v.validateEach each).1 := by
  induction each generalizing v with
  | nil => exact Steady.refl v
  | cons p each ih => exact (steady_validate v p.1 p.2).trans (ih _)

/-- Sessions leave the keys of other fields alone. -/
theorem displayState_validateEach_of_not_mem (v : Validator φ) {k : FieldKey}
    (hk : k ∉ keysOf each) : (v.validateEach each).1.displayState k = v.displayState k := by
  induction each generalizing v with
  | nil => rfl
  | cons p each ih =>
    rw [keysOf, List.map_cons, List.mem_cons, not_or] at hk
    exact (ih _ hk.2).trans (displayState_validate_ne v p.1 p.2 hk.1)

/-- With distinct keys every session has the result that it has by itself. -/
theorem results_validateEach (v : Validator φ) (hkeys : (keysOf each).Nodup) :
    (v.validateEach each).2 = each.map fun p => (v.validate p.1 p.2).2 := by
  induction each generalizing v with
  | nil => rfl
  | cons p each ih =>
    rw [keysOf, List.map_cons, List.nodup_cons] at hkeys
    show (v.validate p.1 p.2).2 :: ((v.validate p.1 p.2).1.validateEach each).2 = _
    rw [ih _ hkeys.2, List.map_cons]
    congr 1
    refine List.map_congr_left fun q hq => (validate_after_ne v p.2 q.2 fun hk => ?_).1
    exact hkeys.1 (hk ▸ List.mem_map_of_mem (f := fun p => Field.key p.1) hq)

/-- With distinct keys every session leaves the display state that it leaves by itself. -/
theorem displayState_validateEach (v : Validator φ) (hkeys : (keysOf each).Nodup)
    {p : φ × Option Mode} (hp : p ∈ each) :
    (v.validateEach each).1.displayState (Field.key p.1) =
      (v.validate p.1 p.2).1.displayState (Field.key p.1) := by
  induction each generalizing v with
  | nil => cases hp
  | cons q each ih =>
    rw [keysOf, List.map_cons, List.nodup_cons] at hkeys
    show ((v.validate q.1 q.2).1.validateEach each).1.displayState _ = _
    rcases List.mem_cons.1 hp with rfl | hp
    · exact displayState_validateEach_of_not_mem _ hkeys.1
    · rw [ih _ hkeys.2 hp]
      refine (validate_after_ne v q.2 p.2 fun hk => ?_).2
      exact hkeys.1 (hk ▸ List.mem_map_of_mem (f := fun p => Field.key p.1) hp)

/-! ## The order makes no difference -/

theorem displayState_validateEach_perm (v : Validator φ) (hperm : each.Perm other)
    (hkeys : (keysOf each).Nodup) (k : FieldKey) :
    (v.validateEach other).1.displayState k = (v.validateEach each).1.displayState k := by
  have hperm' : (keysOf each).Perm (keysOf other) := hperm.map _
  by_cases hk : k ∈ keysOf each
  · obtain ⟨p, hp, rfl⟩ := List.mem_map.1 hk
    rw [displayState_validateEach v hkeys hp,
      displayState_validateEach v (hperm'.nodup_iff.1 hkeys) (hperm.mem_iff.1 hp)]
  · rw [displayState_validateEach_of_not_mem v hk,
      displayState_validateEach_of_not_mem v fun hk' => hk (hperm'.mem_iff.2 hk')]

/-- No session marks or unmarks a form. -/
theorem isDirty_validateEach (v : Validator φ) (each : List (φ × Option Mode)) (k : FormKey) :
    (v.validateEach each).1.isDirty k = v.isDirty k := by
  rw [isDirty, isDirty, (steady_validateEach v each).dirty]

theorem validateEach_perm (v : Validator φ) (hperm : each.Perm other)
    (hkeys : (keysOf each).Nodup) :
    (v.validateEach each).2 = each.map (fun p => (v.validate p.1 p.2).2) ∧
      (v.validateEach other).2 = other.map (fun p => (v.validate p.1 p.2).2) ∧
      (∀ k, (v.validateEach each).1.displayState k = (v.validateEach other).1.displayState k) ∧
      ∀ k, (v.validateEach each).1.isDirty k = (v.validateEach other).1.isDirty k := by
  have hkeys' : (keysOf other).Nodup := (hperm.map _).nodup_iff.1 hkeys
  refine ⟨results_validateEach v hkeys, results_validateEach v hkeys', fun k => ?_, fun k => ?_⟩
  · exact (displayState_validateEach_perm v hperm hkeys k).symm
  · rw [isDirty_validateEach, isDirty_validateEach]

/-- **The order of sessions.** Two sessions over fields with different keys have the same results
and leave the same display states and marks in either order. So every order of sessions over fields
with distinct keys gives each field the result of a session by itself and ends in the same display
states and marks. -/
theorem sessions_commute (v : Validator φ) :
    (∀ (f g : φ) (m n : Option Mode), Field.key f ≠ Field.key g →
      ((v.validate g n).1.validate f m).2 = (v.validate f m).2 ∧
      ((v.validate f m).1.validate g n).2 = (v.validate g n).2 ∧
      (∀ k, ((v.validate f m).1.validate g n).1.displayState k =
        ((v.validate g n).1.validate f m).1.displayState k) ∧
      ∀ k, ((v.validate f m).1.validate g n).1.isDirty k =
        ((v.validate g n).1.validate f m).1.isDirty k) ∧
    ∀ each other : List (φ × Option Mode), each.Perm other → (keysOf each).Nodup →
      (v.validateEach each).2 = each.map (fun p => (v.validate p.1 p.2).2) ∧
      (v.validateEach other).2 = other.map (fun p => (v.validate p.1 p.2).2) ∧
      (∀ k, (v.validateEach each).1.displayState k = (v.validateEach other).1.displayState k) ∧
      ∀ k, (v.validateEach each).1.isDirty k = (v.validateEach other).1.isDirty k := by
  refine ⟨fun f g m n hk => ?_, fun each other => validateEach_perm v⟩
  have hkeys : (keysOf [(f, m), (g, n)]).Nodup := by simpa [keysOf] using hk
  have hswap : [(f, m), (g, n)].Perm [(g, n), (f, m)] := .swap (g, n) (f, m) []
  obtain ⟨-, -, hstates, hmarks⟩ := validateEach_perm v hswap hkeys
  exact ⟨(validate_after_ne v n m hk).1, (validate_after_ne v m n hk.symm).1, hstates, hmarks⟩

end Validator

/-! ## Fields that look each other up -/

/-- A form with two fields that are compared with each other, and one with a broken rule. -/
def crossForm : PlainForm where
  id := "f"
  fields :=
    [{ id := "a", value := "x", attributes := .ofList [("data-validate", "lt:#b")] },
      { id := "b", value := "y", attributes := .ofList [("data-validate-submit", "lt:#a")] },
      { id := "c", value := "z", attributes := .ofList [("data-validate", "gt:#a gt")] }]

/-- Sessions over the fields of the form. -/
def crossSessions : List (PlainControl × Option Mode) :=
  (Form.controls crossForm).zip [some .change, some .submit, none]

/-- The first field passes, the second fails and the third is broken, also from back to front. -/
theorem sessions_commute_crossForm :
    crossSessions.Perm crossSessions.reverse ∧ (Validator.keysOf crossSessions).Nodup ∧
    ((Validator.ofConfig {}).validateEach crossSessions).2 =
      [.ok .passed, .ok (.failed ⟨0, "lt", ["#a"]⟩ true), .error (.missingOperand "gt")] ∧
    ((Validator.ofConfig {}).validateEach crossSessions.reverse).2 =
      [.error (.missingOperand "gt"), .ok (.failed ⟨0, "lt", ["#a"]⟩ true), .ok .passed] ∧
    ∀ k, ((Validator.ofConfig {}).validateEach crossSessions).1.displayState k =
      ((Validator.ofConfig {}).validateEach crossSessions.reverse).1.displayState k := by
  have hperm : crossSessions.Perm crossSessions.reverse := (List.reverse_perm _).symm
  have hkeys : (Validator.keysOf crossSessions).Nodup := by decide
  have hresults : crossSessions.map (fun p => ((Validator.ofConfig {}).validate p.1 p.2).2) =
      [.ok .passed, .ok (.failed ⟨0, "lt", ["#a"]⟩ true), .error (.missingOperand "gt")] := by
    rfl
  obtain ⟨hfront, hback, hstates, -⟩ :=
    (Validator.sessions_commute (Validator.ofConfig {})).2 _ _ hperm hkeys
  refine ⟨hperm, hkeys, hfront.trans hresults, hback.trans ?_, hstates⟩
  rw [List.map_reverse, hresults]
  rfl

end FormRules
