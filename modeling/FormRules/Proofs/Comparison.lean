import FormRules.Comparison
import FormRules.Proofs.Number.Rounding

/-!
# Comparisons are decided

Two numbers have an order unless one of them is `NaN`, and no comparison is ever settled as one with
`NaN`. So a value that is not empty stands in an order to every target, the same one for all six
relations, and these say of it what their names say.

* `Binary64.isSome_compare?`, `isNaN_ofNat`: the numbers that have an order.
* `Comparison.isSome_ordering?_coerce`: what is compared has one.
* `exists_ordering`: the order of a value and a target.
* `compareTexts_consistent`: the six relations.
-/

namespace FormRules

/-! ## Orders of numbers -/

namespace Binary64

theorem isSome_place? (x : Binary64) : x.place?.isSome = !x.isNaN := by
  cases x <;> rfl

/-- Only `NaN` has no order to other numbers. -/
theorem isSome_compare? (x y : Binary64) : (x.compare? y).isSome = (!x.isNaN && !y.isNaN) := by
  rw [← isSome_place?, ← isSome_place?, compare?]
  cases x.place? with
  | none => rfl
  | some a => cases y.place? <;> rfl

/-- A length is a number. -/
theorem isNaN_ofNat (n : Nat) : (ofNat n).isNaN = false := by
  rw [ofNat, ofRatio, isNaN_ofUnits]

end Binary64

/-! ## What is compared -/

namespace Comparison

/-- What is compared has an order: a number that a value or a target stands for is not `NaN`. -/
theorem isSome_ordering?_coerce {current target : String} (hne : current ≠ "") :
    (coerce current target).ordering?.isSome = true := by
  unfold coerce
  rw [if_neg (fun hempty => hne (String.isEmpty_iff.1 hempty))]
  dsimp only
  split
  · rfl
  · rename_i htarget
    have htarget := Bool.eq_false_iff.2 htarget
    split
    · rw [ordering?, Binary64.isSome_compare?, Binary64.isNaN_ofNat, htarget]
      rfl
    · rename_i hcurrent
      rw [ordering?, Binary64.isSome_compare?, Bool.eq_false_iff.2 hcurrent, htarget]
      rfl

theorem holds_of_ordering? {c : Comparison} {o : Ordering} (h : c.ordering? = some o)
    (relation : Relation) : c.holds relation = relation.admits o := by
  unfold holds
  split
  · cases h
  · rw [h, Option.any_some]

end Comparison

/-- A value that is not blank stands in one order to a target, and each relation goes by it. -/
theorem exists_ordering {current : String} (hne : Text.trim current ≠ "") (target : String) :
    ∃ o, (Comparison.coerce (Text.trim current) target).ordering? = some o ∧
      ∀ relation, compareTexts relation current target = relation.admits o := by
  obtain ⟨o, ho⟩ := Option.isSome_iff_exists.1 (Comparison.isSome_ordering?_coerce hne)
  exact ⟨o, ho, Comparison.holds_of_ordering? ho⟩

/-! ## The six relations -/

/-- Exactly one of three holds. -/
def ExactlyOne (p q r : Prop) : Prop := (p ∧ ¬ q ∧ ¬ r) ∨ (¬ p ∧ q ∧ ¬ r) ∨ (¬ p ∧ ¬ q ∧ r)

instance (p q r : Prop) [Decidable p] [Decidable q] [Decidable r] : Decidable (ExactlyOne p q r) :=
  inferInstanceAs (Decidable (_ ∨ _))

namespace Relation

theorem exactlyOne_admits (o : Ordering) :
    ExactlyOne (lt.admits o = true) (eq.admits o = true) (gt.admits o = true) := by
  cases o <;> decide

theorem admits_lte (o : Ordering) : lte.admits o = (lt.admits o || eq.admits o) := by
  cases o <;> rfl

theorem admits_gte (o : Ordering) : gte.admits o = (gt.admits o || eq.admits o) := by
  cases o <;> rfl

theorem admits_neq (o : Ordering) : neq.admits o = !eq.admits o := by
  cases o <;> rfl

end Relation

/-- **The six relations.** A blank value stands in all relations to every target. Of any other value
exactly one of "less", "equal" and "greater" holds, and the other three relations are what their
names say of these. No comparison is without an order, unless the value is empty and it is
skipped. -/
theorem compareTexts_consistent (current target : String) :
    (Text.trim current = "" → ∀ relation, compareTexts relation current target = true) ∧
    (Text.trim current ≠ "" →
      ExactlyOne (compareTexts .lt current target = true) (compareTexts .eq current target = true)
        (compareTexts .gt current target = true) ∧
      (compareTexts .lte current target = true ↔
        compareTexts .lt current target = true ∨ compareTexts .eq current target = true) ∧
      (compareTexts .gte current target = true ↔
        compareTexts .gt current target = true ∨ compareTexts .eq current target = true) ∧
      (compareTexts .neq current target = true ↔ ¬ compareTexts .eq current target = true)) ∧
    (current = "" ∧ Comparison.coerce current target = .skipped ∨
      ∃ o, (Comparison.coerce current target).ordering? = some o) := by
  refine ⟨?_, ?_, ?_⟩
  · intro hblank relation
    rw [compareTexts, hblank]
    rfl
  · intro hne
    obtain ⟨o, -, hrelation⟩ := exists_ordering hne target
    simp only [hrelation]
    refine ⟨Relation.exactlyOne_admits o, ?_, ?_, ?_⟩
    · rw [Relation.admits_lte, Bool.or_eq_true]
    · rw [Relation.admits_gte, Bool.or_eq_true]
    · rw [Relation.admits_neq, Bool.not_eq_true', Bool.not_eq_true]
  · by_cases hempty : current = ""
    · refine .inl ⟨hempty, ?_⟩
      rw [hempty]
      rfl
    · exact .inr (Option.isSome_iff_exists.1 (Comparison.isSome_ordering?_coerce hempty))

/-- Minus zero and a zero of another radix are equal, so neither is less. A blank value is both
equal and not equal. -/
theorem compareTexts_zeros :
    Text.trim " -0 " ≠ "" ∧
    ExactlyOne (compareTexts .lt " -0 " "0x0" = true) (compareTexts .eq " -0 " "0x0" = true)
      (compareTexts .gt " -0 " "0x0" = true) ∧
    compareTexts .eq " -0 " "0x0" = true ∧ ¬ compareTexts .neq " -0 " "0x0" = true ∧
    Text.trim "\u3000" = "" ∧ compareTexts .eq "\u3000" "0" = true ∧
    compareTexts .neq "\u3000" "0" = true := by
  have hne : Text.trim " -0 " ≠ "" := by decide
  have hblank : Text.trim "\u3000" = "" := by decide
  obtain ⟨-, hdecided, -⟩ := compareTexts_consistent " -0 " "0x0"
  obtain ⟨hone, -, -, hneq⟩ := hdecided hne
  have heq : compareTexts .eq " -0 " "0x0" = true := by decide +kernel
  have hskipped := (compareTexts_consistent "\u3000" "0").1 hblank
  exact ⟨hne, hone, heq, fun h => hneq.1 h heq, hblank, hskipped .eq, hskipped .neq⟩

end FormRules
