import FormRules.DisplayState
import FormRules.Proofs.Dict
import Mathlib.Data.Finset.Card

/-!
# Stored display states

A total map from fields to display states is kept as a partial one: neutral states are not stored.
As long as this is so, what the store shows of itself is what the display states are.

* `OnlyJudgements`: no neutral state is stored. `OnlyJudgements.set`: changes keep this.
* `Tidy`: the number of entries and the list of invalid fields say what the display states are.
* `OnlyJudgements.tidy`: a store of judgements only is tidy.
-/

namespace FormRules.DisplayStates

/-! ## Specification -/

/-- No neutral state is stored. -/
def OnlyJudgements (s : DisplayStates) : Prop := ∀ e ∈ s.stored.entries, e.2 ≠ .neutral

/-- A store shows what the display states are. -/
structure Tidy (s : DisplayStates) : Prop where
  onlyJudgements : s.OnlyJudgements
  /-- As many entries as there are fields with a judgement. -/
  size : ∃ judged : Finset FieldKey,
    (∀ k, k ∈ judged ↔ s.get k = .valid ∨ s.get k = .invalid) ∧ s.size = judged.card
  isEmpty : s.isEmpty = true ↔ ∀ k, s.get k = .neutral
  ascending : s.invalidKeys.Pairwise fun a b => a.text < b.text
  mem_invalidKeys : ∀ k, k ∈ s.invalidKeys ↔ s.get k = .invalid

/-! ## Entries and display states -/

variable {s : DisplayStates}

/-- A judgement is displayed exactly if it is stored. -/
theorem mem_entries_iff_of_ne {state : DisplayState} (h : state ≠ .neutral) (k : FieldKey) :
    (k, state) ∈ s.stored.entries ↔ s.get k = state := by
  rw [Dict.mem_entries_iff, get]
  cases hk : s.stored.get? k with
  | none => simp [h.symm]
  | some other => simp

/-- The stored keys are those of the fields with a judgement. -/
theorem OnlyJudgements.mem_keys_iff (h : s.OnlyJudgements) (k : FieldKey) :
    k ∈ s.stored.keys ↔ s.get k ≠ .neutral := by
  rw [Dict.mem_keys_iff, get]
  cases hk : s.stored.get? k with
  | none => simp
  | some state => simpa using h _ ((s.stored.mem_entries_iff k state).2 hk)

/-! ## What a store shows -/

theorem OnlyJudgements.isEmpty_iff (h : s.OnlyJudgements) :
    s.isEmpty = true ↔ ∀ k, s.get k = .neutral := by
  have hkeys : s.isEmpty = true ↔ s.stored.keys = [] := by
    rw [isEmpty, List.isEmpty_iff, Dict.keys, List.map_eq_nil_iff]
  rw [hkeys, List.eq_nil_iff_forall_not_mem]
  exact forall_congr' fun k => by rw [h.mem_keys_iff, not_not]

theorem size_eq_card (s : DisplayStates) : s.size = s.stored.keys.toFinset.card := by
  rw [Dict.keys, List.toFinset_card_of_nodup s.stored.nodup_keys, List.length_map]
  rfl

theorem mem_invalidKeys_iff (s : DisplayStates) (k : FieldKey) :
    k ∈ s.invalidKeys ↔ s.get k = .invalid := by
  rw [invalidKeys, List.mem_mergeSort, ← mem_entries_iff_of_ne (by decide)]
  constructor
  · intro h
    obtain ⟨e, he, rfl⟩ := List.mem_map.1 h
    obtain ⟨hmem, hstate⟩ := List.mem_filter.1 he
    rwa [← of_decide_eq_true hstate]
  · intro h
    exact List.mem_map_of_mem (f := Prod.fst) (List.mem_filter.2 ⟨h, decide_eq_true rfl⟩)

/-- Keys are different, so that an ascending list of them is strictly ascending. -/
theorem pairwise_invalidKeys (s : DisplayStates) :
    s.invalidKeys.Pairwise fun a b => a.text < b.text := by
  have hle : s.invalidKeys.Pairwise fun a b => a.text ≤ b.text := by
    refine (List.pairwise_mergeSort ?_ ?_ _).imp of_decide_eq_true
    · intro a b c hab hbc
      simp only [decide_eq_true_eq] at hab hbc ⊢
      exact String.le_trans hab hbc
    · intro a b
      simpa using String.le_total a.text b.text
  have hne : s.invalidKeys.Nodup := by
    refine (List.mergeSort_perm _ _).nodup_iff.2 ?_
    exact s.stored.nodup_keys.sublist (List.filter_sublist.map Prod.fst)
  refine (hle.and hne).imp fun {a b} h => ?_
  refine String.not_le.1 fun hba => h.2 ?_
  cases a
  cases b
  exact congrArg FieldKey.mk (String.le_antisymm h.1 hba)

theorem OnlyJudgements.tidy (h : s.OnlyJudgements) : s.Tidy where
  onlyJudgements := h
  size := by
    refine ⟨s.stored.keys.toFinset, fun k => ?_, size_eq_card s⟩
    rw [List.mem_toFinset, h.mem_keys_iff]
    cases s.get k <;> simp
  isEmpty := h.isEmpty_iff
  ascending := pairwise_invalidKeys s
  mem_invalidKeys := mem_invalidKeys_iff s

/-! ## Changes -/

/-- A change takes a neutral state out and puts a judgement in. -/
theorem OnlyJudgements.set (h : s.OnlyJudgements) (k : FieldKey) (state : DisplayState) :
    (s.set k state).OnlyJudgements := by
  rintro ⟨k', state'⟩ he rfl
  rw [Dict.mem_entries_iff] at he
  have hold : s.stored.get? k' ≠ some .neutral := fun hk' =>
    h _ ((s.stored.mem_entries_iff k' .neutral).2 hk') rfl
  by_cases hk : k' = k
  · cases state <;> simp [DisplayStates.set, Dict.get?_erase, Dict.get?_insert, hk] at he
  · refine hold ?_
    cases state <;>
      simpa [DisplayStates.set, Dict.get?_erase, Dict.get?_insert, hk] using he

end FormRules.DisplayStates
