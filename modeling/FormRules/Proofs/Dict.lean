import FormRules.Dict

/-!
# Entries of finite maps

A map is its entries in their order, and a key that is new comes in behind them. So a map is built
again by putting its entries into the empty one, in order.

* `put_of_not_mem`, `find?_of_not_mem`: a key that no entry has.
* `mem_entries_iff`, `mem_keys_iff`: the entries of a map are the values of its keys.
* `foldl_insertNew_entries`: a map is what comes of its entries.
-/

namespace FormRules.Dict

variable {κ ν : Type}

theorem eq_of_entries {d d' : Dict κ ν} (h : d.entries = d'.entries) : d = d' := by
  cases d
  cases d'
  cases h
  rfl

variable [DecidableEq κ]

theorem put_of_not_mem {k : κ} {v : ν} {l : List (κ × ν)} (h : k ∉ l.map Prod.fst) :
    put k v l = l ++ [(k, v)] := by
  induction l with
  | nil => rfl
  | cons e l ih =>
    rw [List.map_cons, List.mem_cons, not_or] at h
    rw [put, if_neg h.1, ih h.2, List.cons_append]

theorem find?_of_not_mem {k : κ} {l : List (κ × ν)} (h : k ∉ l.map Prod.fst) :
    find? k l = none := by
  induction l with
  | nil => rfl
  | cons e l ih =>
    rw [List.map_cons, List.mem_cons, not_or] at h
    rw [find?, if_neg h.1, ih h.2]

theorem find?_eq_some_iff {k : κ} {v : ν} {l : List (κ × ν)} (h : (l.map Prod.fst).Nodup) :
    find? k l = some v ↔ (k, v) ∈ l := by
  induction l with
  | nil => simp [find?]
  | cons e l ih =>
    rw [List.map_cons, List.nodup_cons] at h
    rw [find?, List.mem_cons]
    by_cases he : k = e.1
    · have hnew : (k, v) ∉ l := fun hmem => h.1 (he ▸ List.mem_map_of_mem hmem)
      rw [if_pos he, Option.some_inj, or_iff_left hnew]
      exact ⟨fun hv => Prod.ext he hv.symm, fun hv => (congrArg Prod.snd hv).symm⟩
    · have hne : (k, v) ≠ e := fun hv => he (congrArg Prod.fst hv)
      rw [if_neg he, ih h.2, or_iff_right hne]

theorem mem_entries_iff (d : Dict κ ν) (k : κ) (v : ν) : (k, v) ∈ d.entries ↔ d.get? k = some v :=
  (find?_eq_some_iff d.nodup_keys).symm

theorem mem_keys_iff (d : Dict κ ν) (k : κ) : k ∈ d.keys ↔ ∃ v, d.get? k = some v := by
  rw [keys, List.mem_map]
  constructor
  · rintro ⟨e, he, rfl⟩
    exact ⟨e.2, (d.mem_entries_iff e.1 e.2).1 he⟩
  · rintro ⟨v, hv⟩
    exact ⟨(k, v), (d.mem_entries_iff k v).2 hv, rfl⟩

/-- Entries whose keys are new come in as they are. -/
theorem entries_foldl_insertNew (l : List (κ × ν)) (d : Dict κ ν)
    (h : (d.entries.map Prod.fst ++ l.map Prod.fst).Nodup) :
    (l.foldl (fun d (k, v) => d.insertNew k v) d).entries = d.entries ++ l := by
  induction l generalizing d with
  | nil => rw [List.foldl_nil, List.append_nil]
  | cons e l ih =>
    have hnew : e.1 ∉ d.entries.map Prod.fst := by
      intro hmem
      exact (List.nodup_append.1 h).2.2 _ hmem _ List.mem_cons_self rfl
    have hentries : (d.insertNew e.1 e.2).entries = d.entries ++ [e] := by
      rw [insertNew, contains, get?, find?_of_not_mem hnew]
      exact put_of_not_mem hnew
    rw [List.foldl_cons, ih, hentries, List.append_assoc, List.singleton_append]
    rw [hentries, List.map_append, List.append_assoc]
    exact h

theorem foldl_insertNew_entries (d : Dict κ ν) :
    d.entries.foldl (fun d (k, v) => d.insertNew k v) (∅ : Dict κ ν) = d :=
  eq_of_entries (entries_foldl_insertNew d.entries ∅ d.nodup_keys)

end FormRules.Dict
