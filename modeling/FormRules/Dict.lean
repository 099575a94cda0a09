/-!
# Finite maps in insertion order

A finite map is kept as its entries, each key once, in the order in which the keys came in.
Changing the value of a key keeps its place.

* `Dict.get?`, `Dict.contains`, `Dict.keys`, `Dict.size`: views.
* `Dict.insert`, `Dict.insertNew`, `Dict.erase`: changes. `insertNew` keeps a value that is there.
* `get?_insert`, `get?_insertNew`, `get?_erase`: what each change does to each key.
-/

namespace FormRules

/-- A finite map. -/
structure Dict (κ ν : Type) where
  entries : List (κ × ν)
  nodup_keys : (entries.map Prod.fst).Nodup
  deriving Repr

namespace Dict

variable {κ ν : Type} [DecidableEq κ]

/-- The empty map. -/
def empty : Dict κ ν := ⟨[], List.nodup_nil⟩

instance : EmptyCollection (Dict κ ν) := ⟨empty⟩

instance : Inhabited (Dict κ ν) := ⟨empty⟩

instance [DecidableEq ν] : DecidableEq (Dict κ ν) := fun a b =>
  decidable_of_iff (a.entries = b.entries) (by cases a; cases b; simp)

/-! ## Lists of entries -/

/-- The value of the first entry with a key. -/
def find? (k : κ) : List (κ × ν) → Option ν
  | [] => none
  | e :: rest => if k = e.1 then some e.2 else find? k rest

/-- Changes the value of a key in its place, or adds the key at the end. -/
def put (k : κ) (v : ν) : List (κ × ν) → List (κ × ν)
  | [] => [(k, v)]
  | e :: rest => if k = e.1 then (k, v) :: rest else e :: put k v rest

/-- Leaves out the entries with a key. -/
def drop (k : κ) (entries : List (κ × ν)) : List (κ × ν) := entries.filter (·.1 ≠ k)

theorem map_fst_put (k : κ) (v : ν) (l : List (κ × ν)) :
    (put k v l).map Prod.fst =
      if k ∈ l.map Prod.fst then l.map Prod.fst else l.map Prod.fst ++ [k] := by
  induction l with
  | nil => rfl
  | cons e rest ih =>
    by_cases h : k = e.1
    · simp [put, h]
    · rw [put, if_neg h, List.map_cons, ih, List.map_cons]
      by_cases hk : k ∈ rest.map Prod.fst
      · rw [if_pos hk, if_pos (List.mem_cons_of_mem _ hk)]
      · rw [if_neg hk, if_neg (fun hc => (List.mem_cons.1 hc).elim h hk), List.cons_append]

theorem nodup_put {k : κ} {v : ν} {l : List (κ × ν)} (h : (l.map Prod.fst).Nodup) :
    ((put k v l).map Prod.fst).Nodup := by
  rw [map_fst_put]
  split
  · exact h
  · rename_i hk
    refine List.nodup_append.2 ⟨h, List.nodup_cons.2 ⟨List.not_mem_nil, List.nodup_nil⟩, ?_⟩
    intro a ha b hb
    rw [List.mem_singleton.1 hb]
    exact fun he => hk (he ▸ ha)

theorem find?_put (k k' : κ) (v : ν) (l : List (κ × ν)) :
    find? k' (put k v l) = if k' = k then some v else find? k' l := by
  induction l with
  | nil => rfl
  | cons e rest ih =>
    by_cases he : k = e.1
    · by_cases h : k' = k
      · simp [put, find?, ← he, h]
      · simp [put, find?, ← he, h]
    · by_cases h : k' = e.1
      · have hk : k' ≠ k := fun hk => he (hk ▸ h)
        simp only [put, if_neg he, find?, if_pos h, if_neg hk]
      · simp only [put, if_neg he, find?, if_neg h, ih]

theorem find?_drop (k k' : κ) (l : List (κ × ν)) :
    find? k' (drop k l) = if k' = k then none else find? k' l := by
  induction l with
  | nil => simp [drop, find?]
  | cons e rest ih =>
    by_cases he : e.1 = k
    · have hd : drop k (e :: rest) = drop k rest := by simp [drop, he]
      rw [hd, ih]
      by_cases h : k' = k
      · rw [if_pos h, if_pos h]
      · rw [if_neg h, if_neg h, find?, if_neg (fun hk => h (hk.trans he))]
    · have hd : drop k (e :: rest) = e :: drop k rest := by simp [drop, he]
      rw [hd, find?, ih, find?]
      by_cases h : k' = e.1
      · have hk : k' ≠ k := fun hk => he (h.symm.trans hk)
        rw [if_pos h, if_pos h, if_neg hk]
      · rw [if_neg h, if_neg h]

/-! ## Views -/

/-- The keys in the order in which they came in. -/
def keys (d : Dict κ ν) : List κ := d.entries.map Prod.fst

/-- The number of entries. -/
def size (d : Dict κ ν) : Nat := d.entries.length

/-- The value of a key. -/
def get? (k : κ) (d : Dict κ ν) : Option ν := find? k d.entries

/-- Whether a key has a value. -/
def contains (k : κ) (d : Dict κ ν) : Bool := (d.get? k).isSome

/-! ## Changes -/

/-- Gives a key a value. -/
def insert (k : κ) (v : ν) (d : Dict κ ν) : Dict κ ν := ⟨put k v d.entries, nodup_put d.nodup_keys⟩

/-- Gives a key a value unless it has one. -/
def insertNew (k : κ) (v : ν) (d : Dict κ ν) : Dict κ ν := if d.contains k then d else d.insert k v

/-- Takes a key and its value away. -/
def erase (k : κ) (d : Dict κ ν) : Dict κ ν :=
  ⟨drop k d.entries, d.nodup_keys.sublist (List.filter_sublist.map _)⟩

/-- The map of a list of entries; of entries with one key the last counts. -/
def ofList (entries : List (κ × ν)) : Dict κ ν := entries.foldl (fun d (k, v) => d.insert k v) empty

theorem get?_insert (k k' : κ) (v : ν) (d : Dict κ ν) :
    (d.insert k v).get? k' = if k' = k then some v else d.get? k' :=
  find?_put k k' v d.entries

theorem get?_erase (k k' : κ) (d : Dict κ ν) :
    (d.erase k).get? k' = if k' = k then none else d.get? k' :=
  find?_drop k k' d.entries

theorem get?_insertNew (k k' : κ) (v : ν) (d : Dict κ ν) :
    (d.insertNew k v).get? k' = if k' = k ∧ d.get? k = none then some v else d.get? k' := by
  unfold insertNew contains
  cases h : d.get? k with
  | some w => simp
  | none =>
    rw [if_neg (by simp), get?_insert]
    simp

end Dict

end FormRules
