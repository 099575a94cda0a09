import FormRules.Proofs.Document.Runs
import Mathlib.Data.List.Sort
import Mathlib.Logic.Relation

/-!
# Documents as trees

The nodes of a document are numbered in document order when each hangs under the node in front of
it or under one of the nodes above that one. From this one condition follows all that is said of the
tree: what is under a node comes directly behind it, and the walk from the root meets the nodes by
their numbers.

* `Ordered`: the condition. It is a matter of the shape, which no change touches.
* `mem_ancestors_iff`: the nodes above a node are reached by going from parent to parent.
* `mem_ancestors_of_le`: what is under a node comes directly behind it, without a gap.
* `mem_below`, `pairwise_below`: the nodes under a node are those that it is above, by number.
* `root_cons_below`: the walk from the root.
-/

namespace FormRules.Document

/-- The nodes are numbered in document order, and the root is no element. -/
structure Ordered (d : Document) : Prop where
  size_pos : 0 < d.size
  parent?_root : d.parent? root = none
  element?_root : d.element? root = none
  parent?_succ : ∀ n, n + 1 < d.size →
    ∃ p, d.parent? (n + 1) = some p ∧ (p = n ∨ p ∈ d.ancestors n)

/-- In a list that is in order a search finds the first of what it looks for. -/
theorem find?_eq_some_iff_of_pairwise {α : Type} {r : α → α → Prop}
    (hr : ∀ a b, r a b → ¬ r b a) {l : List α} (hl : l.Pairwise r) {p : α → Bool} {a : α} :
    l.find? p = some a ↔ a ∈ l ∧ p a = true ∧ ∀ b ∈ l, p b = true → b = a ∨ r a b := by
  have hfirst : ∀ {a}, l.find? p = some a → ∀ b ∈ l, p b = true → b = a ∨ r a b := by
    intro a ha b hb hpb
    obtain ⟨-, front, back, hsplit, hfront⟩ := List.find?_eq_some_iff_append.1 ha
    rw [hsplit] at hb hl
    rw [List.mem_append, List.mem_cons] at hb
    obtain hb | hb | hb := hb
    · have hnot := hfront b hb
      rw [hpb] at hnot
      cases hnot
    · exact .inl hb
    · exact .inr ((List.pairwise_cons.1 (List.pairwise_append.1 hl).2.1).1 b hb)
  constructor
  · intro ha
    exact ⟨List.mem_of_find?_eq_some ha, List.find?_some ha, hfirst ha⟩
  · rintro ⟨hmem, hpa, hleast⟩
    have hsome : (l.find? p).isSome = true := List.find?_isSome.2 ⟨a, hmem, hpa⟩
    obtain ⟨c, hc⟩ := Option.isSome_iff_exists.1 hsome
    rw [hc]
    obtain hca | hac := hleast c (List.mem_of_find?_eq_some hc) (List.find?_some hc)
    · rw [hca]
    · obtain hac' | hca := hfirst hc a hmem hpa
      · rw [hac']
      · exact absurd hca (hr a c hac)

/-- In a list of numbers in order a search finds the least of those it looks for. -/
theorem find?_eq_some_iff_of_increasing {l : List Nat} (hl : l.Pairwise (· < ·)) {p : Nat → Bool}
    {a : Nat} : l.find? p = some a ↔ a ∈ l ∧ p a = true ∧ ∀ b ∈ l, p b = true → a ≤ b := by
  rw [find?_eq_some_iff_of_pairwise (fun _ _ => Nat.lt_asymm) hl]
  simp only [Nat.le_iff_lt_or_eq, or_comm, eq_comm]

variable {d d' : Document}

/-! ## Parents and ancestors -/

theorem lt_size_of_parent? {n p : Nat} (h : d.parent? n = some p) : n < d.size := by
  by_contra hn
  rw [parent?, Array.getElem?_eq_none (Nat.le_of_not_lt hn)] at h
  cases h

theorem lt_size_of_mem_ancestors {a n : Nat} (h : a ∈ d.ancestors n) : n < d.size := by
  cases hp : d.parent? n with
  | none =>
    rw [ancestors, hp] at h
    cases h
  | some p => exact lt_size_of_parent? hp

theorem lt_size_of_isElement {n : Nat} (h : d.isElement n = true) : n < d.size := by
  by_contra hn
  obtain ⟨e, he⟩ := isElement_iff.1 h
  rw [element?, content?, Array.getElem?_eq_none (Nat.le_of_not_lt hn)] at he
  cases he

theorem ancestors_of_none {n : Nat} (h : d.parent? n = none) : d.ancestors n = [] := by
  rw [ancestors, h]

theorem ancestors_of_some {n p : Nat} (h : d.parent? n = some p) (hp : p < n) :
    d.ancestors n = p :: d.ancestors p := by
  rw [ancestors, h]
  simp only [hp, dite_true]

theorem lt_of_mem_ancestors {a n : Nat} (h : a ∈ d.ancestors n) : a < n := by
  induction n using Nat.strongRecOn with
  | ind n ih =>
    cases hp : d.parent? n with
    | none =>
      rw [ancestors_of_none hp] at h
      cases h
    | some p =>
      rw [ancestors, hp] at h
      by_cases hlt : p < n
      · simp only [hlt, dite_true, List.mem_cons] at h
        obtain rfl | h := h
        · exact hlt
        · exact Nat.lt_trans (ih p hlt h) hlt
      · simp only [hlt, dite_false] at h
        cases h

theorem mem_ancestors_trans {a b n : Nat} (ha : a ∈ d.ancestors b) (hb : b ∈ d.ancestors n) :
    a ∈ d.ancestors n := by
  induction n using Nat.strongRecOn with
  | ind n ih =>
    cases hp : d.parent? n with
    | none =>
      rw [ancestors_of_none hp] at hb
      cases hb
    | some p =>
      rw [ancestors, hp] at hb ⊢
      by_cases hlt : p < n
      · simp only [hlt, dite_true, List.mem_cons] at hb ⊢
        obtain rfl | hb := hb
        · exact .inr ha
        · exact .inr (ih p hlt hb)
      · simp only [hlt, dite_false] at hb
        cases hb

theorem pairwise_children (d : Document) (n : Nat) : (d.children n).Pairwise (· < ·) := by
  rw [children]
  exact List.Pairwise.filter _ (List.pairwise_lt_range' ..)

namespace Ordered

/-- A parent has the smaller number. -/
theorem lt_of_parent? (h : d.Ordered) {n p : Nat} (hp : d.parent? n = some p) : p < n := by
  cases n with
  | zero =>
    have hroot : d.parent? 0 = none := h.parent?_root
    rw [hroot] at hp
    cases hp
  | succ n =>
    obtain ⟨q, hq, hqn⟩ := h.parent?_succ n (lt_size_of_parent? hp)
    obtain rfl := Option.some.inj (hp.symm.trans hq)
    obtain rfl | hqn := hqn
    · exact Nat.lt_succ_self _
    · exact Nat.lt_succ_of_lt (lt_of_mem_ancestors hqn)

theorem ancestors_eq (h : d.Ordered) {n p : Nat} (hp : d.parent? n = some p) :
    d.ancestors n = p :: d.ancestors p :=
  ancestors_of_some hp (h.lt_of_parent? hp)

theorem exists_parent? (h : d.Ordered) {n : Nat} (hn : n < d.size) (hroot : n ≠ root) :
    ∃ p, d.parent? n = some p := by
  cases n with
  | zero => exact absurd rfl hroot
  | succ n =>
    obtain ⟨p, hp, -⟩ := h.parent?_succ n hn
    exact ⟨p, hp⟩

/-- The root is above every other node. -/
theorem root_mem_ancestors (h : d.Ordered) {n : Nat} (hn : n < d.size) (hroot : n ≠ root) :
    root ∈ d.ancestors n := by
  induction n using Nat.strongRecOn with
  | ind n ih =>
    obtain ⟨p, hp⟩ := h.exists_parent? hn hroot
    have hpn : p < n := h.lt_of_parent? hp
    rw [h.ancestors_eq hp, List.mem_cons]
    by_cases hpr : p = root
    · exact .inl hpr.symm
    · exact .inr (ih p hpn (Nat.lt_trans hpn hn) hpr)

/-- The nodes above a node are those that are reached by going from parent to parent. -/
theorem mem_ancestors_iff (h : d.Ordered) {a n : Nat} :
    a ∈ d.ancestors n ↔ Relation.TransGen (fun m p => d.parent? m = some p) n a := by
  constructor
  · intro ha
    induction n using Nat.strongRecOn with
    | ind n ih =>
      cases hp : d.parent? n with
      | none =>
        rw [ancestors_of_none hp] at ha
        cases ha
      | some p =>
        rw [h.ancestors_eq hp, List.mem_cons] at ha
        obtain rfl | ha := ha
        · exact .single hp
        · exact .head hp (ih p (h.lt_of_parent? hp) ha)
  · intro ha
    induction ha with
    | single hp =>
      rw [h.ancestors_eq hp]
      exact List.mem_cons_self
    | tail _ hp ih =>
      apply mem_ancestors_trans _ ih
      rw [h.ancestors_eq hp]
      exact List.mem_cons_self

/-- What is under a node comes directly behind it, without a gap. -/
theorem mem_ancestors_of_le (h : d.Ordered) {a k m : Nat} (ha : a ∈ d.ancestors m) (hak : a < k)
    (hkm : k ≤ m) : a ∈ d.ancestors k := by
  induction m with
  | zero =>
    have := lt_of_mem_ancestors ha
    omega
  | succ m ih =>
    by_cases hk : k = m + 1
    · rw [hk]
      exact ha
    · -- The parent of `m + 1` is `m` or above `m`, and so `a`, which is not `m`, is above `m`.
      have hm : a ∈ d.ancestors m := by
        obtain ⟨p, hp, hpm⟩ := h.parent?_succ m (lt_size_of_mem_ancestors ha)
        rw [h.ancestors_eq hp, List.mem_cons] at ha
        obtain rfl | hpm := hpm
        · obtain rfl | ha := ha
          · omega
          · exact ha
        · obtain rfl | ha := ha
          · exact hpm
          · exact mem_ancestors_trans ha hpm
      exact ih hm (by omega)

/-! ## What is under a node -/

theorem mem_children (h : d.Ordered) {n c : Nat} : c ∈ d.children n ↔ d.parent? c = some n := by
  rw [Document.mem_children]
  constructor
  · rintro ⟨-, -, hc⟩
    exact hc
  · intro hc
    exact ⟨h.lt_of_parent? hc, lt_size_of_parent? hc, hc⟩

/-- On the way down from a node to one that is under it there is a child first. -/
theorem exists_child (h : d.Ordered) {x n : Nat} (hx : x ∈ d.ancestors n) :
    ∃ c, d.parent? c = some x ∧ (c = n ∨ c ∈ d.ancestors n) := by
  induction n using Nat.strongRecOn with
  | ind n ih =>
    cases hp : d.parent? n with
    | none =>
      rw [ancestors_of_none hp] at hx
      cases hx
    | some p =>
      rw [h.ancestors_eq hp, List.mem_cons] at hx
      obtain rfl | hx := hx
      · exact ⟨n, hp, .inl rfl⟩
      · obtain ⟨c, hc, hcp⟩ := ih p (h.lt_of_parent? hp) hx
        refine ⟨c, hc, .inr ?_⟩
        rw [h.ancestors_eq hp, List.mem_cons]
        exact hcp

/-- The nodes under a node are those that it is above. -/
theorem mem_below (h : d.Ordered) {x n : Nat} : n ∈ d.below x ↔ x ∈ d.ancestors n := by
  induction x using below.induct d with
  | case1 x ih =>
    rw [below_eq, List.mem_flatMap]
    constructor
    · rintro ⟨c, hc, hn⟩
      have hx : x ∈ d.ancestors c := by
        rw [h.ancestors_eq (h.mem_children.1 hc)]
        exact List.mem_cons_self
      rw [List.mem_cons, ih ⟨c, hc⟩] at hn
      obtain rfl | hn := hn
      · exact hx
      · exact mem_ancestors_trans hx hn
    · intro hx
      obtain ⟨c, hc, hcn⟩ := h.exists_child hx
      have hmem : c ∈ d.children x := h.mem_children.2 hc
      refine ⟨c, hmem, ?_⟩
      rw [List.mem_cons, ih ⟨c, hmem⟩]
      obtain rfl | hcn := hcn
      · exact .inl rfl
      · exact .inr hcn

/-- What is under a child of a node comes in front of the next child. -/
theorem lt_of_children (h : d.Ordered) {x c c' n : Nat} (hc : d.parent? c = some x)
    (hc' : d.parent? c' = some x) (hlt : c < c') (hn : n = c ∨ c ∈ d.ancestors n) : n < c' := by
  obtain rfl | hn := hn
  · exact hlt
  · by_contra hle
    -- Otherwise the child would be above the next one, whose parent it is not.
    have hmem : c ∈ d.ancestors c' := h.mem_ancestors_of_le hn hlt (Nat.le_of_not_lt hle)
    have hxc : x < c := h.lt_of_parent? hc
    rw [h.ancestors_eq hc', List.mem_cons] at hmem
    obtain rfl | hmem := hmem
    · exact Nat.lt_irrefl c hxc
    · have := lt_of_mem_ancestors hmem
      omega

/-- The walk under a node meets the nodes by their numbers. -/
theorem pairwise_below (h : d.Ordered) (x : Nat) : (d.below x).Pairwise (· < ·) := by
  induction x using below.induct d with
  | case1 x ih =>
    rw [below_eq, List.pairwise_flatMap]
    constructor
    · intro c hc
      rw [List.pairwise_cons]
      constructor
      · intro n hn
        exact lt_of_mem_ancestors (h.mem_below.1 hn)
      · exact ih ⟨c, hc⟩
    · apply List.Pairwise.imp_of_mem _ (pairwise_children d x)
      intro c c' hc hc' hlt n hn n' hn'
      have hpc : d.parent? c = some x := h.mem_children.1 hc
      have hpc' : d.parent? c' = some x := h.mem_children.1 hc'
      rw [List.mem_cons, h.mem_below] at hn hn'
      have hfront : n < c' := h.lt_of_children hpc hpc' hlt hn
      obtain rfl | hn' := hn'
      · exact hfront
      · exact Nat.lt_trans hfront (lt_of_mem_ancestors hn')

/-- **Document order.** The walk from the root meets all nodes, by their numbers. -/
theorem root_cons_below (h : d.Ordered) : root :: d.below root = List.range d.size := by
  have hmem : ∀ n, n ∈ root :: d.below root ↔ n ∈ List.range d.size := by
    intro n
    rw [List.mem_cons, h.mem_below, List.mem_range]
    constructor
    · rintro (rfl | hn)
      · exact h.size_pos
      · exact lt_size_of_mem_ancestors hn
    · intro hn
      by_cases hroot : n = root
      · exact .inl hroot
      · exact .inr (h.root_mem_ancestors hn hroot)
  have hsorted : (root :: d.below root).Pairwise (· < ·) := by
    rw [List.pairwise_cons]
    constructor
    · intro n hn
      exact lt_of_mem_ancestors (h.mem_below.1 hn)
    · exact h.pairwise_below root
  exact hsorted.eq_of_mem_iff List.pairwise_lt_range hmem

theorem pairwise_descendants (h : d.Ordered) (x : Nat) : (d.descendants x).Pairwise (· < ·) :=
  (h.pairwise_below x).filter _

theorem mem_descendants (h : d.Ordered) {x n : Nat} :
    n ∈ d.descendants x ↔ d.isElement n = true ∧ x ∈ d.ancestors n := by
  rw [descendants, List.mem_filter, h.mem_below, and_comm]

/-- All elements are under the root. -/
theorem mem_descendants_root (h : d.Ordered) {n : Nat} :
    n ∈ d.descendants root ↔ d.isElement n = true := by
  rw [h.mem_descendants, and_iff_left_iff_imp]
  intro hn
  apply h.root_mem_ancestors (lt_size_of_isElement hn)
  rintro rfl
  rw [isElement, h.element?_root] at hn
  cases hn

/-! ## Changes -/

/-- The numbering is a matter of the shape. -/
theorem of_sameShape (h : d.Ordered) (hs : SameShape d d') : d'.Ordered where
  size_pos := by
    rw [hs.size]
    exact h.size_pos
  parent?_root := by
    rw [hs.parent?]
    exact h.parent?_root
  element?_root := by
    have hroot : d'.isElement root = false := by
      rw [hs.isElement, isElement, h.element?_root]
      rfl
    rw [isElement, Option.isSome_eq_false_iff, Option.isNone_iff_eq_none] at hroot
    exact hroot
  parent?_succ := by
    intro n hn
    rw [hs.parent?, hs.ancestors]
    rw [hs.size] at hn
    exact h.parent?_succ n hn

theorem run (h : d.Ordered) (changes : List Change) : (d.run changes).Ordered :=
  h.of_sameShape (sameShape_run d changes)

end Ordered

end FormRules.Document
