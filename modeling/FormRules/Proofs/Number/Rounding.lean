import FormRules.Binary64
import Mathlib.Data.Nat.Dist
import Mathlib.Tactic.Ring

/-!
# Rounding to the nearest number

A quotient is rounded to a count of 53 significant bits: of all counts with so many it becomes the
nearest, and of two that are equally near the one with an even significand. A count is rounded as
the quotient by one. Bits that come in behind a count, below all that it has, change how it is
rounded only when it was a tie that goes down.

* `grid`, `significand`, `roundDown`: a count stands between two places of a grid.
* `HasPrecision`, `HasPrecision.le_or_le`: between these no count has 53 significant bits.
* `IsNearestQuotient`, `isNearestQuotient_iff`: rounding gives the nearest count and nothing else
  does.
* `IsNearestCount`, `isNearestCount_iff`: the same for a count.
* `TieDown`, `roundUnits_append`: what bits behind a count do to its rounding.
* `IsNearest`, `IsNearestRatio`: the number next to a whole number, and next to a quotient.
-/

namespace FormRules.Binary64

/-! ## Grids -/

/-- The distance of the counts of 53 significant bits around a count. -/
def grid (n : Nat) : Nat := 2 ^ dropBits n

/-- The 53 highest bits of a count, or all if it has no more. -/
def significand (n : Nat) : Nat := n / grid n

theorem grid_pos (n : Nat) : 0 < grid n := Nat.two_pow_pos _

theorem dropBits_eq {n k : Nat} (hlow : 2 ^ 52 * 2 ^ k ≤ n) (hhigh : n < 2 ^ 53 * 2 ^ k) :
    dropBits n = k := by
  have hpos : 0 < 2 ^ 52 * 2 ^ k := by
    rw [← Nat.pow_add]
    exact Nat.two_pow_pos _
  have hlog : n.log2 = 52 + k := by
    rw [Nat.log2_eq_iff (by omega), Nat.pow_add, Nat.add_right_comm, Nat.pow_add]
    exact ⟨hlow, hhigh⟩
  rw [dropBits, hlog]
  omega

theorem grid_eq {n k : Nat} (hlow : 2 ^ 52 * 2 ^ k ≤ n) (hhigh : n < 2 ^ 53 * 2 ^ k) :
    grid n = 2 ^ k := by
  rw [grid, dropBits_eq hlow hhigh]

theorem dropBits_of_lt {n : Nat} (h : n < 2 ^ 53) : dropBits n = 0 := by
  rw [dropBits]
  by_cases hn : n = 0
  · rw [hn]
    rfl
  · have hlog : n.log2 < 53 := (Nat.log2_lt hn).2 h
    omega

theorem grid_of_lt {n : Nat} (h : n < 2 ^ 53) : grid n = 1 := by
  rw [grid, dropBits_of_lt h, Nat.pow_zero]

/-- A count with more than 53 bits lies in the binade of its grid. -/
theorem exists_grid {n : Nat} (h : 2 ^ 53 ≤ n) :
    ∃ k, grid n = 2 ^ (k + 1) ∧ 2 ^ 52 * grid n ≤ n ∧ n < 2 ^ 53 * grid n := by
  have hn : n ≠ 0 := by omega
  have hlog : 53 ≤ n.log2 := (Nat.le_log2 hn).2 h
  have hgrid : grid n = 2 ^ (n.log2 - 53 + 1) := by
    rw [grid, dropBits]
    congr 1
    omega
  refine ⟨n.log2 - 53, hgrid, ?_, ?_⟩
  · rw [hgrid, ← Nat.pow_add]
    have hexp : 52 + (n.log2 - 53 + 1) = n.log2 := by omega
    rw [hexp]
    exact Nat.log2_self_le hn
  · rw [hgrid, ← Nat.pow_add]
    have hexp : 53 + (n.log2 - 53 + 1) = n.log2 + 1 := by omega
    rw [hexp]
    exact Nat.lt_log2_self

theorem significand_lt (n : Nat) : significand n < 2 ^ 53 := by
  rw [significand, Nat.div_lt_iff_lt_mul (grid_pos n)]
  by_cases h : n < 2 ^ 53
  · rwa [grid_of_lt h, Nat.mul_one]
  · obtain ⟨-, -, -, hhigh⟩ := exists_grid (Nat.le_of_not_lt h)
    exact hhigh

theorem le_significand {n : Nat} (h : 2 ^ 53 ≤ n) : 2 ^ 52 ≤ significand n := by
  obtain ⟨-, -, hlow, -⟩ := exists_grid h
  rwa [significand, Nat.le_div_iff_mul_le (grid_pos n)]

/-- The highest place of its grid that is not above a count. -/
def roundDown (n : Nat) : Nat := significand n * grid n

/-- A count stands at a place of its grid or above, and below the next one. -/
theorem roundDown_add (n : Nat) : roundDown n + n % grid n = n := by
  rw [roundDown, significand, Nat.mul_comm]
  exact Nat.div_add_mod n (grid n)

theorem mod_grid_lt (n : Nat) : n % grid n < grid n := Nat.mod_lt _ (grid_pos n)

theorem roundDown_add_grid (n : Nat) : roundDown n + grid n = (significand n + 1) * grid n :=
  (Nat.succ_mul _ _).symm

/-- The significands of the two places around a count. The upper one may begin the next binade. -/
theorem significand_places (n : Nat) :
    significand (roundDown n) = significand n ∧
      significand (roundDown n + grid n) % 2 = (significand n + 1) % 2 := by
  have hhigh : significand n < 2 ^ 53 := significand_lt n
  have hlow : dropBits n = 0 ∨ 2 ^ 52 ≤ significand n := by
    by_cases h : n < 2 ^ 53
    · exact .inl (dropBits_of_lt h)
    · exact .inr (le_significand (Nat.le_of_not_lt h))
  have hplace : ∀ q < 2 ^ 53, dropBits n = 0 ∨ 2 ^ 52 ≤ q → significand (q * grid n) = q := by
    rintro q hq (hdrop | hq')
    · rw [grid, hdrop, Nat.pow_zero, Nat.mul_one, significand, grid_of_lt hq, Nat.div_one]
    · have hsame : grid (q * grid n) = grid n := by
        apply grid_eq
        · exact Nat.mul_le_mul_right _ hq'
        · exact Nat.mul_lt_mul_of_pos_right hq (grid_pos n)
      rw [significand, hsame, Nat.mul_div_cancel _ (grid_pos n)]
  refine ⟨hplace _ hhigh hlow, ?_⟩
  rw [roundDown_add_grid]
  by_cases hlast : significand n + 1 < 2 ^ 53
  · rw [hplace _ hlast (hlow.imp_right Nat.le_succ_of_le)]
  · have hnext : (significand n + 1) * grid n = 2 ^ 52 * 2 ^ (dropBits n + 1) := by
      have hq : significand n + 1 = 2 ^ 53 := by omega
      rw [hq, grid, ← Nat.pow_add, ← Nat.pow_add]
      congr 1
      omega
    have hsame : grid (2 ^ 52 * 2 ^ (dropBits n + 1)) = 2 ^ (dropBits n + 1) := by
      apply grid_eq (Nat.le_refl _)
      exact Nat.mul_lt_mul_of_pos_right (by omega) (Nat.two_pow_pos _)
    rw [hnext, significand, hsame, Nat.mul_div_cancel _ (Nat.two_pow_pos _)]
    omega

/-! ## Counts with 53 significant bits -/

/-- A count that 53 significant bits hold. -/
def HasPrecision (u : Nat) : Prop := ∃ m e, m < 2 ^ 53 ∧ u = m * 2 ^ e

theorem hasPrecision_two_pow (e : Nat) : HasPrecision (2 ^ e) :=
  ⟨1, e, by omega, (Nat.one_mul _).symm⟩

theorem hasPrecision_of_le {n : Nat} (h : n ≤ 2 ^ 53) : HasPrecision n := by
  obtain h | rfl := Nat.lt_or_eq_of_le h
  · exact ⟨n, 0, h, by omega⟩
  · exact hasPrecision_two_pow 53

theorem HasPrecision.mul_two_pow {u : Nat} (h : HasPrecision u) (s : Nat) :
    HasPrecision (u * 2 ^ s) := by
  obtain ⟨m, e, hm, rfl⟩ := h
  exact ⟨m, e + s, hm, by rw [Nat.pow_add, Nat.mul_assoc]⟩

theorem hasPrecision_roundDown (n : Nat) : HasPrecision (roundDown n) :=
  (hasPrecision_of_le (Nat.le_of_lt (significand_lt n))).mul_two_pow (dropBits n)

theorem hasPrecision_roundDown_add_grid (n : Nat) : HasPrecision (roundDown n + grid n) := by
  rw [roundDown_add_grid]
  exact (hasPrecision_of_le (significand_lt n)).mul_two_pow (dropBits n)

/-- Between the two places of the grid around a count no other one has 53 significant bits. -/
theorem HasPrecision.le_or_le {v : Nat} (hv : HasPrecision v) (n : Nat) :
    v ≤ roundDown n ∨ roundDown n + grid n ≤ v := by
  by_cases h : n < 2 ^ 53
  · rw [roundDown, significand, grid_of_lt h]
    omega
  · obtain ⟨m, e, hm, rfl⟩ := hv
    have hn : 2 ^ 53 ≤ n := Nat.le_of_not_lt h
    obtain ⟨k, hgrid, -, -⟩ := exists_grid hn
    by_cases he : k + 1 ≤ e
    · -- A count of at least the grid's exponent stands on the grid.
      have hmul : m * 2 ^ e = m * 2 ^ (e - (k + 1)) * grid n := by
        rw [hgrid, Nat.mul_assoc, ← Nat.pow_add, Nat.sub_add_cancel he]
      rw [hmul, roundDown_add_grid]
      obtain hlt | hle := Nat.lt_or_ge (significand n) (m * 2 ^ (e - (k + 1)))
      · exact .inr (Nat.mul_le_mul_right _ hlt)
      · exact .inl (Nat.mul_le_mul_right _ hle)
    · -- A count of a smaller exponent stands below the binade.
      left
      have hfine : 2 ^ e ≤ 2 ^ k := Nat.pow_le_pow_right (by omega) (by omega)
      have hplace : 2 ^ 52 * 2 ^ (k + 1) ≤ roundDown n := by
        rw [roundDown, hgrid]
        exact Nat.mul_le_mul_right _ (le_significand hn)
      have hcount : m * 2 ^ e ≤ 2 ^ 53 * 2 ^ k := Nat.mul_le_mul (by omega) hfine
      rw [Nat.pow_succ] at hplace
      omega

theorem HasPrecision.le_roundDown {v n : Nat} (hv : HasPrecision v) (h : v ≤ n) :
    v ≤ roundDown n := by
  have hsum := roundDown_add n
  have hrest := mod_grid_lt n
  obtain hle | hle := hv.le_or_le n <;> omega

/-! ## The nearest count to a quotient -/

section Quotient

variable {num den u : Nat}

/-- The distance of the two places around a quotient, in parts of the denominator. -/
def cell (num den : Nat) : Nat := den * grid (num / den)

/-- A quotient stands at a place of its grid or above, and below the next one. -/
theorem roundDown_mul_add (num den : Nat) :
    roundDown (num / den) * den + num % cell num den = num := by
  have hplace : roundDown (num / den) * den = cell num den * (num / cell num den) := by
    rw [roundDown, significand, cell, Nat.div_div_eq_div_mul]
    ring
  rw [hplace, Nat.div_add_mod]

theorem mod_cell_lt (hden : 0 < den) (num : Nat) : num % cell num den < cell num den :=
  Nat.mod_lt _ (Nat.mul_pos hden (grid_pos _))

theorem roundDown_add_grid_mul (num den : Nat) :
    (roundDown (num / den) + grid (num / den)) * den =
      roundDown (num / den) * den + cell num den := by
  rw [Nat.add_mul, cell, Nat.mul_comm den]

/-- A quotient goes up to the next place of its grid: it is nearer, or the quotient is a tie above
an odd place. -/
def GoesUp (num den : Nat) : Prop :=
  cell num den < 2 * (num % cell num den) ∨
    2 * (num % cell num den) = cell num den ∧ significand (num / den) % 2 = 1

instance (num den : Nat) : Decidable (GoesUp num den) := inferInstanceAs (Decidable (_ ∨ _))

theorem roundUnits_eq (num den : Nat) :
    roundUnits num den =
      if GoesUp num den then roundDown (num / den) + grid (num / den)
      else roundDown (num / den) := by
  have hfloor : num / cell num den = significand (num / den) := by
    rw [cell, significand, Nat.div_div_eq_div_mul]
  have hgrid : roundUnits num den = roundHalfEven num (cell num den) * grid (num / den) := rfl
  have hup : roundHalfEven num (cell num den) =
      if GoesUp num den then significand (num / den) + 1 else significand (num / den) := by
    by_cases h : GoesUp num den
    · rw [if_pos h]
      simp only [GoesUp] at h
      simp only [roundHalfEven, hfloor]
      split_ifs <;> omega
    · rw [if_neg h]
      simp only [GoesUp] at h
      simp only [roundHalfEven, hfloor]
      split_ifs <;> omega
  rw [hgrid, hup]
  split_ifs
  · exact (roundDown_add_grid _).symm
  · rfl

/-- The nearest of all counts with 53 significant bits to a quotient, measured in parts of the
denominator; of two that are equally near, the one with an even significand. -/
structure IsNearestQuotient (num den u : Nat) : Prop where
  precise : HasPrecision u
  nearest : ∀ v, HasPrecision v → Nat.dist num (u * den) ≤ Nat.dist num (v * den)
  even : ∀ v, HasPrecision v → v ≠ u → Nat.dist num (v * den) = Nat.dist num (u * den) →
    significand u % 2 = 0

/-- A count is one of the two places around a quotient, or it is further away than the one on its
side. -/
theorem HasPrecision.eq_or_lt {v : Nat} (hv : HasPrecision v) (hden : 0 < den) (n : Nat) :
    v = roundDown n ∨ v = roundDown n + grid n ∨ v * den < roundDown n * den ∨
      (roundDown n + grid n) * den < v * den := by
  rw [Nat.mul_lt_mul_right hden, Nat.mul_lt_mul_right hden]
  obtain h | h := hv.le_or_le n <;> omega

/-- **Rounding gives the nearest count** to a quotient, and no other count is the nearest. -/
theorem isNearestQuotient_iff (hden : 0 < den) :
    IsNearestQuotient num den u ↔ u = roundUnits num den := by
  have hsum := roundDown_mul_add num den
  have hrest := mod_cell_lt hden num
  have hnext := roundDown_add_grid_mul num den
  have hlow := hasPrecision_roundDown (num / den)
  have hhigh := hasPrecision_roundDown_add_grid (num / den)
  have hgrid := grid_pos (num / den)
  obtain ⟨hbelow, habove⟩ := significand_places (num / den)
  rw [roundUnits_eq]
  constructor
  · intro h
    have hnear := h.nearest _ hlow
    have hnear' := h.nearest _ hhigh
    simp only [Nat.dist] at hnear hnear'
    obtain rfl | rfl | hfar | hfar := h.precise.eq_or_lt hden (num / den)
    · have htie := h.even _ hhigh (by omega)
      simp only [Nat.dist] at htie
      rw [if_neg]
      rintro (hup | ⟨hup, hodd⟩) <;> omega
    · have htie := h.even _ hlow (by omega)
      simp only [Nat.dist] at htie
      rw [if_pos]
      simp only [GoesUp]
      omega
    · omega
    · omega
  · rintro rfl
    by_cases hup : GoesUp num den
    · rw [if_pos hup]
      simp only [GoesUp] at hup
      refine ⟨hhigh, ?_, ?_⟩
      · intro v hv
        simp only [Nat.dist]
        obtain rfl | rfl | hfar | hfar := hv.eq_or_lt hden (num / den) <;> omega
      · intro v hv hne heq
        simp only [Nat.dist] at heq
        obtain rfl | rfl | hfar | hfar := hv.eq_or_lt hden (num / den) <;> omega
    · rw [if_neg hup]
      simp only [GoesUp, not_or, not_and] at hup
      refine ⟨hlow, ?_, ?_⟩
      · intro v hv
        simp only [Nat.dist]
        obtain rfl | rfl | hfar | hfar := hv.eq_or_lt hden (num / den) <;> omega
      · intro v hv hne heq
        simp only [Nat.dist] at heq
        obtain rfl | rfl | hfar | hfar := hv.eq_or_lt hden (num / den) <;> omega

end Quotient

/-! ## The nearest count to a count -/

/-- A count goes up to the next place of its grid: it is nearer, or the count is a tie above an odd
place. -/
def RoundsUp (n : Nat) : Prop :=
  grid n < 2 * (n % grid n) ∨ 2 * (n % grid n) = grid n ∧ significand n % 2 = 1

/-- A count is a tie that goes down: it stands half way above an even place of its grid. -/
def TieDown (n : Nat) : Prop := 2 * (n % grid n) = grid n ∧ significand n % 2 = 0

instance (n : Nat) : Decidable (RoundsUp n) := inferInstanceAs (Decidable (_ ∨ _))

instance (n : Nat) : Decidable (TieDown n) := inferInstanceAs (Decidable (_ ∧ _))

/-- A count that has no more than 53 bits is no tie. -/
theorem le_of_tie {n : Nat} (h : 2 * (n % grid n) = grid n) : 2 ^ 53 ≤ n := by
  by_contra hn
  rw [grid_of_lt (Nat.lt_of_not_le hn)] at h
  omega

theorem HasPrecision.not_tieDown {n : Nat} (h : HasPrecision n) : ¬ TieDown n := by
  rintro ⟨hhalf, -⟩
  have hplace : n ≤ roundDown n := h.le_roundDown (Nat.le_refl n)
  have hsum := roundDown_add n
  have hpos := grid_pos n
  omega

theorem TieDown.lt {n : Nat} (h : TieDown n) : 2 ^ 53 < n := by
  have hle : 2 ^ 53 ≤ n := le_of_tie h.1
  have hne : n ≠ 2 ^ 53 := by
    rintro rfl
    exact (hasPrecision_two_pow 53).not_tieDown h
  omega

theorem TieDown.not_roundsUp {n : Nat} (h : TieDown n) : ¬ RoundsUp n := by
  obtain ⟨hhalf, heven⟩ := h
  rintro (hup | hup) <;> omega

theorem goesUp_one {n : Nat} : GoesUp n 1 ↔ RoundsUp n := by
  rw [GoesUp, RoundsUp, cell, Nat.div_one, Nat.one_mul]

theorem roundUnits_one (n : Nat) :
    roundUnits n 1 = roundDown n + if RoundsUp n then grid n else 0 := by
  simp only [roundUnits_eq, goesUp_one, Nat.div_one]
  split_ifs <;> rfl

theorem roundDown_le_roundUnits (n : Nat) : roundDown n ≤ roundUnits n 1 := by
  rw [roundUnits_one]
  exact Nat.le_add_right _ _

theorem hasPrecision_roundUnits (n : Nat) : HasPrecision (roundUnits n 1) := by
  rw [roundUnits_one]
  split_ifs
  · exact hasPrecision_roundDown_add_grid n
  · exact hasPrecision_roundDown n

/-- The nearest of all counts with 53 significant bits; of two that are equally near, the one with
an even significand. -/
structure IsNearestCount (n u : Nat) : Prop where
  precise : HasPrecision u
  nearest : ∀ v, HasPrecision v → Nat.dist n u ≤ Nat.dist n v
  even : ∀ v, HasPrecision v → v ≠ u → Nat.dist n v = Nat.dist n u → significand u % 2 = 0

/-- Rounding gives the nearest count, and no other count is the nearest. -/
theorem isNearestCount_iff {n u : Nat} : IsNearestCount n u ↔ u = roundUnits n 1 := by
  rw [← isNearestQuotient_iff Nat.one_pos]
  constructor
  · rintro ⟨hprecise, hnearest, heven⟩
    exact ⟨hprecise, by simpa only [Nat.mul_one], by simpa only [Nat.mul_one]⟩
  · rintro ⟨hprecise, hnearest, heven⟩
    simp only [Nat.mul_one] at hnearest heven
    exact ⟨hprecise, hnearest, heven⟩

theorem roundUnits_of_hasPrecision {n : Nat} (h : HasPrecision n) : roundUnits n 1 = n := by
  refine (isNearestCount_iff.1 ⟨h, ?_, ?_⟩).symm
  · intro v _
    rw [Nat.dist_self]
    exact Nat.zero_le _
  · intro v _ hne heq
    rw [Nat.dist_self] at heq
    exact absurd (Nat.eq_of_dist_eq_zero heq).symm hne

/-! ## Bits behind a count -/

section Append

variable {n s low : Nat}

/-- Bits behind a count that has more than 53 move its grid and leave its significand. -/
theorem grid_append (h : 2 ^ 53 ≤ n) (hlow : low < 2 ^ s) :
    grid (n * 2 ^ s + low) = grid n * 2 ^ s ∧ significand (n * 2 ^ s + low) = significand n ∧
      (n * 2 ^ s + low) % grid (n * 2 ^ s + low) = n % grid n * 2 ^ s + low := by
  obtain ⟨k, hgrid, hbelow, habove⟩ := exists_grid h
  have hshift : grid (n * 2 ^ s + low) = grid n * 2 ^ s := by
    rw [hgrid] at hbelow habove ⊢
    rw [← Nat.pow_add]
    apply grid_eq
    · rw [Nat.pow_add, ← Nat.mul_assoc]
      have := Nat.mul_le_mul_right (2 ^ s) hbelow
      omega
    · rw [Nat.pow_add, ← Nat.mul_assoc]
      have := Nat.mul_le_mul_right (2 ^ s) (Nat.succ_le_of_lt habove)
      rw [Nat.succ_mul] at this
      omega
  have hdiv : (n * 2 ^ s + low) / 2 ^ s = n := by
    rw [Nat.mul_comm, Nat.mul_add_div (Nat.two_pow_pos s), Nat.div_eq_of_lt hlow, Nat.add_zero]
  have hmod : (n * 2 ^ s + low) % 2 ^ s = low := by
    rw [Nat.mul_comm, Nat.mul_add_mod, Nat.mod_eq_of_lt hlow]
  refine ⟨hshift, ?_, ?_⟩
  · rw [significand, hshift, Nat.mul_comm (grid n), ← Nat.div_div_eq_div_mul, hdiv, significand]
  · rw [hshift, Nat.mul_comm (grid n), Nat.mod_mul, hdiv, hmod]
    ring

theorem roundDown_append (h : 2 ^ 53 ≤ n) (hlow : low < 2 ^ s) :
    roundDown (n * 2 ^ s + low) = roundDown n * 2 ^ s := by
  obtain ⟨hshift, hsignificand, -⟩ := grid_append h hlow
  rw [roundDown, roundDown, hshift, hsignificand, Nat.mul_assoc]

/-- What stands behind decides the comparison only of what is equal in front. -/
theorem mul_compare_mul_add {a b m : Nat} (hlow : low < m) :
    (a * m < b * m + low ↔ a < b ∨ a = b ∧ low ≠ 0) ∧ (b * m + low = a * m ↔ b = a ∧ low = 0) := by
  obtain hless | rfl | hmore := Nat.lt_trichotomy a b
  · have := Nat.mul_le_mul_right m (Nat.succ_le_of_lt hless)
    rw [Nat.succ_mul] at this
    omega
  · omega
  · have := Nat.mul_le_mul_right m (Nat.succ_le_of_lt hmore)
    rw [Nat.succ_mul] at this
    omega

/-- What a count with bits behind it leaves over, against half of its grid. -/
theorem rest_append (h : 2 ^ 53 ≤ n) (hlow : low < 2 ^ s) :
    (grid (n * 2 ^ s + low) < 2 * ((n * 2 ^ s + low) % grid (n * 2 ^ s + low)) ↔
      grid n < 2 * (n % grid n) ∨ 2 * (n % grid n) = grid n ∧ low ≠ 0) ∧
    (2 * ((n * 2 ^ s + low) % grid (n * 2 ^ s + low)) = grid (n * 2 ^ s + low) ↔
      2 * (n % grid n) = grid n ∧ low = 0) := by
  obtain ⟨k, hgrid, -, -⟩ := exists_grid h
  obtain ⟨hshift, -, hrest⟩ := grid_append h hlow
  have hhalf : grid n = 2 * 2 ^ k := by rw [hgrid, Nat.pow_succ, Nat.mul_comm]
  obtain ⟨hless, hequal⟩ := mul_compare_mul_add (a := 2 ^ k) (b := n % (2 * 2 ^ k)) hlow
  rw [hrest, hshift, hhalf, Nat.mul_assoc]
  omega

/-- Bits behind a count make a tie that goes down go up, and change no other rounding. -/
theorem roundsUp_append (h : 2 ^ 53 ≤ n) (hlow : low < 2 ^ s) :
    RoundsUp (n * 2 ^ s + low) ↔ RoundsUp n ∨ TieDown n ∧ low ≠ 0 := by
  obtain ⟨hmore, htie⟩ := rest_append h hlow
  rw [RoundsUp, RoundsUp, TieDown, hmore, htie, (grid_append h hlow).2.1]
  have hparity := Nat.mod_two_eq_zero_or_one (significand n)
  omega

/-- A tie that goes down is one without the bits behind it. -/
theorem TieDown.of_append (h : 2 ^ 53 ≤ n) (hlow : low < 2 ^ s)
    (htie : TieDown (n * 2 ^ s + low)) : TieDown n := by
  rw [TieDown, (rest_append h hlow).2, (grid_append h hlow).2.1] at htie
  exact ⟨htie.1.1, htie.2⟩

/-- **Bits behind a count.** A count is rounded as it is without the bits behind it, unless it is a
tie that goes down: then any bit behind it takes it up. -/
theorem roundUnits_append (h : 2 ^ 53 ≤ n) (hlow : low < 2 ^ s) :
    roundUnits (n * 2 ^ s + low) 1 =
      (if TieDown n ∧ low ≠ 0 then roundDown n + grid n else roundUnits n 1) * 2 ^ s := by
  rw [roundUnits_one, roundUnits_one, roundDown_append h hlow, (grid_append h hlow).1]
  by_cases htie : TieDown n ∧ low ≠ 0
  · rw [if_pos ((roundsUp_append h hlow).2 (.inr htie)), if_pos htie, Nat.add_mul]
  · have hsame : RoundsUp (n * 2 ^ s + low) ↔ RoundsUp n :=
      (roundsUp_append h hlow).trans (or_iff_left htie)
    rw [if_neg htie]
    simp only [hsame]
    split_ifs <;> ring

/-- A count whose lower bits are left out before it is rounded comes out the same, unless what is
left is a tie that goes down and they are not all zero: then it comes out one place below. -/
theorem roundUnits_front (h : 2 ^ 53 ≤ n / 2 ^ s) :
    (¬ (TieDown (n / 2 ^ s) ∧ n % 2 ^ s ≠ 0) →
      roundUnits (n / 2 ^ s) 1 * 2 ^ s = roundUnits n 1) ∧
    (TieDown (n / 2 ^ s) ∧ n % 2 ^ s ≠ 0 →
      roundUnits (n / 2 ^ s) 1 * 2 ^ s = roundDown n ∧ roundUnits n 1 = roundDown n + grid n) := by
  have hlow : n % 2 ^ s < 2 ^ s := Nat.mod_lt _ (Nat.two_pow_pos s)
  have hsplit : n / 2 ^ s * 2 ^ s + n % 2 ^ s = n := by
    rw [Nat.mul_comm]
    exact Nat.div_add_mod n _
  have hround := roundUnits_append h hlow
  have hdown := roundDown_append h hlow
  have hgrid := (grid_append h hlow).1
  rw [hsplit] at hround hdown hgrid
  rw [hround, hdown, hgrid]
  constructor
  · intro hfar
    rw [if_neg hfar]
  · intro htie
    rw [if_pos htie, roundUnits_one, if_neg htie.1.not_roundsUp, Nat.add_zero, Nat.add_mul]
    exact ⟨rfl, rfl⟩

/-- Rounding does not depend on the scale. -/
theorem roundUnits_mul_two_pow (n s : Nat) :
    roundUnits (n * 2 ^ s) 1 = roundUnits n 1 * 2 ^ s := by
  by_cases h : n < 2 ^ 53
  · have hn : HasPrecision n := hasPrecision_of_le (Nat.le_of_lt h)
    rw [roundUnits_of_hasPrecision hn, roundUnits_of_hasPrecision (hn.mul_two_pow s)]
  · have happend := roundUnits_append (Nat.le_of_not_lt h) (Nat.two_pow_pos s)
    rwa [if_neg (fun hlow => hlow.2 rfl), Nat.add_zero] at happend

end Append

/-! ## The nearest number -/

theorem isNaN_ofUnits (negative : Bool) (units : Nat) : (ofUnits negative units).isNaN = false := by
  rw [ofUnits]
  split <;> rfl

/-- The number next to a whole number: its units are the nearest count, and out of range it is an
infinity. -/
def IsNearest (n : Nat) (x : Binary64) : Prop :=
  ∃ u, IsNearestCount (n * unitsPerOne) u ∧ x = ofUnits false u

theorem isNearest_iff {n : Nat} {x : Binary64} : IsNearest n x ↔ x = ofNat n := by
  simp only [IsNearest, isNearestCount_iff, exists_eq_left]
  rfl

/-- The number next to `± num / den`. -/
def IsNearestRatio (negative : Bool) (num den : Nat) (x : Binary64) : Prop :=
  ∃ u, IsNearestQuotient (num * unitsPerOne) den u ∧ x = ofUnits negative u

theorem isNearestRatio_iff {negative : Bool} {num den : Nat} (hden : 0 < den) {x : Binary64} :
    IsNearestRatio negative num den x ↔ x = ofRatio negative num den := by
  simp only [IsNearestRatio, isNearestQuotient_iff hden, exists_eq_left]
  rfl

theorem unitsPerOne_eq : unitsPerOne = 2 ^ 1074 := by decide +kernel

theorem unitLimit_eq : unitLimit = 2 ^ 1024 * unitsPerOne := by decide +kernel

theorem unitsPerOne_pos : 0 < unitsPerOne := by decide +kernel

theorem roundUnits_mul_unitsPerOne (n : Nat) :
    roundUnits (n * unitsPerOne) 1 = roundUnits n 1 * unitsPerOne := by
  rw [unitsPerOne_eq]
  exact roundUnits_mul_two_pow n 1074

theorem ofNat_eq (n : Nat) : ofNat n = ofUnits false (roundUnits n 1 * unitsPerOne) := by
  rw [ofNat, ofRatio, roundUnits_mul_unitsPerOne]

/-- A whole number is in the range below `2^1024`, and from there on it is an infinity. -/
theorem ofUnits_mul_unitsPerOne (negative : Bool) (n : Nat) :
    ofUnits negative (n * unitsPerOne) =
      if n < 2 ^ 1024 then finite negative (n * unitsPerOne) else infinite negative := by
  have hrange : n * unitsPerOne < unitLimit ↔ n < 2 ^ 1024 := by
    rw [unitLimit_eq]
    generalize 2 ^ 1024 = limit
    exact Nat.mul_lt_mul_right unitsPerOne_pos
  simp only [ofUnits, hrange]

/-- Whole numbers from `2^1024` on are out of range. -/
theorem ofRatio_of_le (negative : Bool) {n : Nat} (h : 2 ^ 1024 ≤ n) :
    ofRatio negative n 1 = infinite negative := by
  have hround : 2 ^ 1024 ≤ roundUnits n 1 :=
    ((hasPrecision_two_pow 1024).le_roundDown h).trans (roundDown_le_roundUnits n)
  rw [ofRatio, roundUnits_mul_unitsPerOne, ofUnits_mul_unitsPerOne, if_neg (Nat.not_lt.2 hround)]

/-- What is less than half of the smallest number is next to zero. -/
theorem ofRatio_of_lt (negative : Bool) {num den : Nat} (h : 2 * (num * unitsPerOne) < den) :
    ofRatio negative num den = finite negative 0 := by
  have hfloor : num * unitsPerOne / den = 0 := Nat.div_eq_of_lt (by omega)
  have hrange : 0 < unitLimit := by decide +kernel
  have hround : roundUnits (num * unitsPerOne) den = 0 := by
    have hcell : cell (num * unitsPerOne) den = den := by
      rw [cell, hfloor, grid_of_lt (by omega), Nat.mul_one]
    rw [roundUnits_eq, if_neg, hfloor, roundDown, significand, Nat.zero_div, Nat.zero_mul]
    rw [GoesUp, hcell, Nat.mod_eq_of_lt (by omega)]
    omega
  rw [ofRatio, hround, ofUnits, if_pos hrange]

end FormRules.Binary64
