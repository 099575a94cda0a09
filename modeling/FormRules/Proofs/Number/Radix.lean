import FormRules.Numeral
import FormRules.Proofs.Number.Rounding
import FormRules.Proofs.Text.Digits
import FormRules.Proofs.Text.Run
import Mathlib.Data.List.Induction

/-!
# Whole numbers with a radix

Digits behind a radix are taken in one by one, and the number is rounded after each. Up to 53 bits
nothing is lost. The first digit that takes the number past them rounds it, and all digits behind
are below its grid and are left out. So the number comes out as the nearest one, unless what stands
in front of the digits left out is a tie that goes down and these are not all zero: then the number
is above the tie, and the nearest one is the next.

* `stepwise`, `foldl_shiftIn`: rounding after each digit, on whole numbers.
* `stepwise_of_lt`, `stepwise_eq`: up to 53 bits, and past them.
* `RoundsAstray`, `stepwise_eq_roundUnits_or_roundDown`: when rounding after each digit goes astray,
  and what it gives.
* `ofText_isNearest_iff`: which texts with a radix stand for the nearest number.
-/

namespace FormRules.Binary64

open Text (valueOf valueOf_concat)

/-! ## Rounding after each digit -/

/-- A whole number with one more digit, rounded. -/
def shiftRound (radix n d : Nat) : Nat := roundUnits (n * radix + d) 1

/-- The whole number that digits come to when it is rounded after each of them. -/
def stepwise (radix : Nat) (values : List Nat) : Nat := values.foldl (shiftRound radix) 0

theorem stepwise_concat (radix : Nat) (values : List Nat) (d : Nat) :
    stepwise radix (values ++ [d]) = shiftRound radix (stepwise radix values) d := by
  rw [stepwise, List.foldl_append]
  rfl

/-- An infinity stays one, as whole numbers only grow with more digits. -/
theorem shiftIn_ofUnits {radix : Nat} (hradix : 0 < radix) (n d : Nat) :
    shiftIn radix (ofUnits false (n * unitsPerOne)) d =
      ofUnits false (shiftRound radix n d * unitsPerOne) := by
  have hscale : n * unitsPerOne * radix + d * unitsPerOne = (n * radix + d) * unitsPerOne := by
    ring
  rw [ofUnits_mul_unitsPerOne]
  split_ifs with hn
  · rw [shiftIn, hscale, roundUnits_mul_unitsPerOne, shiftRound]
  · have hlimit : 2 ^ 1024 ≤ shiftRound radix n d := by
      have hprecise : HasPrecision (2 ^ 1024) := hasPrecision_two_pow 1024
      have hgrow : n ≤ n * radix := Nat.le_mul_of_pos_right n hradix
      exact (hprecise.le_roundDown (by omega)).trans (roundDown_le_roundUnits _)
    rw [ofUnits_mul_unitsPerOne, if_neg (Nat.not_lt.2 hlimit)]
    rfl

theorem foldl_shiftIn_ofUnits {radix : Nat} (hradix : 0 < radix) (values : List Nat) (n : Nat) :
    values.foldl (shiftIn radix) (ofUnits false (n * unitsPerOne)) =
      ofUnits false (values.foldl (shiftRound radix) n * unitsPerOne) := by
  induction values generalizing n with
  | nil => rw [List.foldl_nil, List.foldl_nil]
  | cons d values ih => rw [List.foldl_cons, shiftIn_ofUnits hradix, ih, List.foldl_cons]

theorem foldl_shiftIn {radix : Nat} (hradix : 0 < radix) (values : List Nat) :
    values.foldl (shiftIn radix) zero = ofUnits false (stepwise radix values * unitsPerOne) := by
  have hzero : zero = ofUnits false (0 * unitsPerOne) := by
    have hrange : 0 < unitLimit := by decide +kernel
    rw [Nat.zero_mul, ofUnits, if_pos hrange, zero]
  rw [hzero, foldl_shiftIn_ofUnits hradix, stepwise]

/-- Up to 53 bits nothing is lost. -/
theorem stepwise_of_lt {radix : Nat} (hradix : 0 < radix) {values : List Nat}
    (h : valueOf radix values < 2 ^ 53) : stepwise radix values = valueOf radix values := by
  induction values using List.reverseRecOn with
  | nil => rfl
  | append_singleton values d ih =>
    rw [valueOf_concat] at h
    have hgrow : valueOf radix values ≤ valueOf radix values * radix :=
      Nat.le_mul_of_pos_right _ hradix
    rw [stepwise_concat, shiftRound, valueOf_concat, ih (by omega)]
    exact roundUnits_of_hasPrecision (hasPrecision_of_le (Nat.le_of_lt h))

/-- Past 53 bits a digit is below the grid of the number and is left out. -/
theorem roundUnits_shift_of_hasPrecision {x r d : Nat} (hprecise : HasPrecision x)
    (hx : 2 ^ 53 ≤ x) (hd : d < 2 ^ r) : roundUnits (x * 2 ^ r + d) 1 = x * 2 ^ r := by
  rw [roundUnits_append hx hd, if_neg (fun h => hprecise.not_tieDown h.1),
    roundUnits_of_hasPrecision hprecise]

/-- Past 53 bits the digits in front that first have so many are rounded, and those behind them are
left out. -/
theorem stepwise_eq {r t : Nat} {values : List Nat} (hvalues : ∀ d ∈ values, d < 2 ^ r)
    (hfront : 2 ^ 53 ≤ valueOf (2 ^ r) values / 2 ^ (r * t))
    (hfirst : valueOf (2 ^ r) values / 2 ^ (r * (t + 1)) < 2 ^ 53) :
    stepwise (2 ^ r) values =
      roundUnits (valueOf (2 ^ r) values / 2 ^ (r * t)) 1 * 2 ^ (r * t) := by
  have hpos : 0 < 2 ^ r := Nat.two_pow_pos r
  induction values using List.reverseRecOn generalizing t with
  | nil => simp [valueOf] at hfront
  | append_singleton values d ih =>
    have hd : d < 2 ^ r := hvalues d (by simp)
    have hinit : ∀ d' ∈ values, d' < 2 ^ r := fun d' hd' => hvalues d' (by simp [hd'])
    have hshift : ∀ t, valueOf (2 ^ r) (values ++ [d]) / 2 ^ (r * (t + 1)) =
        valueOf (2 ^ r) values / 2 ^ (r * t) := by
      intro t
      rw [Nat.mul_add, Nat.mul_one, Nat.add_comm, Nat.pow_add, ← Nat.div_div_eq_div_mul,
        valueOf_concat, Nat.mul_comm, Nat.mul_add_div hpos, Nat.div_eq_of_lt hd, Nat.add_zero]
    rw [stepwise_concat, shiftRound]
    cases t with
    | zero =>
      -- The last digit is the one that goes past 53 bits.
      rw [hshift, Nat.mul_zero, Nat.pow_zero, Nat.div_one] at hfirst
      rw [stepwise_of_lt hpos hfirst, Nat.mul_zero, Nat.pow_zero, Nat.div_one, Nat.mul_one,
        valueOf_concat]
    | succ t =>
      rw [hshift] at hfront hfirst ⊢
      rw [ih hinit hfront hfirst]
      generalize valueOf (2 ^ r) values / 2 ^ (r * t) = front at hfront
      have hprecise : HasPrecision (roundUnits front 1 * 2 ^ (r * t)) :=
        (hasPrecision_roundUnits front).mul_two_pow (r * t)
      have hlarge : 2 ^ 53 ≤ roundUnits front 1 * 2 ^ (r * t) := by
        have hround : 2 ^ 53 ≤ roundUnits front 1 :=
          ((hasPrecision_two_pow 53).le_roundDown hfront).trans
            (roundDown_le_roundUnits front)
        exact hround.trans (Nat.le_mul_of_pos_right _ (Nat.two_pow_pos _))
      rw [roundUnits_shift_of_hasPrecision hprecise hlarge hd, Nat.mul_assoc, ← Nat.pow_add,
        Nat.mul_add, Nat.mul_one]

/-! ## Going astray -/

/-- The digits of a number begin with a tie that goes down, and those behind it are not all zero. -/
def RoundsAstray (radix n : Nat) : Prop := ∃ t, TieDown (n / radix ^ t) ∧ n % radix ^ t ≠ 0

/-- Only a number past 53 bits goes astray. -/
theorem RoundsAstray.lt {radix n : Nat} (h : RoundsAstray radix n) : 2 ^ 53 < n := by
  obtain ⟨t, htie, -⟩ := h
  exact htie.lt.trans_le (Nat.div_le_self n (radix ^ t))

/-- The digits in front that first have more than 53 bits. -/
theorem exists_front {r n : Nat} (hr : 0 < r) (h : 2 ^ 53 ≤ n) :
    ∃ t, 2 ^ 53 ≤ n / 2 ^ (r * t) ∧ n / 2 ^ (r * (t + 1)) < 2 ^ 53 := by
  have hend : ∃ t, n / 2 ^ (r * (t + 1)) < 2 ^ 53 := by
    refine ⟨n, ?_⟩
    have hlarge : n < 2 ^ (r * (n + 1)) :=
      (Nat.lt_succ_self n).trans_le
        ((Nat.le_mul_of_pos_left _ hr).trans (Nat.le_of_lt Nat.lt_two_pow_self))
    rw [Nat.div_eq_of_lt hlarge]
    omega
  refine ⟨Nat.find hend, ?_, Nat.find_spec hend⟩
  cases hfind : Nat.find hend with
  | zero => rwa [Nat.mul_zero, Nat.pow_zero, Nat.div_one]
  | succ t => exact Nat.le_of_not_lt (Nat.find_min hend (by omega))

/-- Which numbers go astray shows at the digits in front that first have more than 53 bits. -/
theorem roundsAstray_iff {r n t : Nat} (hfront : 2 ^ 53 ≤ n / 2 ^ (r * t))
    (hfirst : n / 2 ^ (r * (t + 1)) < 2 ^ 53) :
    RoundsAstray (2 ^ r) n ↔ TieDown (n / 2 ^ (r * t)) ∧ n % 2 ^ (r * t) ≠ 0 := by
  simp only [RoundsAstray, ← Nat.pow_mul]
  constructor
  · rintro ⟨t', htie, hrest⟩
    have hle : t' ≤ t := by
      by_contra hlt
      have hexp : r * (t + 1) ≤ r * t' := Nat.mul_le_mul_left r (by omega)
      have hdiv : n / 2 ^ (r * t') ≤ n / 2 ^ (r * (t + 1)) :=
        Nat.div_le_div_left (Nat.pow_le_pow_right (by omega) hexp) (Nat.two_pow_pos _)
      have hlarge := htie.lt
      omega
    obtain ⟨u, rfl⟩ := Nat.exists_eq_add_of_le hle
    rw [Nat.mul_add] at hfront ⊢
    -- The longer front is the shorter one with more digits behind it.
    have hsplit : n / 2 ^ (r * t') =
        n / 2 ^ (r * t' + r * u) * 2 ^ (r * u) + n / 2 ^ (r * t') % 2 ^ (r * u) := by
      rw [Nat.pow_add, ← Nat.div_div_eq_div_mul, Nat.div_add_mod']
    constructor
    · rw [hsplit] at htie
      exact htie.of_append hfront (Nat.mod_lt _ (Nat.two_pow_pos _))
    · intro hzero
      have hdvd : 2 ^ (r * t') ∣ n :=
        (Nat.pow_dvd_pow 2 (Nat.le_add_right _ _)).trans (Nat.dvd_of_mod_eq_zero hzero)
      exact hrest (Nat.mod_eq_zero_of_dvd hdvd)
  · exact fun h => ⟨t, h⟩

/-- **Rounding after each digit** is rounding the number at once, unless it goes astray: then it
comes out at the place below, where the nearest is the one above. -/
theorem stepwise_eq_roundUnits_or_roundDown {r n : Nat} (hr : 0 < r) {values : List Nat}
    (hvalues : ∀ d ∈ values, d < 2 ^ r) (hn : valueOf (2 ^ r) values = n) :
    (¬ RoundsAstray (2 ^ r) n → stepwise (2 ^ r) values = roundUnits n 1) ∧
    (RoundsAstray (2 ^ r) n →
      stepwise (2 ^ r) values = roundDown n ∧ roundUnits n 1 = roundDown n + grid n) := by
  by_cases hsmall : n < 2 ^ 53
  · refine ⟨fun _ => ?_, fun h => absurd h.lt (by omega)⟩
    rw [stepwise_of_lt (Nat.two_pow_pos r) (by omega), hn,
      roundUnits_of_hasPrecision (hasPrecision_of_le (Nat.le_of_lt hsmall))]
  · obtain ⟨t, hfront, hfirst⟩ := exists_front hr (Nat.le_of_not_lt hsmall)
    rw [roundsAstray_iff hfront hfirst]
    rw [← hn] at hfront hfirst
    rw [stepwise_eq hvalues hfront hfirst, hn]
    rw [hn] at hfront
    exact roundUnits_front hfront

end FormRules.Binary64

namespace FormRules.Numeral

open Binary64 (IsNearest RoundsAstray roundDown unitsPerOne ofUnits)

/-! ## Texts with a radix -/

/-- The letters that name a radix behind a zero. -/
def radixMarks : List (Char × Nat) :=
  [('x', 16), ('X', 16), ('o', 8), ('O', 8), ('b', 2), ('B', 2)]

variable {c : Char} {radix n : Nat} {digits : List Char}

theorem takeRadix?_of_mem (h : (c, radix) ∈ radixMarks) (digits : List Char) :
    takeRadix? ('0' :: c :: digits) = some (radix, digits) := by
  simp only [radixMarks, List.mem_cons, Prod.mk.injEq, List.not_mem_nil, or_false] at h
  obtain ⟨rfl, rfl⟩ | ⟨rfl, rfl⟩ | ⟨rfl, rfl⟩ | ⟨rfl, rfl⟩ | ⟨rfl, rfl⟩ | ⟨rfl, rfl⟩ := h <;> rfl

theorem isBlank_of_mem (h : (c, radix) ∈ radixMarks) : Text.isBlank c = false := by
  have hmarks : ∀ mark ∈ radixMarks, Text.isBlank mark.1 = false := by decide
  exact hmarks (c, radix) h

theorem exists_eq_two_pow (h : (c, radix) ∈ radixMarks) : ∃ r, 0 < r ∧ radix = 2 ^ r := by
  simp only [radixMarks, List.mem_cons, Prod.mk.injEq, List.not_mem_nil, or_false] at h
  obtain ⟨-, rfl⟩ | ⟨-, rfl⟩ | ⟨-, rfl⟩ | ⟨-, rfl⟩ | ⟨-, rfl⟩ | ⟨-, rfl⟩ := h
  · exact ⟨4, by omega, rfl⟩
  · exact ⟨4, by omega, rfl⟩
  · exact ⟨3, by omega, rfl⟩
  · exact ⟨3, by omega, rfl⟩
  · exact ⟨1, by omega, rfl⟩
  · exact ⟨1, by omega, rfl⟩

theorem ofTrimmed_of_mem (h : (c, radix) ∈ radixMarks) (digits : List Char) :
    ofTrimmed ('0' :: c :: digits) = ofRadixDigits radix digits := by
  rw [ofTrimmed, if_neg (List.cons_ne_nil _ _), if_neg (by simp), if_neg (by simp),
    takeRadix?_of_mem h digits]

/-- The number of a text with a radix is rounded after each digit. -/
theorem ofText_radix (hmark : (c, radix) ∈ radixMarks) (hdigits : digits ≠ [])
    {values : List Nat} (hvalues : digits.map (Text.digit? radix) = values.map some) :
    ofText (String.ofList ('0' :: c :: digits)) =
      ofUnits false (Binary64.stepwise radix values * unitsPerOne) := by
  have hblank : ∀ c' ∈ '0' :: c :: digits, Text.isBlank c' = false := by
    intro c' hc'
    simp only [List.mem_cons] at hc'
    obtain rfl | rfl | hc' := hc'
    · decide
    · exact isBlank_of_mem hmark
    · have hmem : Text.digit? radix c' ∈ values.map some := by
        rw [← hvalues]
        exact List.mem_map_of_mem hc'
      obtain ⟨d, -, hd⟩ := List.mem_map.1 hmem
      exact Text.isBlank_of_digit? hd.symm
  have hread : digits.mapM (Text.digit? radix) = some values := Text.mapM_eq_some_iff.2 hvalues
  have hpos : 0 < radix := by
    obtain ⟨r, -, rfl⟩ := exists_eq_two_pow hmark
    exact Nat.two_pow_pos r
  rw [ofText, String.toList_ofList, Text.trimChars_eq_self hblank, ofTrimmed_of_mem hmark]
  cases digits with
  | nil => exact absurd rfl hdigits
  | cons d digits =>
    simp only [ofRadixDigits, hread]
    exact Binary64.foldl_shiftIn hpos values

/-- **Whole numbers with a radix.** Digits behind a radix stand for the number next to the whole
number that they write, exactly when this is out of range or does not go astray. Up to `2^53` they
stand for the whole number itself. One that goes astray comes out at the place below it. -/
theorem ofText_isNearest_iff (hmark : (c, radix) ∈ radixMarks) (hdigits : digits ≠ [])
    (hn : Text.number? radix digits = some n) :
    (IsNearest n (ofText (String.ofList ('0' :: c :: digits))) ↔
      ¬ (n < 2 ^ 1024 ∧ RoundsAstray radix n)) ∧
    (n ≤ 2 ^ 53 →
      ofText (String.ofList ('0' :: c :: digits)) = .finite false (n * unitsPerOne)) ∧
    (n < 2 ^ 1024 → RoundsAstray radix n →
      ofText (String.ofList ('0' :: c :: digits)) =
        .finite false (roundDown n * unitsPerOne)) := by
  obtain ⟨values, hvalues, hvalue⟩ := Text.number?_eq_some_iff.1 hn
  obtain ⟨r, hr, rfl⟩ := exists_eq_two_pow hmark
  obtain ⟨hstraight, hastray⟩ :=
    Binary64.stepwise_eq_roundUnits_or_roundDown hr (Text.lt_of_map_digit? hvalues) hvalue
  have hlimit : Binary64.HasPrecision (2 ^ 1024) := Binary64.hasPrecision_two_pow 1024
  have hgrow : ∀ e, 53 < e → 2 ^ 53 < 2 ^ e := fun e he => Nat.pow_lt_pow_right (by omega) he
  have hlarge := hgrow 1024 (by omega)
  rw [Binary64.isNearest_iff, ofText_radix hmark hdigits hvalues, Binary64.ofNat_eq,
    Binary64.ofUnits_mul_unitsPerOne, Binary64.ofUnits_mul_unitsPerOne]
  generalize 2 ^ 1024 = limit at *
  by_cases h : RoundsAstray (2 ^ r) n
  · obtain ⟨hstep, hround⟩ := hastray h
    have hbelow : roundDown n ≤ n := Nat.le.intro (Binary64.roundDown_add n)
    have hgrid : 0 < Binary64.grid n := Binary64.grid_pos n
    rw [hstep, hround]
    refine ⟨?_, fun hle => absurd h.lt (by omega), fun hlt _ => if_pos (by omega)⟩
    by_cases hlt : n < limit
    · -- The place below is in range, and the nearest is the place above or an infinity.
      rw [if_pos (by omega)]
      refine iff_of_false ?_ (not_not_intro ⟨hlt, h⟩)
      split_ifs
      · intro heq
        have hunits := Nat.eq_of_mul_eq_mul_right Binary64.unitsPerOne_pos
          (Binary64.finite.inj heq).2
        omega
      · exact not_false
    · have hdown : limit ≤ roundDown n := hlimit.le_roundDown (Nat.le_of_not_lt hlt)
      rw [if_neg (by omega), if_neg (by omega)]
      exact iff_of_true rfl fun hin => hlt hin.1
  · rw [hstraight h]
    refine ⟨iff_of_true rfl fun hin => h hin.2, ?_, fun _ hin => absurd hin h⟩
    intro hle
    rw [Binary64.roundUnits_of_hasPrecision (Binary64.hasPrecision_of_le hle), if_pos (by omega)]

/-- The digits `20000000000001` write a tie that goes down as a whole, with no digit behind it. -/
theorem ofText_isNearest_tie :
    ('x', 16) ∈ radixMarks ∧ "20000000000001".toList ≠ [] ∧
      Text.number? 16 "20000000000001".toList = some (2 ^ 53 + 1) ∧
      IsNearest (2 ^ 53 + 1) (ofText "0x20000000000001") := by
  have hmark : ('x', 16) ∈ radixMarks := by decide
  have hdigits : "20000000000001".toList ≠ [] := by decide +kernel
  have hn : Text.number? 16 "20000000000001".toList = some (2 ^ 53 + 1) := by decide +kernel
  have htext : String.ofList ('0' :: 'x' :: "20000000000001".toList) = "0x20000000000001" := by
    decide +kernel
  have hnearest := (ofText_isNearest_iff hmark hdigits hn).1
  rw [htext] at hnearest
  refine ⟨hmark, hdigits, hn, hnearest.2 ?_⟩
  rintro ⟨-, hastray⟩
  have hfront : 2 ^ 53 ≤ (2 ^ 53 + 1) / 2 ^ (4 * 0) := by decide
  have hfirst : (2 ^ 53 + 1) / 2 ^ (4 * (0 + 1)) < 2 ^ 53 := by decide
  have hrest := ((Binary64.roundsAstray_iff hfront hfirst).1 hastray).2
  omega

/-- With the digits `200000000000011` the same tie stands in front of a digit that is left out, and
the number comes out below the nearest one. -/
theorem not_isNearest_hexadecimal :
    ∃ digits n, digits ≠ [] ∧ Text.number? 16 digits = some n ∧
      ¬ IsNearest n (ofText (String.ofList ('0' :: 'x' :: digits))) := by
  refine ⟨"200000000000011".toList, 2 ^ 57 + 17, by decide +kernel, by decide +kernel, ?_⟩
  rw [Binary64.isNearest_iff]
  decide +kernel

end FormRules.Numeral
