import FormRules.Numeral
import FormRules.Proofs.Number.Rounding
import FormRules.Proofs.Number.Spelling
import FormRules.Proofs.Text.Run

/-!
# Decimal literals

A decimal literal is a sign, digits with a point among them and an exponent. It stands for the
number next to the decimal that it writes; far outside the range no power of ten is needed to know
it.

* `Decimal.IsNearest`, `Decimal.isNearest_iff`: the number next to a decimal.
* `Literal`, `Literal.text`, `Literal.decimal`: the parts of a literal, how they are written, and
  the decimal that they stand for.
* `Decimal.read?_text`, `Decimal.exists_literal_of_read?`: what is read is the text of a literal.
-/

namespace FormRules.Numeral

open Text Binary64 NumberText

/-! ## The number next to a decimal -/

namespace Decimal

/-- The number next to a decimal, which is a quotient of whole numbers. -/
def IsNearest (d : Decimal) (x : Binary64) : Prop :=
  IsNearestRatio d.negative (d.coefficient * 10 ^ d.exponent.toNat) (10 ^ (-d.exponent).toNat) x

theorem two_pow_le_ten_pow {m e : Nat} (h : m ≤ 3 * e) : 2 ^ m ≤ 10 ^ e :=
  calc 2 ^ m ≤ 2 ^ (3 * e) := Nat.pow_le_pow_right (by omega) h
    _ = (2 ^ 3) ^ e := Nat.pow_mul 2 3 e
    _ ≤ 10 ^ e := Nat.pow_le_pow_left (by omega) e

variable {d : Decimal} {x : Binary64}

theorem le_of_exponent (hne : d.coefficient ≠ 0) (h : 400 < d.exponent) :
    2 ^ 1024 ≤ d.coefficient * 10 ^ d.exponent.toNat :=
  calc 2 ^ 1024 ≤ 10 ^ d.exponent.toNat := two_pow_le_ten_pow (by omega)
    _ ≤ d.coefficient * 10 ^ d.exponent.toNat :=
      Nat.le_mul_of_pos_left _ (Nat.pos_of_ne_zero hne)

theorem lt_of_exponent (h : d.exponent + d.coefficient.log2 < -400) :
    2 * (d.coefficient * unitsPerOne) < 10 ^ (-d.exponent).toNat := by
  have hcoefficient : d.coefficient < 2 ^ (d.coefficient.log2 + 1) := Nat.lt_log2_self
  rw [unitsPerOne_eq]
  calc 2 * (d.coefficient * 2 ^ 1074)
      < 2 * (2 ^ (d.coefficient.log2 + 1) * 2 ^ 1074) := by
        have := Nat.mul_lt_mul_of_pos_right hcoefficient (Nat.two_pow_pos 1074)
        omega
    _ = 2 ^ (d.coefficient.log2 + 1076) := by rw [← Nat.pow_add, ← Nat.pow_succ']
    _ ≤ 10 ^ (-d.exponent).toNat := two_pow_le_ten_pow (by omega)

/-- **The number of a decimal** is the one next to it, and there is no other. -/
theorem isNearest_iff : d.IsNearest x ↔ x = d.toBinary64 := by
  rw [IsNearest, isNearestRatio_iff (Nat.pow_pos (by omega)), toBinary64]
  split_ifs with hzero hlarge hsmall hwhole
  · rw [hzero, Nat.zero_mul, ofRatio_of_lt]
    rw [Nat.zero_mul, Nat.mul_zero]
    exact Nat.pow_pos (by omega)
  · have hpoint : (-d.exponent).toNat = 0 := by omega
    rw [hpoint, Nat.pow_zero, ofRatio_of_le _ (le_of_exponent hzero hlarge)]
  · have hpoint : d.exponent.toNat = 0 := by omega
    rw [hpoint, Nat.pow_zero, Nat.mul_one, ofRatio_of_lt _ (lt_of_exponent hsmall)]
  · have hpoint : (-d.exponent).toNat = 0 := by omega
    rw [hpoint, Nat.pow_zero]
    rfl
  · have hpoint : d.exponent.toNat = 0 := by omega
    rw [hpoint, Nat.pow_zero, Nat.mul_one]
    rfl

theorem isNaN_toBinary64 (d : Decimal) : d.toBinary64.isNaN = false := by
  rw [toBinary64]
  split_ifs
  · rfl
  · rfl
  · rfl
  · exact isNaN_ofUnits _ _
  · exact isNaN_ofUnits _ _

end Decimal

/-! ## The parts of a literal -/

/-- A sign as it is written, or none. -/
inductive Sign
  | absent
  | plus
  | minus
  deriving DecidableEq, Repr

/-- The sign as it is written. -/
def Sign.text : Sign → List Char
  | .absent => []
  | .plus => ['+']
  | .minus => ['-']

/-- Tells the sign of negative numbers. -/
def Sign.isMinus : Sign → Bool
  | .minus => true
  | _ => false

/-- Digits with a point among them, or without one. There is a digit in front of the point or behind
it. -/
structure Mantissa where
  whole : List Char
  fraction : Option (List Char)
  whole_digits : ∀ c ∈ whole, c.isDigit = true
  fraction_digits : ∀ c ∈ fraction.getD [], c.isDigit = true
  ne_nil : whole ++ fraction.getD [] ≠ []

/-- The point and the digits behind it. -/
def fractionText : Option (List Char) → List Char
  | none => []
  | some digits => '.' :: digits

/-- An exponent, which is a whole number behind one of two marks. -/
structure Exponent where
  mark : Char
  sign : Sign
  digits : List Char
  isExponentMark_mark : isExponentMark mark = true
  isRun_digits : IsRun digits

/-- An exponent as it is written, or none. -/
def exponentText : Option Exponent → List Char
  | none => []
  | some e => e.mark :: (e.sign.text ++ e.digits)

/-- The power of ten of an exponent. -/
def exponentValue : Option Exponent → Int
  | none => 0
  | some e => if e.sign.isMinus then -(decimal e.digits : Int) else decimal e.digits

/-- The parts of a decimal literal. -/
structure Literal where
  sign : Sign
  mantissa : Mantissa
  exponent : Option Exponent

namespace Literal

/-- A literal as it is written. -/
def text (l : Literal) : List Char :=
  l.sign.text ++ (l.mantissa.whole ++ (fractionText l.mantissa.fraction ++ exponentText l.exponent))

/-- What a literal stands for: its digits without the point are the coefficient, and each digit
behind the point takes one off the exponent. -/
def decimal (l : Literal) : Decimal where
  negative := l.sign.isMinus
  coefficient := Text.decimal (l.mantissa.whole ++ l.mantissa.fraction.getD [])
  exponent := exponentValue l.exponent - (l.mantissa.fraction.getD []).length

end Literal

/-! ## How literals are read -/

variable {s rest : List Char}

theorem takeSign_text (sign : Sign) (h : Stops isSign rest) :
    takeSign (sign.text ++ rest) = (sign.isMinus, rest) := by
  cases sign with
  | plus => rfl
  | minus => rfl
  | absent =>
    cases rest with
    | nil => rfl
    | cons c rest =>
      have hc : isSign c = false := h c rfl
      rw [Sign.text, List.nil_append, takeSign]
      · rfl
      · rintro t heq
        cases heq
        cases hc
      · rintro t heq
        cases heq
        cases hc

theorem exists_sign (s : List Char) :
    ∃ sign : Sign, sign.text ++ (takeSign s).2 = s ∧ sign.isMinus = (takeSign s).1 := by
  rw [takeSign.eq_def]
  split
  · exact ⟨.minus, rfl, rfl⟩
  · exact ⟨.plus, rfl, rfl⟩
  · exact ⟨.absent, rfl, rfl⟩

theorem stops_isSign_of_isDigit (h : ∀ c ∈ s, c.isDigit = true) (hne : s ≠ []) :
    Stops isSign (s ++ rest) := by
  cases s with
  | nil => exact absurd rfl hne
  | cons c s =>
    apply stops_cons
    have hc : c.isDigit = true := h c List.mem_cons_self
    rw [Bool.eq_false_iff, Ne, isSign_iff]
    rintro (rfl | rfl) <;> cases hc

namespace Decimal

theorem readExponent?_text (e : Option Exponent) :
    readExponent? (exponentText e) = some (exponentValue e) := by
  cases e with
  | none => rfl
  | some e =>
    obtain ⟨hne, hdigits⟩ := e.isRun_digits
    have hstops : Stops isSign e.digits := by
      rw [← List.append_nil e.digits]
      exact stops_isSign_of_isDigit hdigits hne
    have hmark := isExponentMark_iff.1 e.isExponentMark_mark
    have hall : e.digits.all Char.isDigit = true := List.all_eq_true.2 hdigits
    simp only [exponentText, readExponent?, takeSign_text _ hstops]
    rw [if_pos ⟨hmark, hne, hall⟩]
    rfl

theorem exists_exponent_of_readExponent? {value : Int} (h : readExponent? s = some value) :
    ∃ e : Option Exponent, exponentText e = s ∧ exponentValue e = value := by
  cases s with
  | nil =>
    cases h
    exact ⟨none, rfl, rfl⟩
  | cons c s =>
    obtain ⟨sign, htext, hminus⟩ := exists_sign s
    simp only [readExponent?] at h
    split at h
    · rename_i hread
      obtain ⟨hmark, hne, hall⟩ := hread
      refine ⟨some ⟨c, sign, (takeSign s).2, isExponentMark_iff.2 hmark, hne,
        List.all_eq_true.1 hall⟩, ?_, ?_⟩
      · rw [exponentText, htext]
      · rw [exponentValue, hminus]
        exact Option.some.inj h
    · cases h

theorem stops_exponentText (e : Option Exponent) : Stops Char.isDigit (exponentText e) := by
  cases e with
  | none => exact stops_nil _
  | some e =>
    apply stops_cons
    obtain hmark | hmark := isExponentMark_iff.1 e.isExponentMark_mark <;> rw [hmark] <;> decide

theorem takeFraction_text {fraction : Option (List Char)}
    (hdigits : ∀ c ∈ fraction.getD [], c.isDigit = true) (e : Option Exponent) :
    takeFraction (fractionText fraction ++ exponentText e) =
      (fraction.getD [], exponentText e) := by
  cases fraction with
  | none =>
    obtain _ | e := e
    · rfl
    · obtain hmark | hmark := isExponentMark_iff.1 e.isExponentMark_mark
      · rw [exponentText, hmark]
        rfl
      · rw [exponentText, hmark]
        rfl
  | some digits =>
    rw [Option.getD_some] at hdigits
    rw [fractionText, List.cons_append, takeFraction, takeWhile_run hdigits (stops_exponentText e),
      dropWhile_run hdigits (stops_exponentText e), Option.getD_some]

theorem exists_fraction (s : List Char) :
    ∃ fraction : Option (List Char), fractionText fraction ++ (takeFraction s).2 = s ∧
      fraction.getD [] = (takeFraction s).1 ∧ ∀ c ∈ fraction.getD [], c.isDigit = true := by
  rw [takeFraction.eq_def]
  split
  · rename_i s
    refine ⟨some (s.takeWhile Char.isDigit), ?_, rfl, ?_⟩
    · rw [fractionText, List.cons_append, List.takeWhile_append_dropWhile]
    · exact List.all_eq_true.1 List.all_takeWhile
  · refine ⟨none, rfl, rfl, ?_⟩
    rintro c hc
    cases hc

/-- A literal is read as what it stands for. -/
theorem read?_text (l : Literal) : read? l.text = some l.decimal := by
  obtain ⟨sign, ⟨whole, fraction, hwhole, hfraction, hne⟩, exponent⟩ := l
  have hsign : Stops isSign (whole ++ (fractionText fraction ++ exponentText exponent)) := by
    by_cases hempty : whole = []
    · obtain _ | digits := fraction
      · exact absurd (by rw [hempty]; rfl) hne
      · rw [hempty]
        exact stops_cons (by decide) _
    · exact stops_isSign_of_isDigit hwhole hempty
  have hstops : Stops Char.isDigit (fractionText fraction ++ exponentText exponent) := by
    obtain _ | digits := fraction
    · exact stops_exponentText exponent
    · exact stops_cons (by decide) _
  have hdigits : ¬ (whole = [] ∧ fraction.getD [] = []) :=
    fun h => hne (List.append_eq_nil_iff.2 h)
  simp only [Literal.text, read?, takeSign_text _ hsign, takeWhile_run hwhole hstops,
    dropWhile_run hwhole hstops, takeFraction_text hfraction, if_neg hdigits, readExponent?_text]
  rfl

/-- What is read is a literal, and what it stands for. -/
theorem exists_literal_of_read? {d : Decimal} (h : read? s = some d) :
    ∃ l : Literal, l.text = s ∧ l.decimal = d := by
  obtain ⟨sign, hsign, hminus⟩ := exists_sign s
  simp only [read?] at h
  split at h
  · cases h
  · rename_i hne
    obtain ⟨value, hvalue, rfl⟩ := Option.map_eq_some_iff.1 h
    obtain ⟨fraction, hfraction, hdigits, hisDigit⟩ :=
      exists_fraction ((takeSign s).2.dropWhile Char.isDigit)
    obtain ⟨e, hexponent, hpower⟩ := exists_exponent_of_readExponent? hvalue
    rw [← hdigits] at hne ⊢
    refine ⟨⟨sign, ⟨(takeSign s).2.takeWhile Char.isDigit, fraction,
      List.all_eq_true.1 List.all_takeWhile, hisDigit, ?_⟩, e⟩, ?_, ?_⟩
    · exact fun hnil => hne (List.append_eq_nil_iff.1 hnil)
    · rw [Literal.text, hexponent, hfraction, List.takeWhile_append_dropWhile, hsign]
    · rw [Literal.decimal, hminus, hpower]

end Decimal

end FormRules.Numeral
