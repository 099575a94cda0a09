import FormRules.NumberText
import FormRules.Text.Blank

/-!
# Spellings of numbers

The parts of which a number is spelled, and the characters of these.

* `IsSpelling`: sign, whole part, fraction and exponent.
* `exists_isSpelling_of_isNumberText`: what the `number` rule takes is spelled so.
* `IsSpelling.isNumberChar`, `IsSpelling.comma_mem_iff`: the characters of a spelling.
-/

namespace FormRules

namespace NumberText

open Text

/-! ## The parts of a spelling -/

/-- A run of digits, of which there is one. -/
def IsRun (s : List Char) : Prop := s ≠ [] ∧ ∀ c ∈ s, c.isDigit = true

/-- One character of a class, or none. -/
def IsOptional (isChar : Char → Bool) (s : List Char) : Prop := s = [] ∨ ∃ c, isChar c ∧ s = [c]

/-- Digits behind a sign, which may be left out. -/
def IsSigned (s : List Char) : Prop :=
  ∃ sign digits, IsOptional isSign sign ∧ IsRun digits ∧ s = sign ++ digits

/-- A part that a character of a class opens, or none. -/
def IsPart (opens : Char → Bool) (IsRest : List Char → Prop) (s : List Char) : Prop :=
  s = [] ∨ ∃ c rest, opens c ∧ IsRest rest ∧ s = c :: rest

/-- The parts of a number as it is spelled. -/
structure IsSpelling (sign whole fraction exponent : List Char) : Prop where
  sign : IsOptional isSign sign
  whole : IsRun whole
  fraction : IsPart isPoint IsRun fraction
  exponent : IsPart isExponentMark IsSigned exponent

/-! ## What the rule takes -/

variable {s rest : List Char}

theorem exists_isOptional_skip (isSkipped : Char → Bool) (s : List Char) :
    ∃ sign, IsOptional isSkipped sign ∧ s = sign ++ skip isSkipped s := by
  cases s with
  | nil => exact ⟨[], .inl rfl, rfl⟩
  | cons c s =>
    rw [skip]
    split
    · rename_i hc
      exact ⟨[c], .inr ⟨c, hc, rfl⟩, rfl⟩
    · exact ⟨[], .inl rfl, rfl⟩

theorem exists_isRun_of_skipDigits? (h : skipDigits? s = some rest) :
    ∃ digits, IsRun digits ∧ s = digits ++ rest := by
  rw [skipDigits?] at h
  split at h
  · cases h
  · rename_i hrun
    cases h
    refine ⟨s.takeWhile Char.isDigit, ⟨hrun, ?_⟩, List.takeWhile_append_dropWhile.symm⟩
    exact List.all_eq_true.1 List.all_takeWhile

theorem exists_isPart_of_skipPart? {opens : Char → Bool} {part : List Char → Option (List Char)}
    {IsRest : List Char → Prop}
    (hpart : ∀ s rest, part s = some rest → ∃ t, IsRest t ∧ s = t ++ rest)
    (h : skipPart? opens part s = some rest) : ∃ t, IsPart opens IsRest t ∧ s = t ++ rest := by
  cases s with
  | nil =>
    cases h
    exact ⟨[], .inl rfl, rfl⟩
  | cons c s =>
    rw [skipPart?] at h
    split at h
    · rename_i hc
      obtain ⟨t, ht, rfl⟩ := hpart s rest h
      exact ⟨c :: t, .inr ⟨c, t, hc, ht, rfl⟩, rfl⟩
    · cases h
      exact ⟨[], .inl rfl, rfl⟩

/-- Digits behind a sign, also where the only sign is plus. -/
theorem exists_isSigned_of_skipDigits? {isSkipped : Char → Bool}
    (hskipped : ∀ c, isSkipped c → isSign c) (s rest : List Char)
    (h : skipDigits? (skip isSkipped s) = some rest) : ∃ t, IsSigned t ∧ s = t ++ rest := by
  obtain ⟨sign, hsign, hs⟩ := exists_isOptional_skip isSkipped s
  obtain ⟨digits, hdigits, hrest⟩ := exists_isRun_of_skipDigits? h
  have hsign' : IsOptional isSign sign := by
    obtain rfl | ⟨c, hc, rfl⟩ := hsign
    · exact .inl rfl
    · exact .inr ⟨c, hskipped c hc, rfl⟩
  refine ⟨sign ++ digits, ⟨sign, digits, hsign', hdigits, rfl⟩, ?_⟩
  rw [hs, hrest, List.append_assoc]

/-- The fraction that the rule takes, which a whole number does not have. -/
theorem exists_isPart_fraction {integer : Bool}
    (h : (if integer then some s else skipPart? isPoint skipDigits? s) = some rest) :
    ∃ fraction, IsPart isPoint IsRun fraction ∧ s = fraction ++ rest ∧
      (integer = true → fraction = []) := by
  cases integer with
  | true =>
    cases h
    exact ⟨[], .inl rfl, rfl, fun _ => rfl⟩
  | false =>
    obtain ⟨fraction, hfraction, heq⟩ :=
      exists_isPart_of_skipPart? (fun _ _ hs => exists_isRun_of_skipDigits? hs) h
    exact ⟨fraction, hfraction, heq, fun hfalse => absurd hfalse Bool.false_ne_true⟩

/-- The exponent that the rule takes, up to the end of the text. -/
theorem isPart_exponent {integer : Bool}
    (h : skipPart? isExponentMark
      (fun e => skipDigits? (skip (if integer then (· == '+') else isSign) e)) s = some []) :
    IsPart isExponentMark IsSigned s := by
  have hskipped : ∀ c, (if integer then (· == '+') else isSign) c → isSign c := by
    intro c hc
    cases integer with
    | true =>
      obtain rfl := eq_of_beq hc
      rfl
    | false => exact hc
  obtain ⟨exponent, hexponent, heq⟩ :=
    exists_isPart_of_skipPart? (exists_isSigned_of_skipDigits? hskipped) h
  rw [heq, List.append_nil]
  exact hexponent

/-- What the rule takes is spelled as a number, without a fraction as a whole one. -/
theorem exists_isSpelling_of_isNumberText {v : String} {format : NumberFormat} {integer : Bool}
    (h : isNumberText v format integer = true) :
    ∃ sign whole fraction exponent, IsSpelling sign whole fraction exponent ∧
      v.toList = sign ++ (whole ++ (fraction ++ exponent)) ∧ (integer = true → fraction = []) := by
  rw [isNumberText, beq_iff_eq] at h
  obtain ⟨exponent, h, hend⟩ := Option.bind_eq_some_iff.1 h
  obtain ⟨afterWhole, hwhole, hpart⟩ := Option.bind_eq_some_iff.1 h
  obtain ⟨sign, hsign, hv⟩ := exists_isOptional_skip isSign v.toList
  obtain ⟨whole, hwhole, hskip⟩ := exists_isRun_of_skipDigits? hwhole
  obtain ⟨fraction, hfraction, hafter, hinteger⟩ := exists_isPart_fraction hpart
  have hexponent : IsPart isExponentMark IsSigned exponent := by
    cases format with
    | plain =>
      cases hend
      exact .inl rfl
    | allowExponent => exact isPart_exponent hend
  refine ⟨sign, whole, fraction, exponent, ⟨hsign, hwhole, hfraction, hexponent⟩, ?_, hinteger⟩
  rw [hv, hskip, hafter]

/-! ## The characters of a spelling -/

theorem isSign_iff {c : Char} : isSign c = true ↔ c = '-' ∨ c = '+' := by simp [isSign]

theorem isPoint_iff {c : Char} : isPoint c = true ↔ c = '.' ∨ c = ',' := by simp [isPoint]

theorem isExponentMark_iff {c : Char} : isExponentMark c = true ↔ c = 'e' ∨ c = 'E' := by
  simp [isExponentMark]

/-- The characters that numbers are spelled with. -/
def isNumberChar (c : Char) : Bool := c.isDigit || isSign c || isPoint c || isExponentMark c

theorem isBlank_of_isNumberChar {c : Char} (h : isNumberChar c = true) : isBlank c = false := by
  simp only [isNumberChar, Bool.or_eq_true, isSign_iff, isPoint_iff, isExponentMark_iff] at h
  obtain ((hdigit | rfl | rfl) | rfl | rfl) | rfl | rfl := h
  · simp only [Char.isDigit, Bool.and_eq_true, decide_eq_true_eq] at hdigit
    have hlow : 48 ≤ c.toNat := hdigit.1
    have hhigh : c.toNat ≤ 57 := hdigit.2
    simp only [isBlank, Bool.or_eq_false_iff, Bool.and_eq_false_iff, decide_eq_false_iff_not,
      beq_eq_false_iff_ne]
    omega
  all_goals decide

theorem IsOptional.of_mem {isChar : Char → Bool} {s : List Char} (h : IsOptional isChar s)
    {c : Char} (hc : c ∈ s) : isChar c = true := by
  obtain rfl | ⟨c', hc', rfl⟩ := h
  · cases hc
  · obtain rfl := List.mem_singleton.1 hc
    exact hc'

theorem IsSigned.of_mem {s : List Char} (h : IsSigned s) {c : Char} (hc : c ∈ s) :
    isSign c = true ∨ c.isDigit = true := by
  obtain ⟨sign, digits, hsign, hdigits, rfl⟩ := h
  exact (List.mem_append.1 hc).imp hsign.of_mem (hdigits.2 c)

theorem IsPart.of_mem {opens : Char → Bool} {IsRest : List Char → Prop} {s : List Char}
    (h : IsPart opens IsRest s) {c : Char} (hc : c ∈ s) :
    opens c = true ∨ ∃ rest, IsRest rest ∧ c ∈ rest := by
  obtain rfl | ⟨c', rest, hc', hrest, rfl⟩ := h
  · cases hc
  · obtain rfl | hc := List.mem_cons.1 hc
    · exact .inl hc'
    · exact .inr ⟨rest, hrest, hc⟩

variable {sign whole fraction exponent : List Char}

/-- A spelling has no other characters. -/
theorem IsSpelling.isNumberChar (h : IsSpelling sign whole fraction exponent) :
    ∀ c ∈ sign ++ (whole ++ (fraction ++ exponent)), isNumberChar c = true := by
  intro c hc
  simp only [NumberText.isNumberChar, Bool.or_eq_true]
  simp only [List.mem_append] at hc
  obtain hc | hc | hc | hc := hc
  · exact .inl (.inl (.inr (h.sign.of_mem hc)))
  · exact .inl (.inl (.inl (h.whole.2 c hc)))
  · obtain hpoint | ⟨digits, hdigits, hc⟩ := h.fraction.of_mem hc
    · exact .inl (.inr hpoint)
    · exact .inl (.inl (.inl (hdigits.2 c hc)))
  · obtain hmark | ⟨digits, hdigits, hc⟩ := h.exponent.of_mem hc
    · exact .inr hmark
    · obtain hsign | hdigit := hdigits.of_mem hc
      · exact .inl (.inl (.inr hsign))
      · exact .inl (.inl (.inl hdigit))

/-- A comma can only stand in front of a fraction. -/
theorem IsSpelling.comma_mem_iff (h : IsSpelling sign whole fraction exponent) :
    ',' ∈ sign ++ (whole ++ (fraction ++ exponent)) ↔ fraction.head? = some ',' := by
  have hdigits : ∀ {digits}, IsRun digits → ',' ∉ digits := by
    intro digits hrun hc
    exact absurd (hrun.2 ',' hc) (by decide)
  constructor
  · intro hc
    simp only [List.mem_append] at hc
    obtain hc | hc | hc | hc := hc
    · exact absurd (h.sign.of_mem hc) (by decide)
    · exact absurd hc (hdigits h.whole)
    · obtain rfl | ⟨c, digits, hpoint, hrun, rfl⟩ := h.fraction
      · cases hc
      · obtain rfl | hc := List.mem_cons.1 hc
        · rfl
        · exact absurd hc (hdigits hrun)
    · obtain hmark | ⟨digits, hsigned, hc⟩ := h.exponent.of_mem hc
      · exact absurd hmark (by decide)
      · obtain hsign | hdigit := hsigned.of_mem hc
        · exact absurd hsign (by decide)
        · exact absurd hdigit (by decide)
  · intro hcomma
    obtain ⟨digits, rfl⟩ := List.head?_eq_some_iff.1 hcomma
    simp

end NumberText

end FormRules
