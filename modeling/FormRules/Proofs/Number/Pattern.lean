import FormRules.Proofs.Number.Spelling
import FormRules.Proofs.Text.Grammar

/-!
# The patterns of spelled numbers

What the `number` rule takes is given by four patterns, one for each format and variant. Its scanner
takes a sign, digits, a fraction and an exponent one behind the other. Each begins with a character
that the one in front does not go on with, so nothing that matches is lost.

* `pattern`: the texts that are spelled as numbers.
* `scans_signed`, `Scans.skipPart?`: the parts of a number.
* `isNumberText_iff_mem`: the scanner of the rule takes what matches the pattern.
* `isNumberText_iff`: the rule takes what matches, and how the patterns compare.
-/

namespace FormRules

namespace NumberText

open Text Text.Grammar

/-! ## The patterns -/

/-- The texts that are spelled as numbers. -/
def pattern : NumberFormat → Bool → Grammar
  | .allowExponent, false =>
    optional (oneOf "-+") * digits * optional (oneOf ".," * digits) *
      optional (oneOf "eE" * (optional (oneOf "-+") * digits))
  | .allowExponent, true =>
    optional (oneOf "-+") * digits * optional (oneOf "eE" * (optional (oneOf "+") * digits))
  | .plain, false => optional (oneOf "-+") * digits * optional (oneOf ".," * digits)
  | .plain, true => optional (oneOf "-+") * digits

variable {t : List Char}

/-- What has no exponent need not have one where there may be one. -/
theorem mem_pattern_of_plain {integer : Bool} (h : t ∈ (pattern .plain integer).matches') :
    t ∈ (pattern .allowExponent integer).matches' := by
  have hnone : ∀ r : Grammar, [] ∈ (optional r).matches' := fun r => mem_optional.2 (.inl rfl)
  rw [← List.append_nil t]
  cases integer with
  | false => exact append_mem h (hnone _)
  | true => exact append_mem h (hnone _)

/-- A whole number is a number without a fraction, whose exponent has no minus. -/
theorem mem_pattern_of_integer {format : NumberFormat} (h : t ∈ (pattern format true).matches') :
    t ∈ (pattern format false).matches' := by
  have hnone : ∀ {s} {r u : Grammar}, s ∈ r.matches' → s ∈ (r * optional u).matches' := by
    intro s r u hs
    rw [← List.append_nil s]
    exact append_mem hs (mem_optional.2 (.inl rfl))
  cases format with
  | plain => exact hnone h
  | allowExponent =>
    obtain ⟨number, hnumber, exponent, hexponent, rfl⟩ := mem_mul.1 h
    apply append_mem (hnone hnumber)
    refine mem_optional.2 ((mem_optional.1 hexponent).imp_right ?_)
    intro hpart
    obtain ⟨mark, hmark, power, hpower, rfl⟩ := mem_mul.1 hpart
    obtain ⟨sign, hsign, run, hrun, rfl⟩ := mem_mul.1 hpower
    refine append_mem hmark (append_mem (mem_optional.2 ((mem_optional.1 hsign).imp_right ?_)) hrun)
    intro hplus
    obtain ⟨c, hc, rfl⟩ := mem_oneOf.1 hplus
    exact mem_oneOf.2 ⟨c, List.mem_cons_of_mem _ hc, rfl⟩

/-! ## Scanners of the parts -/

variable {p : Char → Bool} {chars : String}

theorem scans_skip (hp : ∀ c, p c = true ↔ c ∈ chars.toList) :
    Scans (fun s => some (skip p s)) (optional (oneOf chars)) p where
  sound := by
    intro s rest h
    cases h
    obtain ⟨t, ht, hs⟩ := exists_isOptional_skip p s
    refine ⟨t, mem_optional.2 (ht.imp_right ?_), hs.symm⟩
    rintro ⟨c, hc, rfl⟩
    exact mem_oneOf.2 ⟨c, (hp c).1 hc, rfl⟩
  complete := by
    intro t rest ht hrest
    obtain rfl | ht := mem_optional.1 ht
    · cases rest with
      | nil => rfl
      | cons c rest => simp [skip, hrest c rfl]
    · obtain ⟨c, hc, rfl⟩ := mem_oneOf.1 ht
      simp [skip, (hp c).2 hc]

theorem scans_skipDigits? : Scans skipDigits? digits Char.isDigit where
  sound := by
    intro s rest h
    obtain ⟨run, hrun, rfl⟩ := exists_isRun_of_skipDigits? h
    exact ⟨run, mem_digits.2 hrun, rfl⟩
  complete := by
    intro t rest ht hrest
    obtain ⟨hne, hdigits⟩ := mem_digits.1 ht
    rw [skipDigits?, takeWhile_run hdigits hrest, if_neg hne, dropWhile_run hdigits hrest]

/-- Digits behind a sign. -/
theorem scans_signed (hp : ∀ c, p c = true ↔ c ∈ chars.toList)
    (hdigit : chars.toList.any Char.isDigit = false) :
    Scans (fun s => skipDigits? (skip p s)) (optional (oneOf chars) * digits)
      fun c => p c || c.isDigit :=
  (scans_skip hp).bind scans_skipDigits? fun _ ht =>
    stops_of_mem_digits
      (fun c hc => Bool.eq_false_iff.2 (List.any_eq_false.1 hdigit c ((hp c).1 hc))) ht

/-- A part that a character opens, or none. -/
theorem Scans.skipPart? {part : List Char → Option (List Char)} {r : Grammar} {goesOn : Char → Bool}
    (h : Scans part r goesOn) (hp : ∀ c, p c = true ↔ c ∈ chars.toList) :
    Scans (skipPart? p part) (optional (oneOf chars * r)) fun c => p c || goesOn c where
  sound := by
    intro s rest hs
    have hpart : ∀ s rest, part s = some rest → ∃ t, t ∈ r.matches' ∧ s = t ++ rest := by
      intro s rest hpart
      obtain ⟨t, ht, heq⟩ := h.sound hpart
      exact ⟨t, ht, heq.symm⟩
    obtain ⟨t, ht, rfl⟩ := exists_isPart_of_skipPart? hpart hs
    refine ⟨t, mem_optional.2 (ht.imp_right ?_), rfl⟩
    rintro ⟨c, rest, hc, hrest, rfl⟩
    exact append_mem (mem_oneOf.2 ⟨c, (hp c).1 hc, rfl⟩) hrest
  complete := by
    intro t rest ht hrest
    obtain rfl | ht := mem_optional.1 ht
    · cases rest with
      | nil => rfl
      | cons c rest => simp [NumberText.skipPart?, (Bool.or_eq_false_iff.1 (hrest c rfl)).1]
    · obtain ⟨a, ha, b, hb, rfl⟩ := mem_mul.1 ht
      obtain ⟨c, hc, rfl⟩ := mem_oneOf.1 ha
      have hpart : part (b ++ rest) = some rest :=
        h.complete hb fun c hc => (Bool.or_eq_false_iff.1 (hrest c hc)).2
      simpa [NumberText.skipPart?, (hp c).2 hc] using hpart

/-! ## The scanner of the rule -/

theorem isSign_iff_mem (c : Char) : isSign c = true ↔ c ∈ "-+".toList := by simp [isSign]

theorem isPoint_iff_mem (c : Char) : isPoint c = true ↔ c ∈ ".,".toList := by simp [isPoint]

theorem isExponentMark_iff_mem (c : Char) : isExponentMark c = true ↔ c ∈ "eE".toList := by
  simp [isExponentMark]

theorem isPlus_iff_mem (c : Char) : (c == '+') = true ↔ c ∈ "+".toList := by simp

/-- The whole part with its sign. -/
theorem scans_whole :
    Scans (fun s => skipDigits? (skip isSign s)) (optional (oneOf "-+") * digits)
      fun c => isSign c || c.isDigit :=
  scans_signed isSign_iff_mem (by decide)

theorem scans_fraction :
    Scans (skipPart? isPoint skipDigits?) (optional (oneOf ".," * digits))
      fun c => isPoint c || c.isDigit :=
  Scans.skipPart? scans_skipDigits? isPoint_iff_mem

theorem scans_exponent (hp : ∀ c, p c = true ↔ c ∈ chars.toList)
    (hdigit : chars.toList.any Char.isDigit = false) :
    Scans (skipPart? isExponentMark fun e => skipDigits? (skip p e))
      (optional (oneOf "eE" * (optional (oneOf chars) * digits)))
      fun c => isExponentMark c || (p c || c.isDigit) :=
  Scans.skipPart? (scans_signed hp hdigit) isExponentMark_iff_mem

theorem scans_decimal :
    Scans (fun s => skipDigits? (skip isSign s) >>= skipPart? isPoint skipDigits?)
      (pattern .plain false) fun c => isSign c || c.isDigit || (isPoint c || c.isDigit) :=
  scans_whole.bind scans_fraction fun _ => stops_of_mem_optional (by decide)

/-- What the rule takes is what matches the pattern of the format and the variant. -/
theorem isNumberText_iff_mem {s : String} {format : NumberFormat} {integer : Bool} :
    isNumberText s format integer = true ↔ s.toList ∈ (pattern format integer).matches' := by
  rw [isNumberText, beq_iff_eq]
  cases format with
  | plain =>
    cases integer with
    | false =>
      simp only [Bool.false_eq_true, if_false, Option.bind_eq_bind, Option.bind_fun_some]
      exact scans_decimal.eq_nil_iff
    | true =>
      simp only [if_true, Option.bind_eq_bind, Option.bind_fun_some]
      exact scans_whole.eq_nil_iff
  | allowExponent =>
    cases integer with
    | false =>
      simp only [Bool.false_eq_true, if_false]
      exact (scans_decimal.bind (scans_exponent isSign_iff_mem (by decide)) fun _ =>
        stops_of_mem_optional (by decide)).eq_nil_iff
    | true =>
      simp only [if_true, Option.bind_eq_bind, Option.bind_fun_some]
      exact (scans_whole.bind (scans_exponent isPlus_iff_mem (by decide)) fun _ =>
        stops_of_mem_optional (by decide)).eq_nil_iff

end NumberText

open NumberText in
/-- **Spelled numbers.** The `number` rule takes a text exactly when the whole of it matches the
pattern of the format and the variant. So what it takes without exponents it takes with them, and
what it takes as a whole number it takes as a number. -/
theorem isNumberText_iff (s : String) (format : NumberFormat) (integer : Bool) :
    (isNumberText s format integer = true ↔ s.toList ∈ (pattern format integer).matches') ∧
    (isNumberText s .plain integer = true → isNumberText s .allowExponent integer = true) ∧
    (isNumberText s format true = true → isNumberText s format false = true) := by
  refine ⟨isNumberText_iff_mem, ?_, ?_⟩
  · rw [isNumberText_iff_mem, isNumberText_iff_mem]
    exact mem_pattern_of_plain
  · rw [isNumberText_iff_mem, isNumberText_iff_mem]
    exact mem_pattern_of_integer

end FormRules
