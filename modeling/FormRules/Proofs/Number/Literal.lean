import FormRules.Proofs.Number.Decimal
import FormRules.Proofs.Number.Radix
import FormRules.Proofs.Text.Grammar
import Mathlib.Data.Bool.AllAny

/-!
# Numeric literals

The texts that stand for a number are given by three grammars: the infinities, whole numbers with a
radix, and decimal literals. All other texts are no number, an empty one apart. Many are told by
their characters, as each grammar has only few.

* `infinityLiteral`, `radixLiteral`, `decimalLiteral`: the grammars.
* `mem_decimalLiteral_iff`, `mem_radixLiteral_iff`, `mem_infinityLiteral_iff`: the parts of their
  texts.
* `isNaN_ofTrimmed_eq_false_iff`: what stands for a number.
* `isNaN_ofTrimmed_of_mem`, `isNaN_ofTrimmed_signed`, `isNaN_ofTrimmed_foreign`: what does not.
* `ofText_literal`: which number a text stands for.
-/

namespace FormRules.Numeral

open Text Text.Grammar NumberText

/-! ## The grammars -/

/-- The two infinities; the sign of the positive one may be left out. -/
def infinityLiteral : Grammar := optional (oneOf "+-") * word "Infinity"

/-- Whole numbers behind a radix. -/
def radixLiteral : Grammar :=
  word "0" *
    (oneOf "xX" * many (oneOf "0123456789abcdefABCDEF") + oneOf "oO" * many (oneOf "01234567") +
      oneOf "bB" * many (oneOf "01"))

/-- Decimal literals. -/
def decimalLiteral : Grammar :=
  optional (oneOf "+-") *
    (digits * optional (word "." * optional digits) + word "." * digits) *
      optional (oneOf "eE" * (optional (oneOf "+-") * digits))

variable {s : List Char}

/-! ## The texts of decimal literals -/

theorem mem_sign_iff : s ∈ (optional (oneOf "+-")).matches' ↔ ∃ sign : Sign, sign.text = s := by
  rw [mem_optional, mem_oneOf]
  constructor
  · rintro (rfl | ⟨c, hc, rfl⟩)
    · exact ⟨.absent, rfl⟩
    · have hsign : c = '+' ∨ c = '-' := by simpa using hc
      obtain rfl | rfl := hsign
      · exact ⟨.plus, rfl⟩
      · exact ⟨.minus, rfl⟩
  · rintro ⟨sign, rfl⟩
    cases sign with
    | absent => exact .inl rfl
    | plus => exact .inr ⟨'+', by decide, rfl⟩
    | minus => exact .inr ⟨'-', by decide, rfl⟩

theorem mem_mantissa_iff :
    s ∈ (digits * optional (word "." * optional digits) + word "." * digits).matches' ↔
      ∃ m : Mantissa, m.whole ++ fractionText m.fraction = s := by
  simp only [mem_add, mem_mul, mem_optional, mem_word, mem_digits]
  constructor
  · rintro (⟨whole, ⟨hne, hwhole⟩, b, rfl | ⟨_, rfl, fraction, hfraction, rfl⟩, rfl⟩ |
      ⟨_, rfl, fraction, ⟨hne, hfraction⟩, rfl⟩)
    · exact ⟨⟨whole, none, hwhole, by simp, by simpa using hne⟩, rfl⟩
    · refine ⟨⟨whole, some fraction, hwhole, ?_, by simp [hne]⟩, rfl⟩
      obtain rfl | ⟨-, hfraction⟩ := hfraction
      · simp
      · exact hfraction
    · exact ⟨⟨[], some fraction, by simp, hfraction, hne⟩, rfl⟩
  · rintro ⟨⟨whole, fraction, hwhole, hfraction, hne⟩, rfl⟩
    obtain rfl | hempty := eq_or_ne whole []
    · obtain _ | fraction := fraction
      · exact absurd rfl hne
      · exact .inr ⟨_, rfl, fraction, ⟨hne, hfraction⟩, rfl⟩
    · refine .inl ⟨whole, ⟨hempty, hwhole⟩, _, ?_, rfl⟩
      obtain _ | fraction := fraction
      · exact .inl rfl
      · refine .inr ⟨_, rfl, fraction, ?_, rfl⟩
        by_cases hnone : fraction = []
        · exact .inl hnone
        · exact .inr ⟨hnone, hfraction⟩

theorem mem_exponent_iff :
    s ∈ (optional (oneOf "eE" * (optional (oneOf "+-") * digits))).matches' ↔
      ∃ e : Option Exponent, exponentText e = s := by
  rw [mem_optional, mem_mul]
  constructor
  · rintro (rfl | ⟨a, ha, b, hb, rfl⟩)
    · exact ⟨none, rfl⟩
    · obtain ⟨mark, hmark, rfl⟩ := mem_oneOf.1 ha
      obtain ⟨_, hsign, run, hrun, rfl⟩ := mem_mul.1 hb
      obtain ⟨sign, rfl⟩ := mem_sign_iff.1 hsign
      have hmark' : isExponentMark mark = true := by
        rw [isExponentMark_iff]
        simpa using hmark
      exact ⟨some ⟨mark, sign, run, hmark', mem_digits.1 hrun⟩, rfl⟩
  · rintro ⟨_ | e, rfl⟩
    · exact .inl rfl
    · have hmark : e.mark ∈ "eE".toList := by
        have h := isExponentMark_iff.1 e.isExponentMark_mark
        simpa using h
      exact .inr ⟨[e.mark], mem_oneOf.2 ⟨e.mark, hmark, rfl⟩, _,
        append_mem (mem_sign_iff.2 ⟨e.sign, rfl⟩) (mem_digits.2 e.isRun_digits), rfl⟩

/-- What matches is the text of a literal. -/
theorem mem_decimalLiteral_iff : s ∈ decimalLiteral.matches' ↔ ∃ l : Literal, l.text = s := by
  constructor
  · intro h
    obtain ⟨_, hfront, _, hexponent, rfl⟩ := mem_mul.1 h
    obtain ⟨_, hsign, _, hmantissa, rfl⟩ := mem_mul.1 hfront
    obtain ⟨sign, rfl⟩ := mem_sign_iff.1 hsign
    obtain ⟨mantissa, rfl⟩ := mem_mantissa_iff.1 hmantissa
    obtain ⟨exponent, rfl⟩ := mem_exponent_iff.1 hexponent
    exact ⟨⟨sign, mantissa, exponent⟩, by simp only [Literal.text, List.append_assoc]⟩
  · rintro ⟨⟨sign, mantissa, exponent⟩, rfl⟩
    rw [Literal.text, ← List.append_assoc mantissa.whole, ← List.append_assoc]
    exact append_mem (append_mem (mem_sign_iff.2 ⟨sign, rfl⟩) (mem_mantissa_iff.2 ⟨mantissa, rfl⟩))
      (mem_exponent_iff.2 ⟨exponent, rfl⟩)

/-! ## The texts with a radix -/

theorem isSome_digit?_iff {radix : Nat} {chars : String} {c : Char}
    (h : ∀ n < 128, (digit? radix (Char.ofNat n)).isSome = true ↔ Char.ofNat n ∈ chars.toList)
    (hascii : chars.toList.all (·.toNat < 128) = true) :
    (digit? radix c).isSome = true ↔ c ∈ chars.toList := by
  rw [List.all_iff_forall_prop] at hascii
  by_cases hc : c.toNat < 128
  · have hcode := h c.toNat hc
    rwa [Char.ofNat_toNat] at hcode
  · refine iff_of_false ?_ (fun hmem => hc (hascii c hmem))
    rw [Option.isSome_iff_exists]
    rintro ⟨d, hd⟩
    obtain h | h | h := range_of_digit? hd
    all_goals
      have hhigh : c.toNat ≤ _ := h.2
      simp at hhigh
      omega

theorem mem_marked_iff {marks chars : String} :
    s ∈ (oneOf marks * many (oneOf chars)).matches' ↔
      ∃ c ∈ marks.toList, ∃ run, run ≠ [] ∧ (∀ d ∈ run, d ∈ chars.toList) ∧ c :: run = s := by
  simp only [mem_mul, mem_oneOf, mem_many_oneOf]
  constructor
  · rintro ⟨_, ⟨c, hc, rfl⟩, run, ⟨hne, hrun⟩, rfl⟩
    exact ⟨c, hc, run, hne, hrun, rfl⟩
  · rintro ⟨c, hc, run, hne, hrun, rfl⟩
    exact ⟨[c], ⟨c, hc, rfl⟩, run, ⟨hne, hrun⟩, rfl⟩

/-- The digits of a radix behind its mark. -/
theorem mem_radixLiteral_iff :
    s ∈ radixLiteral.matches' ↔ ∃ c radix run, (c, radix) ∈ radixMarks ∧ run ≠ [] ∧
      (∀ d ∈ run, (digit? radix d).isSome = true) ∧ '0' :: c :: run = s := by
  have hsixteen : ∀ c, (digit? 16 c).isSome = true ↔ c ∈ "0123456789abcdefABCDEF".toList :=
    fun _ => isSome_digit?_iff (by decide +kernel) (by decide)
  have height : ∀ c, (digit? 8 c).isSome = true ↔ c ∈ "01234567".toList :=
    fun _ => isSome_digit?_iff (by decide +kernel) (by decide)
  have htwo : ∀ c, (digit? 2 c).isSome = true ↔ c ∈ "01".toList :=
    fun _ => isSome_digit?_iff (by decide +kernel) (by decide)
  rw [radixLiteral, mem_mul]
  simp only [mem_word, mem_add, mem_marked_iff, ← hsixteen, ← height, ← htwo]
  constructor
  · rintro ⟨_, rfl, _, (⟨c, hc, run, hne, hrun, rfl⟩ | ⟨c, hc, run, hne, hrun, rfl⟩) |
      ⟨c, hc, run, hne, hrun, rfl⟩, rfl⟩
    · have hmark : ∀ c ∈ "xX".toList, (c, 16) ∈ radixMarks := by simp [radixMarks]
      exact ⟨c, 16, run, hmark c hc, hne, hrun, rfl⟩
    · have hmark : ∀ c ∈ "oO".toList, (c, 8) ∈ radixMarks := by simp [radixMarks]
      exact ⟨c, 8, run, hmark c hc, hne, hrun, rfl⟩
    · have hmark : ∀ c ∈ "bB".toList, (c, 2) ∈ radixMarks := by simp [radixMarks]
      exact ⟨c, 2, run, hmark c hc, hne, hrun, rfl⟩
  · rintro ⟨c, radix, run, hmark, hne, hrun, rfl⟩
    have hmarks : ∀ mark ∈ radixMarks, mark.2 = 16 ∧ mark.1 ∈ "xX".toList ∨
        mark.2 = 8 ∧ mark.1 ∈ "oO".toList ∨ mark.2 = 2 ∧ mark.1 ∈ "bB".toList := by decide
    refine ⟨_, rfl, c :: run, ?_, rfl⟩
    obtain ⟨rfl, hc⟩ | ⟨rfl, hc⟩ | ⟨rfl, hc⟩ := hmarks _ hmark
    · exact .inl (.inl ⟨c, hc, run, hne, hrun, rfl⟩)
    · exact .inl (.inr ⟨c, hc, run, hne, hrun, rfl⟩)
    · exact .inr ⟨c, hc, run, hne, hrun, rfl⟩

theorem exists_mark_of_takeRadix? {radix : Nat} {run : List Char}
    (h : takeRadix? s = some (radix, run)) :
    ∃ c, (c, radix) ∈ radixMarks ∧ '0' :: c :: run = s := by
  rw [takeRadix?.eq_def] at h
  split at h
  · rename_i c digits
    split_ifs at h with hx ho hb
    all_goals
      cases h
      refine ⟨c, ?_, rfl⟩
    · obtain rfl | rfl := hx <;> decide
    · obtain rfl | rfl := ho <;> decide
    · obtain rfl | rfl := hb <;> decide
  · cases h

/-! ## What stands for a number -/

theorem isNaN_foldl_shiftIn (radix : Nat) (values : List Nat) (x : Binary64) :
    (values.foldl (Binary64.shiftIn radix) x).isNaN = x.isNaN := by
  induction values generalizing x with
  | nil => rfl
  | cons d values ih =>
    rw [List.foldl_cons, ih]
    cases x with
    | nan => rfl
    | infinite negative => rfl
    | finite negative units => exact Binary64.isNaN_ofUnits _ _

theorem isSome_mapM_iff {α β : Type} {f : α → Option β} {l : List α} :
    (l.mapM f).isSome = true ↔ ∀ a ∈ l, (f a).isSome = true := by
  induction l with
  | nil => simp
  | cons a l ih =>
    rw [List.mapM_cons, List.forall_mem_cons, ← ih]
    cases f a <;> cases l.mapM f <;> simp

theorem isNaN_ofRadixDigits_eq_false_iff {radix : Nat} {run : List Char} :
    (ofRadixDigits radix run).isNaN = false ↔
      run ≠ [] ∧ ∀ d ∈ run, (digit? radix d).isSome = true := by
  rw [← isSome_mapM_iff]
  cases run with
  | nil => simp [ofRadixDigits, Binary64.isNaN]
  | cons d run =>
    simp only [ofRadixDigits]
    cases (d :: run).mapM (digit? radix) with
    | none => simp [Binary64.isNaN]
    | some values =>
      dsimp only
      rw [isNaN_foldl_shiftIn]
      simp [Binary64.zero, Binary64.isNaN]

theorem mem_infinityLiteral_iff :
    s ∈ infinityLiteral.matches' ↔ ∃ sign : Sign, sign.text ++ "Infinity".toList = s := by
  rw [infinityLiteral, mem_mul]
  constructor
  · rintro ⟨_, hsign, _, hword, rfl⟩
    obtain ⟨sign, rfl⟩ := mem_sign_iff.1 hsign
    obtain rfl := mem_word.1 hword
    exact ⟨sign, rfl⟩
  · rintro ⟨sign, rfl⟩
    exact ⟨_, mem_sign_iff.2 ⟨sign, rfl⟩, _, mem_word.2 rfl, rfl⟩

theorem ofTrimmed_infinity (sign : Sign) :
    ofTrimmed (sign.text ++ "Infinity".toList) = .infinite sign.isMinus := by
  cases sign <;> decide +kernel

/-- The letter that names a radix stands in no other literal. -/
theorem not_mem_alphabet_of_mem {c : Char} {radix : Nat} (h : (c, radix) ∈ radixMarks) :
    c ∉ alphabet infinityLiteral ∧ c ∉ alphabet decimalLiteral := by
  have hmarks : ∀ mark ∈ radixMarks,
      mark.1 ∉ alphabet infinityLiteral ∧ mark.1 ∉ alphabet decimalLiteral := by decide
  exact hmarks (c, radix) h

theorem ofTrimmed_text (l : Literal) : ofTrimmed l.text = l.decimal.toBinary64 := by
  have hmem : l.text ∈ decimalLiteral.matches' := mem_decimalLiteral_iff.2 ⟨l, rfl⟩
  have hne : l.text ≠ [] := by
    intro hempty
    have hread := Decimal.read?_text l
    rw [hempty] at hread
    cases hread
  have hinfinity : ∀ word : List Char, 'I' ∈ word → l.text ≠ word := by
    rintro word hletter rfl
    exact absurd (mem_alphabet hmem 'I' hletter) (by decide)
  have hradix : takeRadix? l.text = none := by
    rw [Option.eq_none_iff_forall_ne_some]
    rintro ⟨radix, run⟩ h
    obtain ⟨c, hmark, htext⟩ := exists_mark_of_takeRadix? h
    have hc : c ∈ l.text := by simp [← htext]
    exact (not_mem_alphabet_of_mem hmark).2 (mem_alphabet hmem c hc)
  rw [ofTrimmed, if_neg hne, if_neg, if_neg (hinfinity _ (by decide)), hradix, Decimal.read?_text]
  rintro (h | h)
  · exact hinfinity _ (by decide) h
  · exact hinfinity _ (by decide) h

theorem isNaN_ofTrimmed_eq_false_iff :
    (ofTrimmed s).isNaN = false ↔
      s = [] ∨ s ∈ infinityLiteral.matches' ∨ s ∈ radixLiteral.matches' ∨
        s ∈ decimalLiteral.matches' := by
  constructor
  · intro h
    rw [ofTrimmed] at h
    split_ifs at h with hempty hplus hminus
    · exact .inl hempty
    · refine .inr (.inl (mem_infinityLiteral_iff.2 ?_))
      obtain rfl | rfl := hplus
      · exact ⟨.absent, rfl⟩
      · exact ⟨.plus, rfl⟩
    · exact .inr (.inl (mem_infinityLiteral_iff.2 ⟨.minus, hminus.symm⟩))
    · split at h
      · rename_i radix run hradix
        obtain ⟨c, hmark, rfl⟩ := exists_mark_of_takeRadix? hradix
        obtain ⟨hne, hrun⟩ := isNaN_ofRadixDigits_eq_false_iff.1 h
        exact .inr (.inr (.inl (mem_radixLiteral_iff.2 ⟨c, radix, run, hmark, hne, hrun, rfl⟩)))
      · split at h
        · rename_i hread
          obtain ⟨l, rfl, -⟩ := Decimal.exists_literal_of_read? hread
          exact .inr (.inr (.inr (mem_decimalLiteral_iff.2 ⟨l, rfl⟩)))
        · cases h
  · rintro (rfl | h | h | h)
    · rfl
    · obtain ⟨sign, rfl⟩ := mem_infinityLiteral_iff.1 h
      rw [ofTrimmed_infinity]
      rfl
    · obtain ⟨c, radix, run, hmark, hne, hrun, rfl⟩ := mem_radixLiteral_iff.1 h
      rw [ofTrimmed_of_mem hmark]
      exact isNaN_ofRadixDigits_eq_false_iff.2 ⟨hne, hrun⟩
    · obtain ⟨l, rfl⟩ := mem_decimalLiteral_iff.1 h
      rw [ofTrimmed_text]
      exact Decimal.isNaN_toBinary64 l.decimal

/-! ## What stands for no number -/

/-- A text is no number if it has a character that none of the grammars has. -/
theorem isNaN_ofTrimmed_of_mem {c : Char} (hc : c ∈ s)
    (hinfinity : c ∉ alphabet infinityLiteral) (hradix : c ∉ alphabet radixLiteral)
    (hdecimal : c ∉ alphabet decimalLiteral) : (ofTrimmed s).isNaN = true := by
  rw [← Bool.not_eq_false, isNaN_ofTrimmed_eq_false_iff]
  rintro (rfl | h | h | h)
  · cases hc
  · exact hinfinity (mem_alphabet h c hc)
  · exact hradix (mem_alphabet h c hc)
  · exact hdecimal (mem_alphabet h c hc)

/-- A radix has no sign in front of it. -/
theorem isNaN_ofTrimmed_signed {c sign : Char} {radix : Nat} (hsign : isSign sign = true)
    (hmark : (c, radix) ∈ radixMarks) (run : List Char) :
    (ofTrimmed (sign :: '0' :: c :: run)).isNaN = true := by
  obtain ⟨hinfinity, hdecimal⟩ := not_mem_alphabet_of_mem hmark
  have hc : c ∈ sign :: '0' :: c :: run := by simp
  rw [← Bool.not_eq_false, isNaN_ofTrimmed_eq_false_iff]
  rintro (h | h | h | h)
  · cases h
  · exact hinfinity (mem_alphabet h c hc)
  · obtain ⟨c', radix', run', -, -, -, heq⟩ := mem_radixLiteral_iff.1 h
    cases heq
    cases hsign
  · exact hdecimal (mem_alphabet h c hc)

/-- Words that are numbers elsewhere, there in any letter case. -/
def foreignWords : List (List Char) := ["inf".toList, "nan".toList, "infinity".toList]

/-- Only one of all ways to write a foreign word is a number here. -/
theorem isNaN_ofTrimmed_foreign {sign : Sign} {word : List Char}
    (hword : word.map Char.toLower ∈ foreignWords) (hne : word ≠ "Infinity".toList) :
    (ofTrimmed (sign.text ++ word)).isNaN = true := by
  have hletters : ∀ w ∈ foreignWords, 'n' ∈ w ∧ '-' ∉ w ∧ '+' ∉ w := by decide
  obtain ⟨hn, hminus, hplus⟩ := hletters _ hword
  obtain ⟨c, hc, hlower⟩ := List.mem_map.1 hn
  have hmem : c ∈ sign.text ++ word := List.mem_append_right _ hc
  have hradix : ∀ c ∈ alphabet radixLiteral, c.toLower ≠ 'n' :=
    List.all_iff_forall_prop.1 (by decide)
  have hdecimal : ∀ c ∈ alphabet decimalLiteral, c.toLower ≠ 'n' :=
    List.all_iff_forall_prop.1 (by decide)
  rw [← Bool.not_eq_false, isNaN_ofTrimmed_eq_false_iff]
  rintro (h | h | h | h)
  · rw [h] at hmem
    cases hmem
  · -- The sign is the only one in front of the word, so the words are the same.
    obtain ⟨sign', heq⟩ := mem_infinityLiteral_iff.1 h
    have hstops : Stops isSign word := by
      intro first hfirst
      have hlower := List.mem_map_of_mem (f := Char.toLower) (List.mem_of_mem_head? hfirst)
      rw [Bool.eq_false_iff, Ne, isSign_iff]
      rintro (rfl | rfl)
      · exact hminus hlower
      · exact hplus hlower
    have hstops' : Stops isSign "Infinity".toList := by
      intro first hfirst
      obtain rfl : 'I' = first := Option.some.inj hfirst
      rfl
    have hread := takeSign_text sign' hstops'
    rw [heq, takeSign_text sign hstops] at hread
    exact hne (Prod.mk.inj hread).2
  · exact hradix c (mem_alphabet h c hmem) hlower
  · exact hdecimal c (mem_alphabet h c hmem) hlower

/-- **Numeric literals.** A text stands for a number exactly when, without the blanks around it, it
is empty, or an infinity, or digits behind a radix, or a decimal literal. The empty text is zero, an
infinity has its sign, and a decimal literal is the one number next to the decimal of its parts.
So characters beyond ASCII, underscores, signs in front of a radix and words like `inf` and `nan`
make a text no number. -/
theorem ofText_literal {s : String} {t : List Char} (ht : (trim s).toList = t) :
    ((ofText s).isNaN = false ↔
      t = [] ∨ t ∈ infinityLiteral.matches' ∨ t ∈ radixLiteral.matches' ∨
        t ∈ decimalLiteral.matches') ∧
    (t = [] → ofText s = .zero) ∧
    (t ∈ infinityLiteral.matches' → ofText s = .infinite (t.head? == some '-')) ∧
    (t ∈ decimalLiteral.matches' → ∃ l : Literal, l.text = t) ∧
    (∀ l : Literal, l.text = t → ∀ x, l.decimal.IsNearest x ↔ x = ofText s) ∧
    (∀ c ∈ t, 128 ≤ c.toNat ∨ c = '_' → (ofText s).isNaN = true) ∧
    (∀ sign c radix run, isSign sign = true → (c, radix) ∈ radixMarks →
      t = sign :: '0' :: c :: run → (ofText s).isNaN = true) ∧
    (∀ (sign : Sign) word, word.map Char.toLower ∈ foreignWords → word ≠ "Infinity".toList →
      t = sign.text ++ word → (ofText s).isNaN = true) := by
  have htext : ofText s = ofTrimmed t := by
    rw [ofText, ← ht, trim, String.toList_ofList]
  rw [htext]
  refine ⟨isNaN_ofTrimmed_eq_false_iff, ?_, ?_, mem_decimalLiteral_iff.1, ?_, ?_, ?_, ?_⟩
  · intro hempty
    rw [hempty]
    rfl
  · intro h
    obtain ⟨sign, rfl⟩ := mem_infinityLiteral_iff.1 h
    rw [ofTrimmed_infinity]
    cases sign <;> rfl
  · rintro l hl x
    rw [← hl, ofTrimmed_text]
    exact Decimal.isNearest_iff
  · intro c hc hother
    have hinfinity : ∀ c ∈ alphabet infinityLiteral, ¬ (128 ≤ c.toNat ∨ c = '_') :=
      List.all_iff_forall_prop.1 (by decide)
    have hradix : ∀ c ∈ alphabet radixLiteral, ¬ (128 ≤ c.toNat ∨ c = '_') :=
      List.all_iff_forall_prop.1 (by decide)
    have hdecimal : ∀ c ∈ alphabet decimalLiteral, ¬ (128 ≤ c.toNat ∨ c = '_') :=
      List.all_iff_forall_prop.1 (by decide)
    exact isNaN_ofTrimmed_of_mem hc (fun h => hinfinity c h hother) (fun h => hradix c h hother)
      (fun h => hdecimal c h hother)
  · intro sign c radix run hsign hmark heq
    rw [heq]
    exact isNaN_ofTrimmed_signed hsign hmark run
  · intro sign word hword hne heq
    rw [heq]
    exact isNaN_ofTrimmed_foreign hword hne

/-- The literal `-.5E+01`. -/
def minusFive : Literal where
  sign := .minus
  mantissa := ⟨[], some ['5'], by simp, List.all_eq_true.1 (by decide), by simp⟩
  exponent := some ⟨'E', .plus, ['0', '1'], by decide, by simp, List.all_eq_true.1 (by decide)⟩

/-- Blanks beyond ASCII do not count, and a digit behind the point is enough. -/
theorem ofText_literal_minusFive :
    (trim "\u3000-.5E+01\n").toList = "-.5E+01".toList ∧
    (ofText "\u3000-.5E+01\n").isNaN = false ∧
    minusFive.decimal = ⟨true, 5, 0⟩ ∧ minusFive.decimal.IsNearest (ofText "\u3000-.5E+01\n") := by
  have ht : (trim "\u3000-.5E+01\n").toList = "-.5E+01".toList := by decide +kernel
  obtain ⟨hnumber, -, -, -, hnearest, -⟩ := ofText_literal ht
  have htext : minusFive.text = "-.5E+01".toList := by decide +kernel
  have hmem := mem_decimalLiteral_iff.2 ⟨minusFive, htext⟩
  exact ⟨ht, hnumber.2 (.inr (.inr (.inr hmem))), by decide, (hnearest _ htext _).2 rfl⟩

end FormRules.Numeral
