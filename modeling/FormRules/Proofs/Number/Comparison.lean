import FormRules.Operator.Builtin
import FormRules.PlainForm
import FormRules.Proofs.Number.Literal
import FormRules.Proofs.Number.Pattern

/-!
# Comparisons of spelled numbers

What passes the `number` rule is compared as a number, with one exception: a literal has no comma,
so a number with one is a text to a comparison, and its length is compared.

* `trim_of_isNumberText`: spelled numbers have no blanks.
* `mem_decimalLiteral_of_mem_pattern`, `isNaN_ofText_iff`: without a comma they are literals.
* `coerce_of_isNumberText`: what they are compared as, and what the rules make of it.
-/

namespace FormRules

open Text NumberText

variable {v target : String} {format : NumberFormat} {integer : Bool}

theorem isEmpty_of_isNumberText (h : isNumberText v format integer = true) : v.isEmpty = false := by
  obtain ⟨sign, whole, fraction, exponent, hspelling, hv, -⟩ :=
    exists_isSpelling_of_isNumberText h
  rw [← Bool.not_eq_true, String.isEmpty_iff]
  rintro rfl
  have hnil : sign = [] ∧ whole = [] ∧ fraction = [] ∧ exponent = [] := by simpa using hv.symm
  exact hspelling.whole.1 hnil.2.1

theorem trim_of_isNumberText (h : isNumberText v format integer = true) : trim v = v := by
  obtain ⟨sign, whole, fraction, exponent, hspelling, hv, -⟩ :=
    exists_isSpelling_of_isNumberText h
  have hblanks : ∀ c ∈ v.toList, isBlank c = false := by
    intro c hc
    rw [hv] at hc
    exact isBlank_of_isNumberChar (hspelling.isNumberChar c hc)
  rw [trim, trimChars_eq_self hblanks, String.ofList_toList]

theorem comma_not_mem_of_integer (h : isNumberText v format true = true) : ',' ∉ v.toList := by
  obtain ⟨sign, whole, fraction, exponent, hspelling, hv, hinteger⟩ :=
    exists_isSpelling_of_isNumberText h
  rw [hv, hspelling.comma_mem_iff, hinteger rfl]
  simp

namespace Numeral

open Grammar

/-- A spelled number without a comma is a decimal literal. -/
theorem mem_decimalLiteral_of_mem_pattern {t : List Char}
    (h : t ∈ (pattern format integer).matches') (hcomma : ',' ∉ t) :
    t ∈ decimalLiteral.matches' := by
  have hpattern : t ∈ (pattern .allowExponent false).matches' := by
    have hdecimal : t ∈ (pattern format false).matches' := by
      cases integer with
      | true => exact mem_pattern_of_integer h
      | false => exact h
    cases format with
    | plain => exact mem_pattern_of_plain hdecimal
    | allowExponent => exact hdecimal
  have hsigns : ∀ {s}, s ∈ (optional (oneOf "-+")).matches' →
      s ∈ (optional (oneOf "+-")).matches' := by
    intro s hs
    rw [mem_optional, mem_oneOf] at hs ⊢
    refine hs.imp_right ?_
    rintro ⟨c, hc, rfl⟩
    exact ⟨c, by simpa [or_comm] using hc, rfl⟩
  obtain ⟨_, hnumber, exponent, hexponent, rfl⟩ := mem_mul.1 hpattern
  obtain ⟨_, hfront, fraction, hfraction, rfl⟩ := mem_mul.1 hnumber
  obtain ⟨sign, hsign, whole, hwhole, rfl⟩ := mem_mul.1 hfront
  have hpoint : fraction ∈ (optional (word "." * optional digits)).matches' := by
    refine mem_optional.2 ((mem_optional.1 hfraction).imp_right ?_)
    intro hpart
    obtain ⟨_, hmark, run, hrun, rfl⟩ := mem_mul.1 hpart
    obtain ⟨c, hc, rfl⟩ := mem_oneOf.1 hmark
    have hc' : c = '.' ∨ c = ',' := by simpa using hc
    obtain rfl | rfl := hc'
    · exact append_mem (mem_word.2 rfl) (mem_optional.2 (.inr hrun))
    · exact absurd (by simp) hcomma
  have hpower : exponent ∈ (optional (oneOf "eE" * (optional (oneOf "+-") * digits))).matches' := by
    refine mem_optional.2 ((mem_optional.1 hexponent).imp_right ?_)
    intro hpart
    obtain ⟨mark, hmark, _, hsigned, rfl⟩ := mem_mul.1 hpart
    obtain ⟨sign, hsign, run, hrun, rfl⟩ := mem_mul.1 hsigned
    exact append_mem hmark (append_mem (hsigns hsign) hrun)
  rw [List.append_assoc sign]
  exact append_mem (append_mem (hsigns hsign) (mem_add.2 (.inl (append_mem hwhole hpoint)))) hpower

/-- What the `number` rule takes stands for a number unless it has a comma. -/
theorem isNaN_ofText_iff (h : isNumberText v format integer = true) :
    (ofText v).isNaN = true ↔ ',' ∈ v.toList := by
  have htext : ofText v = ofTrimmed v.toList := by
    have htrim := congrArg String.toList (trim_of_isNumberText h)
    rw [trim, String.toList_ofList] at htrim
    rw [ofText, htrim]
  rw [htext]
  constructor
  · intro hnan
    by_contra hcomma
    have hliteral := mem_decimalLiteral_of_mem_pattern (isNumberText_iff_mem.1 h) hcomma
    rw [isNaN_ofTrimmed_eq_false_iff.2 (.inr (.inr (.inr hliteral)))] at hnan
    cases hnan
  · exact fun hcomma => isNaN_ofTrimmed_of_mem hcomma (by decide) (by decide) (by decide)

end Numeral

namespace Comparison

/-- **Spelled numbers.** What the `number` rule takes is compared with a number as a number, unless
it has a comma; then its length is compared. Whole numbers have none. So a rule that compares a
value which passes the `number` rule orders the number, or with a comma the length. -/
theorem coerce_of_isNumberText (hv : isNumberText v format integer = true)
    (htarget : (Numeral.ofText target).isNaN = false) :
    coerce v target =
      (if ',' ∈ v.toList then .length v.length (Numeral.ofText target)
        else .numeric (Numeral.ofText v) (Numeral.ofText target)) ∧
    (integer = true → ',' ∉ v.toList) ∧
    ∀ {φ : Type} [Field φ] (f : φ) (mode : Option Mode), Field.value f = v →
      (∀ args, (args.head? == some "integer") = integer →
        Operator.number format f mode args = .pass) ∧
      ∀ relation token args, Field.operand f token = target →
        Operator.compare relation f mode (token :: args) =
          .require (((if ',' ∈ v.toList then Binary64.ofNat v.length else Numeral.ofText v).compare?
            (Numeral.ofText target)).any relation.admits) := by
  have hcoerce : coerce v target =
      if ',' ∈ v.toList then .length v.length (Numeral.ofText target)
      else .numeric (Numeral.ofText v) (Numeral.ofText target) := by
    simp only [coerce, isEmpty_of_isNumberText hv, htarget, Numeral.isNaN_ofText_iff hv,
      Bool.false_eq_true, if_false]
  refine ⟨hcoerce, ?_, ?_⟩
  · rintro rfl
    exact comma_not_mem_of_integer hv
  · rintro φ _ f mode rfl
    refine ⟨?_, ?_⟩
    · rintro args rfl
      simp [Operator.number, hv, Reply.require, Reply.pass]
    · rintro relation token args rfl
      rw [Operator.compare, compareTexts, trim_of_isNumberText hv, hcoerce]
      split
      · rfl
      · rfl

/-- A field whose value is a number with an exponent, between blanks. -/
def exponentField : PlainControl :=
  ⟨{ id := "form" }, { id := "count", value := " 1.5e3 " }⟩

/-- The number passes the rule, and it is not less than the number 100. -/
theorem coerce_exponentField :
    Field.value exponentField = "1.5e3" ∧ Field.operand exponentField "100" = "100" ∧
    coerce "1.5e3" "100" = .numeric (Numeral.ofText "1.5e3") (Numeral.ofText "100") ∧
    Operator.number .allowExponent exponentField none [] = .pass ∧
    Operator.compare .lt exponentField none ["100"] = .fail := by
  have hvalue : Field.value exponentField = "1.5e3" := by decide +kernel
  have htarget : Field.operand exponentField "100" = "100" := by decide +kernel
  obtain ⟨hcoerce, -, hrules⟩ := @coerce_of_isNumberText "1.5e3" "100" .allowExponent false
    (by decide +kernel) (by decide +kernel)
  obtain ⟨hnumber, hcompare⟩ := hrules exponentField none hvalue
  have hpoint : ',' ∉ "1.5e3".toList := by decide
  rw [if_neg hpoint] at hcoerce
  refine ⟨hvalue, htarget, hcoerce, hnumber [] rfl, (hcompare .lt "100" [] htarget).trans ?_⟩
  rw [if_neg hpoint]
  decide +kernel

/-- The number 250,5 passes the rule, but what is compared with the number 100 is its length. -/
theorem not_forall_coerce_numeric :
    ¬ ∀ v target format integer, isNumberText v format integer = true →
      (Numeral.ofText target).isNaN = false → ∃ x y, coerce v target = .numeric x y := by
  intro h
  have hcoerce : coerce "250,5" "100" = .length 5 (Numeral.ofText "100") := by decide +kernel
  obtain ⟨x, y, hnumeric⟩ :=
    h "250,5" "100" .allowExponent false (by decide +kernel) (by decide +kernel)
  rw [hcoerce] at hnumeric
  cases hnumeric

end Comparison

end FormRules
