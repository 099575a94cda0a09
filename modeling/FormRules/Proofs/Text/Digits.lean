import FormRules.Text.Digits
import FormRules.Text.Blank
import Mathlib.Data.Nat.Digits.Defs

/-!
# Numbers and their digits

Numbers are written with the digit of most weight in front. What the digits of a text are worth is
read off one by one, and what they are worth together is a sum of powers of the radix.

* `valueOf`, `valueOf_lt`: what digits are worth together.
* `number?_eq_some_iff`: the number that a text writes in a radix.
* `number?_ten`: decimal numbers are written with the ten ASCII digits.
* `isBlank_of_digit?`: no digit is a blank.
-/

namespace FormRules.Text

/-! ## Digits together -/

/-- What digits are worth together in a radix. -/
def valueOf (radix : Nat) (values : List Nat) : Nat := values.foldl (fun n d => n * radix + d) 0

theorem valueOf_eq_ofDigits (radix : Nat) (values : List Nat) :
    valueOf radix values = Nat.ofDigits radix values.reverse := by
  rw [valueOf, Nat.ofDigits_eq_foldr, List.foldr_reverse]
  simp only [Nat.cast_id, Nat.mul_comm, Nat.add_comm]

theorem valueOf_concat (radix : Nat) (s : List Nat) (d : Nat) :
    valueOf radix (s ++ [d]) = valueOf radix s * radix + d := by
  rw [valueOf, List.foldl_append]
  rfl

theorem valueOf_lt {radix : Nat} {values : List Nat} (hradix : 1 < radix)
    (h : ∀ d ∈ values, d < radix) : valueOf radix values < radix ^ values.length := by
  rw [valueOf_eq_ofDigits, ← List.length_reverse]
  exact Nat.ofDigits_lt_base_pow_length hradix fun d hd => h d (List.mem_reverse.1 hd)

/-! ## The digits of a text -/

variable {radix : Nat} {c : Char} {s : List Char}

theorem isDigit_iff : c.isDigit = true ↔ '0' ≤ c ∧ c ≤ '9' := by
  simp only [Char.isDigit, Bool.and_eq_true, decide_eq_true_eq]
  rfl

theorem digit?_ten (c : Char) :
    digit? 10 c = if c.isDigit then some (c.toNat - '0'.toNat) else none := by
  unfold digit?
  by_cases h : c.isDigit = true
  · have hrange : '0'.toNat ≤ c.toNat ∧ c.toNat ≤ '9'.toNat := isDigit_iff.1 h
    have hvalue : c.toNat - '0'.toNat < 10 := by
      have h9 : '9'.toNat = '0'.toNat + 9 := rfl
      omega
    simp only [if_pos (isDigit_iff.1 h), if_pos h, if_pos hvalue]
  · simp only [if_neg (isDigit_iff.not.1 h), if_neg h]
    rw [if_neg]
    split_ifs <;> omega

/-- Digits are letters and digits of ASCII. -/
theorem range_of_digit? {d : Nat} (h : digit? radix c = some d) :
    '0' ≤ c ∧ c ≤ '9' ∨ 'a' ≤ c ∧ c ≤ 'z' ∨ 'A' ≤ c ∧ c ≤ 'Z' := by
  by_contra hnone
  simp only [not_or] at hnone
  simp [digit?, hnone] at h

theorem isBlank_of_digit? {d : Nat} (h : digit? radix c = some d) : isBlank c = false := by
  have hcode : 48 ≤ c.toNat ∧ c.toNat ≤ 122 := by
    rcases range_of_digit? h with h | h | h <;>
    · have hlow : _ ≤ c.toNat := h.1
      have hhigh : c.toNat ≤ _ := h.2
      simp at hlow hhigh
      omega
  simp only [isBlank, Bool.or_eq_false_iff, Bool.and_eq_false_iff, decide_eq_false_iff_not,
    beq_eq_false_iff_ne]
  omega

theorem digit?_lt {d : Nat} (h : digit? radix c = some d) : d < radix := by
  unfold digit? at h
  dsimp only at h
  split_ifs at h <;> simp_all

/-! ## The number of a text -/

theorem mapM_eq_some_iff {α β : Type} {f : α → Option β} {s : List α} {values : List β} :
    s.mapM f = some values ↔ s.map f = values.map some := by
  induction s generalizing values with
  | nil => cases values <;> simp
  | cons a s ih =>
    rw [List.mapM_cons, List.map_cons]
    cases f a with
    | none => cases values <;> simp
    | some b =>
      cases h : s.mapM f with
      | none =>
        have hnone : ∀ t : List β, s.map f ≠ t.map some := fun t ht => by simp [ih.2 ht] at h
        cases values <;> simp [hnone]
      | some t =>
        have ht : s.map f = t.map some := ih.1 h
        cases values <;> simp [ht, List.map_inj_right]

/-- The number of a text is what its digits are worth together, and each of them is a digit. -/
theorem number?_eq_some_iff {n : Nat} :
    number? radix s = some n ↔
      ∃ values, s.map (digit? radix) = values.map some ∧ valueOf radix values = n := by
  simp only [number?, Option.map_eq_some_iff, mapM_eq_some_iff]
  rfl

theorem lt_of_map_digit? {values : List Nat} (h : s.map (digit? radix) = values.map some) :
    ∀ d ∈ values, d < radix := by
  intro d hd
  have hmem : some d ∈ s.map (digit? radix) := by
    rw [h]
    exact List.mem_map_of_mem hd
  obtain ⟨c, -, hc⟩ := List.mem_map.1 hmem
  exact digit?_lt hc

/-- Decimal numbers are written with the ten ASCII digits and no others. -/
theorem number?_ten (s : List Char) :
    number? 10 s = if s.all Char.isDigit then some (decimal s) else none := by
  have hdecimal : decimal s = valueOf 10 (s.map fun c => c.toNat - '0'.toNat) := by
    rw [valueOf, List.foldl_map, decimal]
  by_cases hs : s.all Char.isDigit = true
  · rw [if_pos hs, number?_eq_some_iff, hdecimal]
    refine ⟨_, ?_, rfl⟩
    rw [List.map_map]
    apply List.map_congr_left
    intro c hc
    rw [digit?_ten, if_pos (List.all_eq_true.1 hs c hc)]
    rfl
  · rw [if_neg hs, Option.eq_none_iff_forall_ne_some]
    intro n hn
    obtain ⟨values, hvalues, -⟩ := number?_eq_some_iff.1 hn
    apply hs
    rw [List.all_eq_true]
    intro c hc
    have hsome : digit? 10 c ∈ values.map some := by
      rw [← hvalues]
      exact List.mem_map_of_mem hc
    obtain ⟨d, -, hd⟩ := List.mem_map.1 hsome
    rw [digit?_ten] at hd
    by_contra hdigit
    simp [hdigit] at hd

theorem number?_lt {n : Nat} (hradix : 1 < radix) (h : number? radix s = some n) :
    n < radix ^ s.length := by
  obtain ⟨values, hvalues, rfl⟩ := number?_eq_some_iff.1 h
  have hlength : s.length = values.length := by simpa using congrArg List.length hvalues
  rw [hlength]
  exact valueOf_lt hradix (lt_of_map_digit? hvalues)

theorem decimal_lt (h : s.all Char.isDigit = true) : decimal s < 10 ^ s.length := by
  apply number?_lt (by omega)
  rw [number?_ten, if_pos h]

end FormRules.Text
