import FormRules.Proofs.Text.Digits
import Mathlib.Tactic.IntervalCases

/-!
# Writing numbers

A number is read back from its digits in a radix, also behind zeros, and with letters in either
case.

* `number?_concat`: a number with one more digit.
* `number?_toDigits`, `number?_replicate_zero`: the digits of a number, and zeros in front of them.
* `digit?_toLower`: digits in capitals.
* `IsNumeral`, `IsNumeral.number?_eq`: all the ways to write a number in a radix.
-/

namespace FormRules.Text

variable {radix n d : Nat} {c : Char} {s : List Char}

/-! ## The digits of a number -/

theorem number?_concat (hs : number? radix s = some n) (hc : digit? radix c = some d) :
    number? radix (s ++ [c]) = some (n * radix + d) := by
  obtain ⟨values, hvalues, rfl⟩ := number?_eq_some_iff.1 hs
  rw [number?_eq_some_iff]
  refine ⟨values ++ [d], ?_, valueOf_concat radix values d⟩
  rw [List.map_append, List.map_append, hvalues, List.map_singleton, List.map_singleton, hc]

theorem digit?_digitChar (hd : d < radix) (h16 : d < 16) :
    digit? radix (Nat.digitChar d) = some d := by
  interval_cases d <;> exact if_pos hd

/-- A number is read back from its digits. -/
theorem number?_toDigits (hradix : 1 < radix) (h16 : radix ≤ 16) (n : Nat) :
    number? radix (Nat.toDigits radix n) = some n := by
  induction n using Nat.strongRecOn with
  | ind n ih =>
    rw [Nat.toDigits_eq_if hradix]
    split_ifs with hn
    · have hdigit : digit? radix (Nat.digitChar n) = some n := digit?_digitChar hn (by omega)
      have hempty : number? radix [] = some 0 := rfl
      have hread := number?_concat hempty hdigit
      rwa [Nat.zero_mul, Nat.zero_add] at hread
    · have hmod : n % radix < radix := Nat.mod_lt n (by omega)
      have hdiv : n / radix < n := Nat.div_lt_self (by omega) hradix
      rw [number?_concat (ih (n / radix) hdiv) (digit?_digitChar hmod (by omega)),
        Nat.div_add_mod']

/-- Zeros in front count for nothing. -/
theorem number?_replicate_zero (hradix : 0 < radix) (hs : number? radix s = some n) (zeros : Nat) :
    number? radix (List.replicate zeros '0' ++ s) = some n := by
  obtain ⟨values, hvalues, rfl⟩ := number?_eq_some_iff.1 hs
  have hzero : digit? radix '0' = some 0 := if_pos hradix
  rw [number?_eq_some_iff]
  refine ⟨List.replicate zeros 0 ++ values, ?_, ?_⟩
  · rw [List.map_append, List.map_append, hvalues, List.map_replicate, List.map_replicate, hzero]
  · induction zeros with
    | zero => rfl
    | succ zeros ih =>
      rw [List.replicate_succ, List.cons_append, valueOf, List.foldl_cons, Nat.zero_mul]
      exact ih

/-! ## Letter case -/

/-- Letters are digits in either case. -/
theorem digit?_toLower (radix : Nat) (c : Char) : digit? radix c.toLower = digit? radix c := by
  by_cases h : c.isUpper = true
  · have hcode : c.val ≥ 'A'.val ∧ c.val ≤ 'Z'.val := of_decide_eq_true h
    have hlow : 65 ≤ c.toNat := UInt32.le_iff_toNat_le.1 hcode.1
    have hhigh : c.toNat ≤ 90 := UInt32.le_iff_toNat_le.1 hcode.2
    rw [← Char.ofNat_toNat c]
    generalize c.toNat = n at hlow hhigh
    interval_cases n <;> rfl
  · have hsame : c.toLower = c := dif_neg fun hcode => h (decide_eq_true hcode)
    rw [hsame]

theorem number?_map_toLower (radix : Nat) (s : List Char) :
    number? radix (s.map Char.toLower) = number? radix s := by
  have hdigits : (s.map Char.toLower).map (digit? radix) = s.map (digit? radix) := by
    rw [List.map_map]
    exact List.map_congr_left fun c _ => digit?_toLower radix c
  rw [Option.ext_iff]
  intro n
  rw [number?_eq_some_iff, number?_eq_some_iff, hdigits]

/-! ## All ways to write a number -/

/-- A number is written as its digits in a radix, with letters in either case and behind any
zeros. -/
def IsNumeral (radix n : Nat) (s : List Char) : Prop :=
  ∃ zeros, s.map Char.toLower = List.replicate zeros '0' ++ Nat.toDigits radix n

namespace IsNumeral

theorem number?_eq (h : IsNumeral radix n s) (hradix : 1 < radix) (h16 : radix ≤ 16) :
    number? radix s = some n := by
  obtain ⟨zeros, hs⟩ := h
  rw [← number?_map_toLower, hs]
  exact number?_replicate_zero (by omega) (number?_toDigits hradix h16 n) zeros

theorem exists_digit? (h : IsNumeral radix n s) (hradix : 1 < radix) (h16 : radix ≤ 16) :
    ∀ c ∈ s, ∃ d, digit? radix c = some d := by
  obtain ⟨values, hvalues, -⟩ := number?_eq_some_iff.1 (h.number?_eq hradix h16)
  intro c hc
  have hmem : digit? radix c ∈ values.map some := by
    rw [← hvalues]
    exact List.mem_map_of_mem hc
  obtain ⟨d, -, hd⟩ := List.mem_map.1 hmem
  exact ⟨d, hd.symm⟩

theorem ne_nil (h : IsNumeral radix n s) : s ≠ [] := by
  rintro rfl
  obtain ⟨zeros, hs⟩ := h
  have hempty := (List.append_eq_nil_iff.1 hs.symm).2
  exact Nat.toDigits_ne_nil hempty

end IsNumeral

end FormRules.Text
