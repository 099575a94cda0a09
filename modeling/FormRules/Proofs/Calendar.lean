import FormRules.Calendar
import FormRules.Proofs.Text.Digits
import Mathlib.Data.Int.LeastGreatest
import Mathlib.Data.List.Basic
import Mathlib.Tactic.IntervalCases

/-!
# Day numbers and dates

Days are counted in years that begin on the first of March. Such a year ends with the leap day, if
it has one, so what is in front of a year and what is in front of a month are each given by one
formula: `yearStart` counts the days in front of a year, `monthStart` those in front of a month of a
year.

* `IsDay`: the days of the calendar.
* `toDayNumber_eq`: the number of a day is what is in front of its year, its month and itself.
* `yearOfEra_eq`, `ofDayNumber_eq`: the year and the month in which a number falls.
* `ofDayNumber_eq_iff`: reading a number as a day is the inverse of numbering the days.
* `build_eq_iff`: the numbers that are read back as they were built.
* `isDateText_iff`: the texts that name a day.
-/

namespace FormRules.Calendar

open Text (decimal number? number?_ten)

/-! ## The calendar -/

/-- The days of the calendar. -/
structure IsDay (year month day : Int) : Prop where
  one_le_month : 1 ≤ month
  month_le : month ≤ 12
  one_le_day : 1 ≤ day
  day_le : day ≤ daysInMonth year month

instance (year month day : Int) : Decidable (IsDay year month day) :=
  decidable_of_iff (1 ≤ month ∧ month ≤ 12 ∧ 1 ≤ day ∧ day ≤ daysInMonth year month)
    ⟨fun ⟨h₁, h₂, h₃, h₄⟩ => ⟨h₁, h₂, h₃, h₄⟩, fun ⟨h₁, h₂, h₃, h₄⟩ => ⟨h₁, h₂, h₃, h₄⟩⟩

theorem isLeap_iff {year : Int} :
    isLeap year = true ↔ year % 4 = 0 ∧ (year % 100 ≠ 0 ∨ year % 400 = 0) := by
  simp [isLeap]

/-! ## Years and months from March on -/

/-- The year that begins in March and holds a month. -/
def marchYear (year month : Int) : Int := if month ≤ 2 then year - 1 else year

/-- The place of a month behind March. -/
def marchMonth (month : Int) : Int := if month > 2 then month - 3 else month + 9

/-- The days in front of a year that begins in March. -/
def yearStart (y : Int) : Int := 365 * y + y / 4 - y / 100 + y / 400

/-- The days of a year in front of a month. -/
def monthStart (m : Int) : Int := (153 * m + 2) / 5

/-- A year has a leap day at its end if the year in which it ends is a leap year. -/
theorem yearStart_succ (y : Int) :
    yearStart (y + 1) = yearStart y + if isLeap (y + 1) then 366 else 365 := by
  unfold yearStart
  by_cases h : isLeap (y + 1) = true
  · rw [if_pos h]
    rw [isLeap_iff] at h
    omega
  · rw [if_neg h]
    rw [isLeap_iff] at h
    omega

/-- The number of a day is the sum of the days in front of it. Number 0 is in the year 1970. -/
theorem toDayNumber_eq (year month day : Int) :
    toDayNumber year month day =
      yearStart (marchYear year month) + monthStart (marchMonth month) + (day - 1) - 719468 := by
  unfold toDayNumber yearStart monthStart marchYear marchMonth
  dsimp only
  generalize (if month ≤ 2 then year - 1 else year) = y
  omega

/-- The years of an era, in centuries, in fours of years and in years. -/
theorem yearOfEra_eq {k n : Int} (hk : 0 ≤ k) (hk' : k < 400) (h : yearStart k ≤ n)
    (h' : n < yearStart (k + 1)) :
    (n - n / 1460 + n / 36524 - n / 146096) / 365 = k := by
  obtain ⟨c, q, y, rfl, hc, hq, hy, hc', hq', hy'⟩ : ∃ c q y : Int, k = 100 * c + 4 * q + y ∧
      0 ≤ c ∧ 0 ≤ q ∧ 0 ≤ y ∧ c < 4 ∧ q < 25 ∧ y < 4 :=
    ⟨k / 100, k % 100 / 4, k % 4, by omega, by omega, by omega, by omega, by omega, by omega,
      by omega⟩
  have hstart : yearStart (100 * c + 4 * q + y) = 36524 * c + 1461 * q + 365 * y := by
    unfold yearStart
    omega
  have hend : yearStart (100 * c + 4 * q + y + 1) = 36524 * c + 1461 * q + 365 * y +
      if y = 3 ∧ (q < 24 ∨ c = 3) then 366 else 365 := by
    unfold yearStart
    omega
  rw [hstart] at h
  rw [hend] at h'
  have hcenturies : n / 36524 - n / 146096 = c := by
    -- The last day of an era is the only one behind four full centuries.
    by_cases hlast : n = 146096
    · subst hlast
      omega
    · have hn : n < 36524 * (c + 1) := by omega
      have hn' : n < 146096 := by omega
      omega
  have hfours : n / 1460 = 25 * c + q + (n - 36500 * c - 1460 * q) / 1460 := by omega
  omega

/-- The month in which a day of a year falls. -/
theorem month_eq {m n : Int} (h : monthStart m ≤ n) (h' : n < monthStart (m + 1)) :
    (5 * n + 2) / 153 = m := by
  unfold monthStart at h h'
  omega

/-- A number falls in the year and month with the days in front of it. -/
theorem ofDayNumber_eq {y m n : Int} (hm : 0 ≤ m) (hm' : m ≤ 11) (h : yearStart y ≤ n)
    (h' : n < yearStart (y + 1)) (hn : monthStart m ≤ n - yearStart y)
    (hn' : n - yearStart y < monthStart (m + 1)) :
    ofDayNumber (n - 719468) =
      (if m < 10 then y else y + 1, if m < 10 then m + 3 else m - 9,
        n - yearStart y - monthStart m + 1) := by
  obtain ⟨era, k, rfl, hk, hk'⟩ : ∃ era k : Int, y = 400 * era + k ∧ 0 ≤ k ∧ k < 400 :=
    ⟨y / 400, y % 400, by omega, by omega, by omega⟩
  have hshift : ∀ j, yearStart (400 * era + j) = 146097 * era + yearStart j := by
    intro j
    unfold yearStart
    omega
  rw [hshift] at h hn hn' ⊢
  rw [Int.add_assoc, hshift] at h'
  have hera : n / 146097 = era := by
    have hlow : 0 ≤ yearStart k := by
      unfold yearStart
      omega
    have hhigh : yearStart (k + 1) ≤ 146097 := by
      unfold yearStart
      omega
    omega
  have hyear := yearOfEra_eq hk hk' (n := n - era * 146097) (by omega) (by omega)
  have hfront : 365 * k + k / 4 - k / 100 = yearStart k := by
    unfold yearStart
    omega
  have hmonth := month_eq hn hn'
  have hday : n - era * 146097 - (365 * k + k / 4 - k / 100) =
      n - (146097 * era + yearStart k) := by
    omega
  have hyear' : (if (if m < 10 then m + 3 else m - 9) ≤ 2 then k + era * 400 + 1
      else k + era * 400) = if m < 10 then 400 * era + k else 400 * era + k + 1 := by
    split_ifs <;> omega
  unfold ofDayNumber
  simp only [Int.sub_add_cancel, hera, hyear, hday, hmonth, hyear', monthStart]

/-! ## Days and their numbers -/

variable {year month day : Int}

theorem marchMonth_range (h : 1 ≤ month) (h' : month ≤ 12) :
    0 ≤ marchMonth month ∧ marchMonth month ≤ 11 := by
  unfold marchMonth
  omega

/-- A month ends where the next one starts, or with its year. -/
theorem daysInMonth_eq (year : Int) (h : 1 ≤ month) (h' : month ≤ 12) :
    daysInMonth year month = min (monthStart (marchMonth month + 1) - monthStart (marchMonth month))
      (yearStart (marchYear year month + 1) - yearStart (marchYear year month) -
        monthStart (marchMonth month)) := by
  rw [yearStart_succ, add_sub_cancel_left]
  by_cases hm : month = 2
  · subst hm
    show (if isLeap year then 29 else 28) =
      min (367 - 337) ((if isLeap (year - 1 + 1) then 366 else 365) - 337)
    rw [Int.sub_add_cancel]
    split_ifs <;> rfl
  · have hyear : 365 ≤ if isLeap (marchYear year month + 1) = true then (366 : Int) else 365 := by
      split_ifs <;> omega
    generalize (if isLeap (marchYear year month + 1) = true then (366 : Int) else 365) = n at hyear
    rw [daysInMonth, if_neg hm]
    interval_cases month <;> simp [marchMonth, monthStart] at * <;> omega

/-- The days of the calendar, counted from March on. -/
theorem isDay_iff :
    IsDay year month day ↔ (1 ≤ month ∧ month ≤ 12) ∧ 1 ≤ day ∧
      monthStart (marchMonth month) + (day - 1) < monthStart (marchMonth month + 1) ∧
      yearStart (marchYear year month) + (monthStart (marchMonth month) + (day - 1)) <
        yearStart (marchYear year month + 1) := by
  constructor
  · rintro ⟨h₁, h₂, h₃, h₄⟩
    rw [daysInMonth_eq year h₁ h₂] at h₄
    omega
  · rintro ⟨⟨h₁, h₂⟩, h₃, h₄, h₅⟩
    refine ⟨h₁, h₂, h₃, ?_⟩
    rw [daysInMonth_eq year h₁ h₂]
    omega

/-- The number of a day is read back as this day. -/
theorem ofDayNumber_toDayNumber (h : IsDay year month day) :
    ofDayNumber (toDayNumber year month day) = (year, month, day) := by
  obtain ⟨hmonth, hday, hend, hyear⟩ := isDay_iff.1 h
  obtain ⟨hm, hm'⟩ := marchMonth_range hmonth.1 hmonth.2
  have hstart : 0 ≤ monthStart (marchMonth month) := by
    unfold monthStart
    omega
  rw [toDayNumber_eq, ofDayNumber_eq (y := marchYear year month) hm hm' (by omega) (by omega)
    (by omega) (by omega)]
  unfold marchYear marchMonth
  simp only [Prod.mk.injEq]
  omega

/-- Every number falls in a year. -/
theorem exists_yearStart (n : Int) : ∃ y, yearStart y ≤ n ∧ n < yearStart (y + 1) := by
  have hbound : ∃ b, ∀ y, yearStart y ≤ n → y ≤ b := by
    refine ⟨max n 0, fun y hy => ?_⟩
    unfold yearStart at hy
    omega
  have hsome : ∃ y, yearStart y ≤ n := by
    refine ⟨min n 0 - 1, ?_⟩
    unfold yearStart
    omega
  obtain ⟨y, hy, hmax⟩ := Int.exists_greatest_of_bdd hbound hsome
  refine ⟨y, hy, ?_⟩
  by_contra hnext
  have := hmax (y + 1) (by omega)
  omega

/-- Every number is the number of a day. -/
theorem exists_isDay (n : Int) :
    ∃ year month day, IsDay year month day ∧ toDayNumber year month day = n := by
  obtain ⟨y, hy, hy'⟩ := exists_yearStart (n + 719468)
  have hlength : yearStart (y + 1) ≤ yearStart y + 366 := by
    rw [yearStart_succ]
    split_ifs <;> omega
  obtain ⟨m, hm, hm', hday, hday'⟩ : ∃ m, 0 ≤ m ∧ m ≤ 11 ∧
      monthStart m ≤ n + 719468 - yearStart y ∧ n + 719468 - yearStart y < monthStart (m + 1) := by
    unfold monthStart
    exact ⟨(5 * (n + 719468 - yearStart y) + 2) / 153, by omega⟩
  -- January and February belong to the calendar year in which the year from March on ends.
  by_cases h : m < 10
  · have hmonth : marchMonth (m + 3) = m := by
      unfold marchMonth
      omega
    have hyear : marchYear y (m + 3) = y := by
      unfold marchYear
      omega
    refine ⟨y, m + 3, n + 719468 - yearStart y - monthStart m + 1, ?_, ?_⟩
    · rw [isDay_iff, hmonth, hyear]
      omega
    · rw [toDayNumber_eq, hmonth, hyear]
      omega
  · have hmonth : marchMonth (m - 9) = m := by
      unfold marchMonth
      omega
    have hyear : marchYear (y + 1) (m - 9) = y := by
      unfold marchYear
      omega
    refine ⟨y + 1, m - 9, n + 719468 - yearStart y - monthStart m + 1, ?_, ?_⟩
    · rw [isDay_iff, hmonth, hyear]
      omega
    · rw [toDayNumber_eq, hmonth, hyear]
      omega

/-- Reading a number as a day gives the day that has this number. -/
theorem ofDayNumber_eq_iff {n : Int} :
    ofDayNumber n = (year, month, day) ↔ IsDay year month day ∧ toDayNumber year month day = n := by
  constructor
  · intro h
    obtain ⟨year', month', day', hday, rfl⟩ := exists_isDay n
    rw [ofDayNumber_toDayNumber hday] at h
    cases h
    exact ⟨hday, rfl⟩
  · rintro ⟨hday, rfl⟩
    exact ofDayNumber_toDayNumber hday

/-! ## Building days -/

/-- Only a day of the calendar is read back as it was built, and only if its year is not moved. -/
theorem build_eq_iff :
    build year month day = (year, month, day) ↔
      IsDay year month day ∧ ¬ (0 ≤ year ∧ year ≤ 99) := by
  unfold build
  dsimp only
  rw [ofDayNumber_eq_iff, and_congr_right_iff]
  intro h
  have hmonth := And.intro h.one_le_month h.month_le
  have hbuilt : ∀ y : Int, (y * 12 + (month - 1)) / 12 = y ∧
      (y * 12 + (month - 1)) % 12 + 1 = month := by
    intro y
    omega
  simp only [hbuilt]
  rw [toDayNumber_eq, toDayNumber_eq]
  split_ifs with hyear
  · have hmoved : marchYear (1900 + year) month = marchYear year month + 1900 := by
      unfold marchYear
      omega
    have hlater : yearStart (marchYear year month) < yearStart (marchYear year month + 1900) := by
      unfold yearStart
      omega
    rw [hmoved]
    simp only [hyear, and_self, not_true, iff_false]
    omega
  · simp only [hyear, not_false_eq_true, iff_true]
    omega

/-! ## Date texts -/

/-- A text is a year, a month and a day of four, two and two digits, with dashes between them. -/
structure IsDated (s ys ms ds : List Char) : Prop where
  text : s = ys ++ '-' :: (ms ++ '-' :: ds)
  length_year : ys.length = 4
  length_month : ms.length = 2
  length_day : ds.length = 2
  digits : ys.all Char.isDigit = true ∧ ms.all Char.isDigit = true ∧ ds.all Char.isDigit = true

theorem split?_eq_some_iff {s : List Char} :
    split? s = some (year, month, day) ↔ ∃ ys ms ds, IsDated s ys ms ds ∧
      year = decimal ys ∧ month = decimal ms ∧ day = decimal ds := by
  constructor
  · intro h
    unfold split? at h
    split at h
    · rename_i y₁ y₂ y₃ y₄ m₁ m₂ d₁ d₂
      split at h
      · rename_i hy hm hd
        cases h
        rw [number?_ten, Option.ite_none_right_eq_some, Option.some_inj] at hy hm hd
        refine ⟨[y₁, y₂, y₃, y₄], [m₁, m₂], [d₁, d₂], ⟨rfl, rfl, rfl, rfl, hy.1, hm.1, hd.1⟩, ?_⟩
        rw [hy.2, hm.2, hd.2]
        exact ⟨rfl, rfl, rfl⟩
      · cases h
    · cases h
  · rintro ⟨ys, ms, ds, ⟨rfl, hy, hm, hd, hdigits⟩, rfl, rfl, rfl⟩
    obtain ⟨y₁, y₂, y₃, y₄, rfl⟩ := List.length_eq_four.1 hy
    obtain ⟨m₁, m₂, rfl⟩ := List.length_eq_two.1 hm
    obtain ⟨d₁, d₂, rfl⟩ := List.length_eq_two.1 hd
    simp only [split?, List.cons_append, List.nil_append, number?_ten, hdigits, if_true]

/-- A text names a day if its numbers are read back as they were built. -/
theorem isDateText_iff_build {s : String} :
    isDateText s = true ↔ ∃ year month day, split? s.toList = some (year, month, day) ∧
      build year month day = (year, month, day) := by
  unfold isDateText
  cases h : split? s.toList with
  | none => simp
  | some date =>
    obtain ⟨year, month, day⟩ := date
    constructor
    · intro hbuild
      exact ⟨year, month, day, rfl, eq_of_beq hbuild⟩
    · rintro ⟨year', month', day', hdate, hbuild⟩
      cases hdate
      exact beq_iff_eq.2 hbuild

/-- **Date texts.** A text names a day exactly when it consists of four digits, a dash, two digits,
a dash and two digits that write a year from 100 to 9999, a month of the year and a day of this
month. February has 29 days exactly in the years that 4 divides and 100 does not, or that 400
divides. -/
theorem isDateText_iff (s : String) :
    (isDateText s = true ↔ ∃ ys ms ds, IsDated s.toList ys ms ds ∧
      (100 ≤ decimal ys ∧ decimal ys ≤ 9999) ∧ (1 ≤ decimal ms ∧ decimal ms ≤ 12) ∧
      1 ≤ decimal ds ∧ decimal ds ≤ daysInMonth (decimal ys) (decimal ms)) ∧
    ∀ year, daysInMonth year 2 = 29 ↔ 4 ∣ year ∧ ¬ 100 ∣ year ∨ 400 ∣ year := by
  refine ⟨?_, ?_⟩
  · simp only [isDateText_iff_build, split?_eq_some_iff]
    constructor
    · rintro ⟨_, _, _, ⟨ys, ms, ds, hs, rfl, rfl, rfl⟩, hbuild⟩
      obtain ⟨⟨h₁, h₂, h₃, h₄⟩, hyear⟩ := build_eq_iff.1 hbuild
      have hlt := Text.decimal_lt hs.digits.1
      rw [hs.length_year] at hlt
      exact ⟨ys, ms, ds, hs, by omega, by omega, by omega, h₄⟩
    · rintro ⟨ys, ms, ds, hs, hyear, hmonth, hday, hday'⟩
      refine ⟨_, _, _, ⟨ys, ms, ds, hs, rfl, rfl, rfl⟩, ?_⟩
      exact build_eq_iff.2 ⟨⟨by omega, by omega, by omega, hday'⟩, by omega⟩
  · intro year
    have hleap : isLeap year = true ↔ 4 ∣ year ∧ ¬ 100 ∣ year ∨ 400 ∣ year := by
      rw [isLeap_iff]
      omega
    rw [← hleap, daysInMonth, if_pos rfl]
    split_ifs with h
    · simp [h]
    · simp [h]

example : IsDay 2000 2 29 ∧ ¬ IsDay 1900 2 29 := by decide

end FormRules.Calendar
