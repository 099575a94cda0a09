import FormRules.Proofs.Calendar

/-!
# The days one after the other

The next day is the next of its month; behind the last of a month it is the first of the next month,
and behind the last month the first of the next year. In the count from March on, a month and the
next one are a month's days apart, also from December to January, where only the calendar year
changes, and from February to March, where the counted year does. So the numbers of the days go up
by one from day to day, before the year 0 as well as after it.

* `dayAfter`: the next day.
* `monthFront_next`, `monthFront_january`: the days in front of the next month.
* `exists_dayAfter`: the next day has the next number.
* `ofDayNumber_bijective`: days and numbers in bijection, in order.
-/

namespace FormRules.Calendar

variable {year month day : Int}

/-- The day behind a day. -/
def dayAfter (year month day : Int) : Int × Int × Int :=
  if day < daysInMonth year month then (year, month, day + 1)
  else if month < 12 then (year, month + 1, 1)
  else (year + 1, 1, 1)

/-! ## Months -/

theorem one_le_daysInMonth (year month : Int) : 1 ≤ daysInMonth year month := by
  unfold daysInMonth
  split_ifs <;> omega

/-- The days in front of a month. -/
def monthFront (year month : Int) : Int :=
  yearStart (marchYear year month) + monthStart (marchMonth month)

theorem toDayNumber_eq_monthFront (year month day : Int) :
    toDayNumber year month day = monthFront year month + (day - 1) - 719468 :=
  toDayNumber_eq year month day

/-- In front of the next month are the days of this one too. -/
theorem monthFront_next (year : Int) (h : 1 ≤ month) (h' : month < 12) :
    monthFront year (month + 1) = monthFront year month + daysInMonth year month := by
  by_cases hm : month = 2
  · -- The year that is counted from March on ends with February.
    subst hm
    have hyear := yearStart_succ (year - 1)
    rw [Int.sub_add_cancel] at hyear
    show yearStart year + 0 = yearStart (year - 1) + 337 + if isLeap year then 29 else 28
    rw [hyear]
    split_ifs <;> omega
  · rw [daysInMonth, if_neg hm]
    interval_cases month <;> simp [monthFront, marchYear, marchMonth, monthStart] at * <;> omega

theorem monthFront_january (year : Int) :
    monthFront (year + 1) 1 = monthFront year 12 + daysInMonth year 12 := by
  show yearStart (year + 1 - 1) + 306 = yearStart year + 275 + 31
  rw [Int.add_sub_cancel]
  omega

/-! ## Days -/

/-- The next day is a day of the calendar and has the next number. -/
theorem exists_dayAfter (h : IsDay year month day) :
    ∃ year' month' day', dayAfter year month day = (year', month', day') ∧
      IsDay year' month' day' ∧ toDayNumber year' month' day' = toDayNumber year month day + 1 := by
  obtain ⟨h₁, h₂, h₃, h₄⟩ := h
  unfold dayAfter
  simp only [toDayNumber_eq_monthFront]
  by_cases hday : day < daysInMonth year month
  · refine ⟨year, month, day + 1, if_pos hday, ⟨h₁, h₂, by omega, by omega⟩, by omega⟩
  · rw [if_neg hday]
    by_cases hmonth : month < 12
    · have hfront := monthFront_next year h₁ hmonth
      have hfirst := one_le_daysInMonth year (month + 1)
      exact ⟨year, month + 1, 1, if_pos hmonth, ⟨by omega, by omega, le_rfl, hfirst⟩, by omega⟩
    · obtain rfl : month = 12 := by omega
      have hfront := monthFront_january year
      have hfirst := one_le_daysInMonth (year + 1) 1
      exact ⟨year + 1, 1, 1, rfl, ⟨le_rfl, by omega, le_rfl, hfirst⟩, by omega⟩

/-- **Day numbers.** The number of a day of the calendar is read back as this day. Every number is
read as a day of the calendar that has this number, and the next number is read as the next day. -/
theorem ofDayNumber_bijective :
    (∀ year month day, IsDay year month day →
      ofDayNumber (toDayNumber year month day) = (year, month, day)) ∧
    ∀ n, ∃ year month day, ofDayNumber n = (year, month, day) ∧
      IsDay year month day ∧ toDayNumber year month day = n ∧
      ofDayNumber (n + 1) = dayAfter year month day := by
  refine ⟨fun _ _ _ => ofDayNumber_toDayNumber, fun n => ?_⟩
  obtain ⟨year, month, day, hday, rfl⟩ := exists_isDay n
  refine ⟨year, month, day, ofDayNumber_toDayNumber hday, hday, rfl, ?_⟩
  obtain ⟨year', month', day', hafter, hday', hnumber⟩ := exists_dayAfter hday
  rw [hafter]
  exact ofDayNumber_eq_iff.2 ⟨hday', hnumber⟩

/-- The leap day of the year 0, whose number is negative, and the first day of March behind it. -/
theorem ofDayNumber_bijective_leapDay :
    IsDay 0 2 29 ∧ toDayNumber 0 2 29 = -719469 ∧
      ofDayNumber (toDayNumber 0 2 29) = (0, 2, 29) ∧
      ofDayNumber (-719469 + 1) = (0, 3, 1) := by
  have hday : IsDay 0 2 29 := by decide
  have hback := ofDayNumber_bijective.1 0 2 29 hday
  obtain ⟨year, month, day, hread, -, -, hnext⟩ := ofDayNumber_bijective.2 (-719469)
  rw [show (-719469 : Int) = toDayNumber 0 2 29 from rfl, hback] at hread
  cases hread
  exact ⟨hday, rfl, hback, hnext⟩

end FormRules.Calendar
