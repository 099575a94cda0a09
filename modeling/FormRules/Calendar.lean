import FormRules.Text.Digits

/-!
# Calendar days

Days are numbered from 1970-01-01 in the proleptic Gregorian calendar. A date text names a day when
building the day from its numbers and reading it back gives the same numbers; months and days that
overflow roll over, and the years 0 to 99 are taken to be 1900 to 1999, so neither reads back.

* `toDayNumber`, `ofDayNumber`: days as numbers and numbers as days.
* `isDateText`: the texts `YYYY-MM-DD` that name a day.
* `isLeap`, `daysInMonth`: the calendar itself.
-/

namespace FormRules.Calendar

open Text (number?)

/-! ## Day numbers -/

/-- The number of days from 1970-01-01 to a day (`days_from_civil`). The year is counted from March,
so that a leap day is its last day. -/
def toDayNumber (year month day : Int) : Int :=
  let y := if month ≤ 2 then year - 1 else year
  let era := y / 400
  let yearOfEra := y - era * 400
  let dayOfYear := (153 * (if month > 2 then month - 3 else month + 9) + 2) / 5 + day - 1
  let dayOfEra := yearOfEra * 365 + yearOfEra / 4 - yearOfEra / 100 + dayOfYear
  era * 146097 + dayOfEra - 719468

/-- Year, month and day of a day number (`civil_from_days`). -/
def ofDayNumber (number : Int) : Int × Int × Int :=
  let z := number + 719468
  let era := z / 146097
  let dayOfEra := z - era * 146097
  let yearOfEra := (dayOfEra - dayOfEra / 1460 + dayOfEra / 36524 - dayOfEra / 146096) / 365
  let dayOfYear := dayOfEra - (365 * yearOfEra + yearOfEra / 4 - yearOfEra / 100)
  let mp := (5 * dayOfYear + 2) / 153
  let day := dayOfYear - (153 * mp + 2) / 5 + 1
  let month := if mp < 10 then mp + 3 else mp - 9
  let year := yearOfEra + era * 400
  (if month ≤ 2 then year + 1 else year, month, day)

/-! ## Date texts -/

/-- Year, month and day of a text of the form `YYYY-MM-DD` (`split_iso_date`). -/
def split? : List Char → Option (Int × Int × Int)
  | [y₁, y₂, y₃, y₄, '-', m₁, m₂, '-', d₁, d₂] =>
    match number? 10 [y₁, y₂, y₃, y₄], number? 10 [m₁, m₂], number? 10 [d₁, d₂] with
    | some year, some month, some day => some (year, month, day)
    | _, _, _ => none
  | _ => none

/-- The day that a year, month and day number build, as `is_calendar_date` builds it by
`normalize_year_month`: overflow rolled over and two-digit years moved to the twentieth century. -/
def build (year month day : Int) : Int × Int × Int :=
  let year := if 0 ≤ year ∧ year ≤ 99 then 1900 + year else year
  let months := year * 12 + (month - 1)
  ofDayNumber (toDayNumber (months / 12) (months % 12 + 1) 1 + (day - 1))

/-- Tells the texts that name a day (`is_calendar_date`). -/
def isDateText (s : String) : Bool :=
  match split? s.toList with
  | none => false
  | some (year, month, day) => build year month day == (year, month, day)

/-! ## The calendar -/

/-- The years with a leap day. -/
def isLeap (year : Int) : Bool := year % 4 == 0 && (year % 100 != 0 || year % 400 == 0)

/-- The number of days of a month. -/
def daysInMonth (year month : Int) : Int :=
  if month = 2 then (if isLeap year then 29 else 28)
  else if month = 4 ∨ month = 6 ∨ month = 9 ∨ month = 11 then 30
  else 31

end FormRules.Calendar
