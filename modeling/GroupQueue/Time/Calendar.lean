/-!
# `GroupQueue.Time.Calendar` — dates of the Gregorian calendar

Days are numbered from 1970-01-01. The calendar repeats every 400 years (146097 days); inside such an
era, years are counted from the first of March, so that a leap day is the last day of its year.

## Contents
- `Date` — year, month and day.
- `Date.ofDay`, `Date.dayNumber` — from and to day numbers.
- `Date.IsValid` — the date occurs in the calendar.
- `firstDay`, `lastDay` — the days that instants range over.
-/

namespace GroupQueue

/-- A date; the year 0 is the one before the year 1. -/
structure Date where
  year : Int
  month : Nat
  day : Nat
deriving DecidableEq, Repr

namespace Date

/-- Days in an era of 400 years. -/
def daysPerEra : Nat := 146097

/-- Days from 0000-03-01, where the first era begins, to 1970-01-01. -/
def epochOffset : Nat := 719468

/-- The days of an era that lie before its year `y`. -/
def daysBeforeYear (y : Nat) : Nat := 365 * y + y / 4 - y / 100

/-- The days of a year from March that lie before its month `m`, March being month 0. -/
def daysBeforeMonth (m : Nat) : Nat := (153 * m + 2) / 5

/-- The year of an era that its day `n` lies in. -/
def yearOfEra (n : Nat) : Nat := (n - n / 1460 + n / 36524 - n / 146096) / 365

/-- The date with day number `n`. -/
def ofDay (n : Int) : Date :=
  let shifted := n + epochOffset
  let era := shifted / daysPerEra
  let dayOfEra := (shifted % daysPerEra).toNat
  let yoe := yearOfEra dayOfEra
  let dayOfYear := dayOfEra - daysBeforeYear yoe
  let m := (5 * dayOfYear + 2) / 153
  let month := if m < 10 then m + 3 else m - 9
  { year := yoe + era * 400 + (if month ≤ 2 then 1 else 0)
    month := month
    day := dayOfYear - daysBeforeMonth m + 1 }

/-- The number of days from 1970-01-01 to the date. -/
def dayNumber (d : Date) : Int :=
  let y := if d.month ≤ 2 then d.year - 1 else d.year
  let m := if d.month ≤ 2 then d.month + 9 else d.month - 3
  (y / 400) * daysPerEra + daysBeforeYear (y % 400).toNat + daysBeforeMonth m + d.day - 1
    - epochOffset

/-- The date occurs in the calendar: it is the date of its own day number. -/
def IsValid (d : Date) : Prop := ofDay d.dayNumber = d

instance (d : Date) : Decidable d.IsValid := inferInstanceAs (Decidable (_ = _))

/-- The day number of -262143-01-01. -/
def firstDay : Int := -96465292

/-- The day number of 262142-12-31. -/
def lastDay : Int := 95026236

example : (⟨-262143, 1, 1⟩ : Date).dayNumber = firstDay := by decide
example : (⟨262142, 12, 31⟩ : Date).dayNumber = lastDay := by decide
example : ofDay firstDay = ⟨-262143, 1, 1⟩ := by decide
example : ofDay lastDay = ⟨262142, 12, 31⟩ := by decide
example : ¬ (⟨2023, 2, 29⟩ : Date).IsValid := by decide
example : (⟨2024, 2, 29⟩ : Date).IsValid := by decide

end Date

end GroupQueue
