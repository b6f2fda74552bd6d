import GroupQueue.Time.Calendar

/-!
# `Proofs.Time.Calendar` — days and dates

A day number is first cut into an era and a day of the era, that into a year and a day of the year from March,
and that into a month and a day of the month. Each cut loses nothing, so the date of a day has the number of
that day, and it is a date of the calendar.

## Contents
- `yearOfEra_spec`, `monthOfYear_spec` — the day lies in the year, and in the month, that is found for it.
- `dayNumber_eq`, `dayNumber_ofDay` — the date of a day has its number; `isValid_ofDay`.
- `month_ofDay_le`, `day_ofDay_le` — bounds of the month and the day.
-/

namespace GroupQueue.Date

/-- A day of an era lies in the year that is found for it. -/
theorem yearOfEra_spec {n : Nat} (hn : n < daysPerEra) :
    yearOfEra n < 400 ∧ daysBeforeYear (yearOfEra n) ≤ n ∧ n ≤ daysBeforeYear (yearOfEra n) + 365 := by
  unfold daysPerEra at hn
  unfold daysBeforeYear yearOfEra
  -- the last day of an era comes after four full centuries
  have hlast : n / 146096 = 0 ∨ n = 146096 := by omega
  rcases hlast with hlast | rfl
  · rw [hlast]
    generalize hcentury : n / 36524 = century
    have hfour : century < 4 := by omega
    generalize hyear : (n - n / 1460 + century - 0) / 365 = year
    have hyears : year / 100 = century := by omega
    rw [hyears]
    refine ⟨by omega, ?_, ?_⟩
    · omega
    · omega
  · decide

/-- A day of a year from March lies in the month that is found for it. -/
theorem monthOfYear_spec {n : Nat} (hn : n ≤ 365) :
    (5 * n + 2) / 153 < 12 ∧ daysBeforeMonth ((5 * n + 2) / 153) ≤ n
      ∧ n ≤ daysBeforeMonth ((5 * n + 2) / 153) + 30 := by
  unfold daysBeforeMonth
  omega

/-- A day of an era lies in the month that is found for it, of the year that is found for it. -/
theorem dayOfYear_spec {n : Nat} (hn : n < daysPerEra) : n - daysBeforeYear (yearOfEra n) ≤ 365 := by
  have hyear := yearOfEra_spec hn
  omega

/-- The number of the day with some era, year of the era, month and day, months being counted from March and days
    from zero. -/
theorem dayNumber_eq {era : Int} {year month : Nat} (day : Nat) (hyear : year < 400) (hmonth : month < 12) :
    let fromJanuary := if month < 10 then month + 3 else month - 9
    (Date.mk (year + era * 400 + (if fromJanuary ≤ 2 then 1 else 0)) fromJanuary (day + 1)).dayNumber
      = era * daysPerEra + daysBeforeYear year + daysBeforeMonth month + day - epochOffset := by
  intro fromJanuary
  have hera : (year + era * 400) / 400 = era := by omega
  have hyearOfEra : ((year + era * 400) % 400).toNat = year := by omega
  unfold dayNumber
  by_cases hspring : month < 10
  · have hfrom : fromJanuary = month + 3 := if_pos hspring
    have hlate : ¬ month + 3 ≤ 2 := by omega
    simp only [hfrom, hlate, if_false, Int.add_zero, hera, hyearOfEra, Nat.add_sub_cancel]
    omega
  · have hfrom : fromJanuary = month - 9 := if_neg hspring
    have hearly : month - 9 ≤ 2 := by omega
    have hmonths : month - 9 + 9 = month := by omega
    simp only [hfrom, hearly, if_true, Int.add_sub_cancel, hera, hyearOfEra, hmonths]
    omega

section Day

variable (n : Int)

/-- The day of its era that a day is. -/
theorem dayOfEra_lt : ((n + epochOffset) % daysPerEra).toNat < daysPerEra := by
  unfold daysPerEra
  omega

/-- **The date of a day has the number of that day.** -/
theorem dayNumber_ofDay : (ofDay n).dayNumber = n := by
  obtain ⟨hyear, hfirst, -⟩ := yearOfEra_spec (dayOfEra_lt n)
  obtain ⟨hmonth, hbefore, -⟩ := monthOfYear_spec (dayOfYear_spec (dayOfEra_lt n))
  refine (dayNumber_eq _ hyear hmonth).trans ?_
  unfold daysPerEra at *
  omega

theorem isValid_ofDay : (ofDay n).IsValid := by rw [IsValid, dayNumber_ofDay]

theorem month_ofDay_le : (ofDay n).month ≤ 12 := by
  obtain ⟨hmonth, -, -⟩ := monthOfYear_spec (dayOfYear_spec (dayOfEra_lt n))
  unfold ofDay
  dsimp only
  split <;> omega

theorem day_ofDay_le : (ofDay n).day ≤ 31 := by
  obtain ⟨-, -, hday⟩ := monthOfYear_spec (dayOfYear_spec (dayOfEra_lt n))
  unfold ofDay
  dsimp only
  omega

end Day

end GroupQueue.Date
