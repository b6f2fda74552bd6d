import GroupQueue.Proofs.Text.Digits
import GroupQueue.Proofs.Time.Calendar
import GroupQueue.Time.Reading

/-!
# `Proofs.Time.Stamp` — a stamp is read as the instant that it was written for

Reading is more lenient than writing, so each part of a stamp has to be found where it was written and nothing
more taken: numbers end where no digit follows, the parts between them are fixed characters, and a fraction is
as exact as the digits that are written. What is read in the end are the day, the time of day and the fraction
that the instant was split into, and they make up the instant.

## Contents
- `StampReader.run_bind` — one reader after another; the pieces `number_spells`, `blanks_cons`, `field_padded`,
  `separator_cons`, `year_text`, `fraction_text`.
- `StampReader.day_text` — the date of a day in range is read as its number.
- `Instant.read?_stamp` — an instant in range is read back from its stamp.
-/

namespace GroupQueue

open Text (Spells NoDigitAhead noDigitAhead_cons spells_padded length_padded)

namespace StampReader

/-! ## Pieces -/

section Pieces

variable {α β : Type} {cs rest : List Char}

/-- A reader goes on where the one before it has stopped. -/
theorem run_bind {reader : StampReader α} {f : α → StampReader β} {a : α}
    (h : reader cs = some (a, rest)) : (reader >>= f) cs = f a rest := by
  show (reader cs).bind _ = _
  rw [h]
  rfl

theorem run_get (cs : List Char) : (get : StampReader (List Char)) cs = some (cs, cs) := rfl

theorem run_guard {p : Prop} [Decidable p] (h : p) : (guard p : StampReader Unit) cs = some ((), cs) := by
  show (if p then pure () else failure : StampReader Unit) cs = _
  rw [if_pos h]
  rfl

theorem run_oneOf {allowed : List Char} {c : Char} (h : allowed.contains c = true) :
    (discard (oneOf allowed)) (c :: rest) = some ((), rest) := by
  show (oneOf allowed (c :: rest)).bind _ = _
  rw [oneOf, if_pos h]
  rfl

/-- A number is read off its digits. -/
theorem number_spells {ds : List Char} {n limit : Nat} (h : Spells ds n) (hlength : ds.length ≤ limit)
    (hrest : NoDigitAhead rest) : number limit (ds ++ rest) = some (n, rest) := by
  have hempty : ds.isEmpty = false := by simpa using h.ne_nil
  unfold number
  rw [h.takeWhile hrest, List.take_of_length_le hlength]
  dsimp only
  rw [if_neg (by simp [hempty]), h.value, List.drop_left]

theorem blanks_cons {c : Char} (h : Text.isBlank c = false) : blanks (c :: cs) = some ((), c :: cs) := by
  rw [blanks, Text.trimStart, List.dropWhile_cons_of_neg (by simp [h])]

theorem isBlank_of_isDigit {c : Char} (h : c.isDigit = true) : Text.isBlank c = false := by
  obtain ⟨hge, hle⟩ := Char.isDigit_iff_toNat.mp h
  have hfirst : '0'.toNat = 48 := rfl
  have hlast : '9'.toNat = 57 := rfl
  simp only [Text.isBlank, Bool.or_eq_false_iff, Bool.and_eq_false_iff, decide_eq_false_iff_not,
    beq_eq_false_iff_ne]
  omega

/-- Digits are not blank, so no blanks are passed over before them. -/
theorem blanks_spells {ds : List Char} {n : Nat} (h : Spells ds n) :
    blanks (ds ++ rest) = some ((), ds ++ rest) := by
  obtain ⟨c, ds', rfl⟩ := List.exists_cons_of_ne_nil h.ne_nil
  refine blanks_cons ?_
  exact isBlank_of_isDigit (h.isDigit c List.mem_cons_self)

/-- A field is read off two digits. -/
theorem field_padded {n : Nat} (hn : n < 100) (hrest : NoDigitAhead rest) :
    field ((padded 2 n).toList ++ rest) = some (n, rest) := by
  have hlength : (padded 2 n).toList.length = 2 := length_padded (by decide) hn
  rw [field, run_bind (blanks_spells (spells_padded 2 n))]
  exact number_spells (spells_padded 2 n) (by omega) hrest

theorem separator_cons {c : Char} (h : Text.isBlank c = false) : separator c (c :: rest) = some ((), rest) := by
  rw [separator, run_bind (blanks_cons h)]
  exact run_oneOf (by simp)

/-- A number with a sign in front is read whole, however long it is. -/
theorem number_padded {width n : Nat} (hrest : NoDigitAhead rest) :
    number ((padded width n).toList ++ rest).length ((padded width n).toList ++ rest) = some (n, rest) :=
  number_spells (spells_padded width n) (by rw [List.length_append]; exact Nat.le_add_right _ _) hrest

/-- A fraction is as exact as its digits. -/
theorem fraction_spells {ds : List Char} {n : Nat} (h : Spells ds n) (hlength : ds.length ≤ 9) :
    fraction ('.' :: (ds ++ 'Z' :: rest)) = some (n * Nat.pow 10 (9 - ds.length), 'Z' :: rest) := by
  have hrest : NoDigitAhead ('Z' :: rest) := noDigitAhead_cons.mpr rfl
  have hnumber : number 9 (ds ++ 'Z' :: rest) = some (n, 'Z' :: rest) := number_spells h hlength hrest
  show ((do
    let value ← number 9
    set ((ds ++ 'Z' :: rest).drop ((ds ++ 'Z' :: rest).takeWhile Char.isDigit).length)
    return value * Nat.pow 10 (9 - (((ds ++ 'Z' :: rest).takeWhile Char.isDigit).take 9).length)
      : StampReader Nat) (ds ++ 'Z' :: rest)) = _
  rw [run_bind hnumber, h.takeWhile hrest, List.take_of_length_le hlength, List.drop_left]
  rfl

theorem fraction_text {n : Nat} (hn : n < 1000000000) :
    fraction ((fractionText n).toList ++ 'Z' :: rest) = some (n, 'Z' :: rest) := by
  unfold fractionText
  -- the digits that are left out are zeros
  have hwidth : ∀ width k : Nat, 0 < width → width ≤ 9 → k < Nat.pow 10 width → k * Nat.pow 10 (9 - width) = n →
      fraction (("." ++ padded width k).toList ++ 'Z' :: rest) = some (n, 'Z' :: rest) := by
    intro width k hpos hle hk hexact
    have hlength := length_padded hpos hk
    have hread : fraction ('.' :: ((padded width k).toList ++ 'Z' :: rest))
        = some (k * Nat.pow 10 (9 - (padded width k).toList.length), 'Z' :: rest) :=
      fraction_spells (spells_padded width k) (by omega)
    rw [hlength, hexact] at hread
    rw [String.toList_append]
    exact hread
  split
  · next hzero =>
    subst hzero
    rfl
  split
  · next hmillis =>
    have hfits : n / 1000000 < 1000 := by omega
    exact hwidth 3 _ (by decide) (by decide) hfits
      (Nat.div_mul_cancel (Nat.dvd_of_mod_eq_zero hmillis))
  split
  · next hmicros =>
    have hfits : n / 1000 < 1000000 := by omega
    exact hwidth 6 _ (by decide) (by decide) hfits
      (Nat.div_mul_cancel (Nat.dvd_of_mod_eq_zero hmicros))
  · exact hwidth 9 n (by decide) (by decide) hn (Nat.mul_one n)

end Pieces

/-! ## Dates -/

/-- The text of a year. -/
def yearText (year : Int) : String :=
  if 0 ≤ year ∧ year ≤ 9999 then padded 4 year.toNat
  else (if year < 0 then "-" else "+") ++ padded 4 year.natAbs

theorem toList_text (date : Date) :
    date.text.toList = (yearText date.year).toList ++ '-' :: ((padded 2 date.month).toList
      ++ '-' :: (padded 2 date.day).toList) := by
  show (yearText date.year ++ "-" ++ padded 2 date.month ++ "-" ++ padded 2 date.day).toList = _
  simp

/-- A year that begins with a digit has no sign. -/
theorem year_cons {c : Char} {cs : List Char} (h : c.isDigit = true) :
    year (c :: cs) = (number 4 >>= fun n => pure (n : Int) : StampReader Int) (c :: cs) := by
  have hminus : c ≠ '-' := by rintro rfl; contradiction
  have hplus : c ≠ '+' := by rintro rfl; contradiction
  rw [year, run_bind (blanks_cons (isBlank_of_isDigit h))]
  refine (run_bind (run_get _)).trans ?_
  simp [hminus, hplus]

theorem year_minus {cs rest : List Char} {n : Nat} (h : number cs.length cs = some (n, rest)) :
    year ('-' :: cs) = some (-(n : Int), rest) := by
  rw [year, run_bind (blanks_cons rfl)]
  exact run_bind (f := fun n : Nat => (pure (-(n : Int)) : StampReader Int)) h

theorem year_plus {cs rest : List Char} {n : Nat} (h : number cs.length cs = some (n, rest)) :
    year ('+' :: cs) = some ((n : Int), rest) := by
  rw [year, run_bind (blanks_cons rfl)]
  exact run_bind (f := fun n : Nat => (pure (n : Int) : StampReader Int)) h

theorem year_text {rest : List Char} (y : Int) (hrest : NoDigitAhead rest) :
    year ((yearText y).toList ++ rest) = some (y, rest) := by
  unfold yearText
  by_cases hfour : 0 ≤ y ∧ y ≤ 9999
  · have hspells := spells_padded 4 y.toNat
    have hfits : y.toNat < 10000 := by omega
    have hlength : (padded 4 y.toNat).toList.length = 4 := length_padded (by decide) hfits
    have hnumber := number_spells hspells (Nat.le_of_eq hlength) hrest
    obtain ⟨c, ds, hcons⟩ := List.exists_cons_of_ne_nil hspells.ne_nil
    have hdigit := hspells.isDigit c (by rw [hcons]; exact List.mem_cons_self)
    rw [if_pos hfour]
    rw [hcons, List.cons_append] at hnumber ⊢
    rw [year_cons hdigit, run_bind hnumber, Int.toNat_of_nonneg hfour.1]
    rfl
  · have hnumber : number ((padded 4 y.natAbs).toList ++ rest).length ((padded 4 y.natAbs).toList ++ rest)
        = some (y.natAbs, rest) := number_padded hrest
    rw [if_neg hfour, String.toList_append, List.append_assoc]
    by_cases hneg : y < 0
    · have hyear : -(y.natAbs : Int) = y := by omega
      rw [if_pos hneg, show "-".toList = ['-'] from rfl, List.singleton_append, year_minus hnumber, hyear]
    · have hyear : (y.natAbs : Int) = y := by omega
      rw [if_neg hneg, show "+".toList = ['+'] from rfl, List.singleton_append, year_plus hnumber, hyear]

/-- **The date of a day in range is read as the number of the day.** -/
theorem day_text {rest : List Char} {n : Int} (hfirst : Date.firstDay ≤ n) (hlast : n ≤ Date.lastDay)
    (hrest : NoDigitAhead rest) : day ((Date.ofDay n).text.toList ++ rest) = some (n, rest) := by
  have hmonth := Date.month_ofDay_le n
  have hday := Date.day_ofDay_le n
  have hdash : ∀ cs, NoDigitAhead ('-' :: cs) := fun _ => noDigitAhead_cons.mpr rfl
  rw [toList_text, List.append_assoc, List.cons_append, List.append_assoc, List.cons_append, day,
    run_bind (year_text _ (hdash _)), run_bind (separator_cons rfl),
    run_bind (field_padded (by omega) (hdash _)), run_bind (separator_cons rfl),
    run_bind (field_padded (by omega) hrest), run_bind (run_guard (Date.isValid_ofDay n))]
  have hrange : Date.firstDay ≤ (Date.ofDay n).dayNumber ∧ (Date.ofDay n).dayNumber ≤ Date.lastDay := by
    rw [Date.dayNumber_ofDay]
    exact ⟨hfirst, hlast⟩
  rw [run_bind (run_guard hrange), Date.dayNumber_ofDay]
  rfl

/-! ## Instants -/

/-- A fraction begins with a point, if there is one. -/
theorem noDigitAhead_fraction (n : Nat) {rest : List Char} :
    NoDigitAhead ((fractionText n).toList ++ 'Z' :: rest) := by
  have hpoint : ∀ s : String, NoDigitAhead (("." ++ s).toList ++ 'Z' :: rest) := by
    intro s
    rw [String.toList_append]
    exact noDigitAhead_cons.mpr rfl
  unfold fractionText
  split
  · exact noDigitAhead_cons.mpr rfl
  split
  · exact hpoint _
  split
  · exact hpoint _
  · exact hpoint _

/-- A date, a time of day and a fraction of a second are read as the instant that they make up. -/
theorem instant_text {day : Int} {hour minute second nanos : Nat} (hfirst : Date.firstDay ≤ day)
    (hlast : day ≤ Date.lastDay) (hhour : hour < 24) (hminute : minute < 60) (hsecond : second < 60)
    (hnanos : nanos < 1000000000) :
    instant ((Date.ofDay day).text.toList ++ 'T' :: ((padded 2 hour).toList ++ ':' ::
        ((padded 2 minute).toList ++ ':' :: ((padded 2 second).toList ++
        ((fractionText nanos).toList ++ ['Z'])))))
      = some (⟨(day * 86400 + hour * 3600 + minute * 60 + second) * 1000000000 + nanos, false⟩, []) := by
  have hcolon : ∀ cs, NoDigitAhead (':' :: cs) := fun _ => noDigitAhead_cons.mpr rfl
  have hseparator : ∀ cs, NoDigitAhead ('T' :: cs) := fun _ => noDigitAhead_cons.mpr rfl
  have hleap : (second == 60) = false := by
    rw [beq_eq_false_iff_ne]
    omega
  have hoffset : offset ['Z'] = some (0, []) := rfl
  have hend : blanks [] = some ((), []) := rfl
  have hrange : Date.firstDay ≤ (day * 86400 + hour * 3600 + minute * 60 + second) / 86400
      ∧ (day * 86400 + hour * 3600 + minute * 60 + second) / 86400 ≤ Date.lastDay := by omega
  have htime : hour < 24 ∧ minute < 60 ∧ second ≤ 60 := ⟨hhour, hminute, by omega⟩
  rw [instant, run_bind (day_text hfirst hlast (hseparator _)), run_bind (run_oneOf rfl),
    run_bind (field_padded (by omega) (hcolon _)), run_bind (separator_cons rfl),
    run_bind (field_padded (by omega) (hcolon _)), run_bind (separator_cons rfl),
    run_bind (field_padded (by omega) (noDigitAhead_fraction nanos)), run_bind (run_guard htime),
    run_bind (fraction_text hnanos), run_bind (blanks_cons rfl), run_bind hoffset, run_bind hend,
    run_bind (run_get []), run_bind (run_guard List.isEmpty_nil), hleap]
  rw [Bool.toNat_false, Nat.sub_zero, Int.sub_zero, run_bind (run_guard hrange), Int.natCast_zero,
    Int.add_zero]
  rfl

end StampReader

namespace Instant

/-- The parts of a stamp. -/
theorem toList_stamp (t : Instant) (hleap : t.leap = false) :
    t.stamp.toList = (Date.ofDay (t.nanos / 1000000000 / 86400)).text.toList ++ 'T' ::
      ((padded 2 ((t.nanos / 1000000000 % 86400).toNat / 3600)).toList ++ ':' ::
      ((padded 2 ((t.nanos / 1000000000 % 86400).toNat / 60 % 60)).toList ++ ':' ::
      ((padded 2 ((t.nanos / 1000000000 % 86400).toNat % 60)).toList ++
      ((fractionText (t.nanos % 1000000000).toNat).toList ++ ['Z'])))) := by
  simp [stamp, dateAndTime, wholeSeconds, hleap]

/-- **An instant in range is read back from its stamp**, unless it lies in a leap second. -/
theorem read?_stamp {t : Instant} (hleap : t.leap = false) (hfirst : earliest ≤ t) (hlast : t ≤ latest) :
    read? t.stamp = some t := by
  have hdays : Date.firstDay ≤ t.nanos / 1000000000 / 86400
      ∧ t.nanos / 1000000000 / 86400 ≤ Date.lastDay := by
    have hge := le_def.mp hfirst
    have hle := le_def.mp hlast
    simp only [earliest, latest, minScore, maxScore] at hge hle
    unfold Date.firstDay Date.lastDay
    omega
  rw [read?, t.toList_stamp hleap, StampReader.instant_text hdays.1 hdays.2 (by omega) (by omega) (by omega)
    (by omega), Option.map_some, Option.some_inj]
  obtain ⟨nanos, leap⟩ := t
  rw [Instant.mk.injEq]
  refine ⟨?_, hleap.symm⟩
  dsimp only
  omega

end Instant

end GroupQueue
