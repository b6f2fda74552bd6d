import GroupQueue.Time.Instant

/-!
# `Proofs.Time.Clock` — when a clock comes to a clamped instant

An instant that would lie out of range is clamped to the latest one, and a span that is too long for the
calculation to the longest one. Neither can be told from the clock: it comes to the clamped instant when it comes to
the sum, or to the latest instant if that is earlier (`lt_onClock_shiftClamped_iff`). There is no instant of the
range, and no span, for which this fails.

A sum that begins inside a leap second either ends inside it, or counts from the second before it. A clock takes no
notice of the leap second itself, so the two cases are told apart by where the sum lies.

## Contents
- `Instant.InRange` — the instants between the earliest and the latest one; `InRange.not_before`.
- `Instant.plus_of_stays`, `plus_of_leaves` — sums that begin inside a leap second.
- `Instant.lt_clamped_iff`, `Instant.lt_onClock_shiftClamped_iff` — when a clock is behind a clamped sum.
-/

namespace GroupQueue.Instant

/-- An instant lies between `earliest` and `latest`. A leap second lies there if the second before it does. The
    one that would follow `latest` is left out, although `inRange?` lets it through: it is later than `latest`. -/
structure InRange (t : Instant) : Prop where
  earliest_le : earliest.wholeSeconds ≤ t.wholeSeconds
  le_latest : t ≤ latest

variable {t : Instant} {nanos : Int}

/-- Such an instant is not before `earliest`. -/
theorem InRange.not_before (h : t.InRange) : earliest ≤ t := by
  have hseconds := h.earliest_le
  simp only [wholeSeconds, le_def, earliest, minScore, Bool.false_eq_true, if_false] at *
  split at hseconds <;> omega

/-- A sum may end inside the leap second that it begins in. -/
theorem plus_of_stays (h : t.leap = true) (hstays : t.nanos % 1000000000 + nanos < 1000000000)
    (hlater : 0 ≤ nanos) : t.plus nanos = ⟨t.nanos + nanos, true⟩ := by
  have hfraction : 0 ≤ t.nanos % 1000000000 + nanos := by omega
  rw [plus, if_neg fun hleaves => Int.not_le.mpr hstays hleaves.2]
  simp [h, hfraction]

/-- If not, it is counted from the second before. -/
theorem plus_of_leaves (h : t.leap = true) (hleaves : 1000000000 ≤ t.nanos % 1000000000 + nanos) :
    t.plus nanos = ⟨t.nanos - 1000000000 + nanos, false⟩ := by
  rw [plus, if_pos ⟨h, hleaves⟩, Instant.mk.injEq]
  exact ⟨by omega, rfl⟩

/-- Outside of leap seconds, a clock is behind a clamped sum if it is behind the sum and behind `latest`. -/
theorem lt_clamped_iff {start : Int} (h : earliest.nanos ≤ start) (d : Span) (now : Instant) :
    now < ((inRange? ⟨start + d.bounded.nanos, false⟩).getD latest).onClock
      ↔ now < ⟨start + d.nanos, false⟩ ∧ now < latest := by
  simp only [inRange?, lt_def, wholeSeconds, Span.bounded, Span.longest, earliest, latest, minScore, maxScore,
    Bool.false_eq_true, if_false] at *
  split <;> simp only [Option.getD_some, Option.getD_none, onClock, Bool.false_eq_true, if_false] <;> omega

/-- **A clock is behind a clamped instant** if and only if it is behind the sum and behind `latest`, however long
    the span is. -/
theorem lt_onClock_shiftClamped_iff (h : t.InRange) (d : Span) (now : Instant) :
    now < (t.shiftClamped d).onClock ↔ now < (t.plus d.nanos).onClock ∧ now < latest := by
  obtain ⟨hfirst, hlast⟩ := h
  rw [shiftClamped, shift?]
  by_cases hleap : t.leap = true
  · by_cases hstays : t.nanos % 1000000000 + d.nanos < 1000000000
    · -- so short a span is not cut, and leads to an instant in range
      have hshort : d.bounded.nanos = d.nanos := by
        simp only [Span.bounded, Span.longest]
        omega
      have hsecond : (⟨t.nanos + d.nanos, true⟩ : Instant).wholeSeconds = t.wholeSeconds := by
        simp only [wholeSeconds, hleap]
        omega
      have hwithin : t.wholeSeconds ≤ latest.wholeSeconds := by
        simp only [le_def, wholeSeconds, hleap, latest, maxScore, if_true, Bool.false_eq_true, if_false] at *
        omega
      rw [hshort, plus_of_stays hleap hstays (Int.natCast_nonneg _), inRange?, hsecond, if_pos ⟨hfirst, hwithin⟩]
      simp only [Option.getD_some, lt_def, le_def, onClock, if_true] at *
      omega
    · have hlong : 1000000000 ≤ t.nanos % 1000000000 + d.bounded.nanos := by
        simp only [Span.bounded, Span.longest]
        omega
      have hstart : earliest.nanos ≤ t.nanos - 1000000000 := by
        simp only [wholeSeconds, hleap, earliest, minScore, if_true, Bool.false_eq_true, if_false] at *
        omega
      rw [plus_of_leaves hleap hlong, plus_of_leaves hleap (Int.not_lt.mp hstays), lt_clamped_iff hstart]
      rfl
  · rw [Bool.not_eq_true] at hleap
    have hstart : earliest.nanos ≤ t.nanos := by
      simp only [wholeSeconds, hleap, earliest, minScore, Bool.false_eq_true, if_false] at *
      omega
    rw [plus_of_not_leap hleap, plus_of_not_leap hleap, lt_clamped_iff hstart]
    rfl

end GroupQueue.Instant
