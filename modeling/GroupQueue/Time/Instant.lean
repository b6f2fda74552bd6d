/-!
# `GroupQueue.Time.Instant` — points in time

An instant is a whole number of nanoseconds since the epoch 1970-01-01T00:00Z, inside the years
-262143 … 262142. Event sets see an instant through its **score**: the microseconds, rounded down.

## Contents
- `Instant` — with `earliest`, `latest`, and the comparison by nanoseconds.
- `Instant.wholeSeconds` — the second that an instant lies in.
- `Instant.ofMicros`, `Instant.score` — from and to microseconds; `score_ofMicros`.
- `Instant.plus` — a later or earlier instant; `Instant.shift?`, if it is in range; `Instant.shiftClamped`,
  which ends at `latest` instead.
- `Instant.onClock` — where a clock comes to an instant.
- `Instant.wireMicros` — the microseconds sent to a database, counted from the year 2000.
- `Span` — a length of time, in nanoseconds.
-/

namespace GroupQueue

/-- A point in time. `leap` marks an instant inside a leap second: it is written as second 60 of the
    minute whose second 59 lies one second before it. -/
structure Instant where
  nanos : Int
  leap : Bool := false
deriving DecidableEq, Repr, Inhabited

/-- A length of time. -/
structure Span where
  nanos : Nat
deriving DecidableEq, Repr, Inhabited

namespace Span

/-- Whole seconds, and nanoseconds on top. -/
def ofSeconds (seconds : Nat) (nanos : Nat := 0) : Span :=
  ⟨seconds * 1000000000 + nanos⟩

/-- The whole seconds. -/
def seconds (d : Span) : Nat := d.nanos / 1000000000

/-- The nanoseconds beyond the whole seconds. -/
def subsecond (d : Span) : Nat := d.nanos % 1000000000

/-- The whole milliseconds. -/
def millis (d : Span) : Nat := d.nanos / 1000000

/-- The longest span that instants are moved by: 2 ^ 63 - 1 milliseconds. -/
def longest : Span := ⟨9223372036854775807000000⟩

/-- The span itself, or the longest one if that is shorter. -/
def bounded (d : Span) : Span := ⟨min d.nanos longest.nanos⟩

end Span

namespace Instant

instance : LE Instant := ⟨fun t u => t.nanos ≤ u.nanos⟩
instance : LT Instant := ⟨fun t u => t.nanos < u.nanos⟩

theorem le_def {t u : Instant} : t ≤ u ↔ t.nanos ≤ u.nanos := Iff.rfl
theorem lt_def {t u : Instant} : t < u ↔ t.nanos < u.nanos := Iff.rfl

instance (t u : Instant) : Decidable (t ≤ u) := inferInstanceAs (Decidable (t.nanos ≤ u.nanos))
instance (t u : Instant) : Decidable (t < u) := inferInstanceAs (Decidable (t.nanos < u.nanos))

/-! ## Range -/

/-- The first microsecond in range. -/
def minScore : Int := -8334601228800000000

/-- The last microsecond in range. -/
def maxScore : Int := 8210266876799999999

/-- The start of the first day of year -262143. -/
def earliest : Instant := ⟨minScore * 1000, false⟩

/-- The last nanosecond of year 262142. -/
def latest : Instant := ⟨maxScore * 1000 + 999, false⟩

/-- The whole seconds since the epoch; a leap second counts as the second before it. -/
def wholeSeconds (t : Instant) : Int :=
  t.nanos / 1000000000 - (if t.leap then 1 else 0)

/-! ## Scores -/

/-- The instant `micros` microseconds after the epoch. -/
def ofMicros (micros : Int) : Instant := ⟨micros * 1000, false⟩

/-- The microseconds since the epoch, rounded down. -/
def score (t : Instant) : Int := t.nanos / 1000

@[simp] theorem score_ofMicros (micros : Int) : (ofMicros micros).score = micros := by
  simp [score, ofMicros]

theorem score_mono {t u : Instant} (h : t ≤ u) : t.score ≤ u.score := by
  have := le_def.1 h
  unfold score
  omega

@[simp] theorem score_earliest : earliest.score = minScore := by decide
@[simp] theorem score_latest : latest.score = maxScore := by decide

/-! ## Moving in time -/

/-- The instant `nanos` nanoseconds later (earlier, if negative). A leap second that is left for a later second
    is not counted. -/
def plus (t : Instant) (nanos : Int) : Instant :=
  let fraction := t.nanos % 1000000000 + nanos
  if t.leap ∧ 1000000000 ≤ fraction then ⟨t.nanos + nanos - 1000000000, false⟩
  else ⟨t.nanos + nanos, t.leap && 0 ≤ fraction⟩

theorem plus_of_not_leap {t : Instant} (h : t.leap = false) (nanos : Int) :
    t.plus nanos = ⟨t.nanos + nanos, false⟩ := by
  simp [plus, h]

/-- The instant itself, unless it is out of range. -/
def inRange? (t : Instant) : Option Instant :=
  if earliest.wholeSeconds ≤ t.wholeSeconds ∧ t.wholeSeconds ≤ latest.wholeSeconds then some t else none

/-- The instant `nanos` nanoseconds later (earlier, if negative), unless that is out of range. -/
def shift? (t : Instant) (nanos : Int) : Option Instant := (t.plus nanos).inRange?

/-- The instant a span later, or `latest` if that is out of range. -/
def shiftClamped (t : Instant) (d : Span) : Instant := (t.shift? d.bounded.nanos).getD latest

/-- The first instant from `t` on that a clock can read. A clock reads no instant inside a leap second, but
    goes on with the second after it. -/
def onClock (t : Instant) : Instant :=
  if t.leap then ⟨t.nanos / 1000000000 * 1000000000, false⟩ else t

theorem onClock_of_not_leap {t : Instant} (h : t.leap = false) : t.onClock = t := by
  simp [onClock, h]

/-- The microseconds since the year 2000, cut off toward zero, and counted from the epoch again. -/
def wireMicros (t : Instant) : Int :=
  (t.nanos - 946684800000000000).tdiv 1000 + 946684800000000

end Instant

end GroupQueue
