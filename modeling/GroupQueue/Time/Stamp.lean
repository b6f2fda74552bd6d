import GroupQueue.Time.Calendar
import GroupQueue.Time.Instant

/-!
# `GroupQueue.Time.Stamp` — the text of an instant

A stamp is a date, a separator, a time of day and a zone, in UTC. The time has no fraction, or one of
3, 6 or 9 digits: the fewest that are exact. A year outside 0 … 9999 has a sign, and every year at
least four digits.

## Contents
- `padded` — a number with leading zeros.
- `Date.text`, `fractionText`, `Instant.dateAndTime` — the parts.
- `Instant.stamp` — the form `2023-11-14T22:13:20.000005Z`.
- `Instant.spacedStamp` — the form `2023-11-14 22:13:20.000005 UTC`.
-/

namespace GroupQueue

/-- `n` in decimal with at least `width` digits. -/
def padded (width n : Nat) : String :=
  let digits := Nat.toDigits 10 n
  String.ofList (List.replicate (width - digits.length) '0' ++ digits)

/-- The date as year, month and day. -/
def Date.text (d : Date) : String :=
  let year :=
    if 0 ≤ d.year ∧ d.year ≤ 9999 then padded 4 d.year.toNat
    else (if d.year < 0 then "-" else "+") ++ padded 4 d.year.natAbs
  year ++ "-" ++ padded 2 d.month ++ "-" ++ padded 2 d.day

/-- The fraction of a second, for `nanos` below one second. -/
def fractionText (nanos : Nat) : String :=
  if nanos = 0 then ""
  else if nanos % 1000000 = 0 then "." ++ padded 3 (nanos / 1000000)
  else if nanos % 1000 = 0 then "." ++ padded 6 (nanos / 1000)
  else "." ++ padded 9 nanos

namespace Instant

/-- The date, the separator and the time of day. -/
def dateAndTime (separator : String) (t : Instant) : String :=
  let date := Date.ofDay (t.wholeSeconds / 86400)
  let second := (t.wholeSeconds % 86400).toNat
  date.text ++ separator ++ padded 2 (second / 3600) ++ ":" ++ padded 2 (second / 60 % 60) ++ ":" ++
    padded 2 (second % 60 + (if t.leap then 1 else 0)) ++ fractionText (t.nanos % 1000000000).toNat

/-- The form used in records and debug output. -/
def stamp (t : Instant) : String := t.dateAndTime "T" ++ "Z"

/-- The form used for reading by people. -/
def spacedStamp (t : Instant) : String := t.dateAndTime " " ++ " UTC"

end Instant

end GroupQueue
