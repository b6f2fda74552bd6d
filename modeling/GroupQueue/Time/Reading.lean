import GroupQueue.Text.Blank
import GroupQueue.Text.Numeral
import GroupQueue.Time.Calendar
import GroupQueue.Time.Instant

/-!
# `GroupQueue.Time.Reading` — instants read from text

A date and a time of day with an offset from UTC. The form is lenient: `T`, `t` or a space between
date and time, blanks around the parts, fields of one digit, a year of any length after a sign, any
number of digits of fraction (nine count), second 60 at the end of any minute, and as offset `Z`,
`UTC` in any case, or hours and minutes with or without a colon. The date has to occur in the
calendar, and the instant has to lie in range.

## Contents
- `StampReader` and its pieces: `number`, `field`, `literal`, `fraction`, `offset`.
- `Instant.read?` — the whole text as an instant.
-/

namespace GroupQueue

open Text (trimStart digit?)

/-- A reader takes characters from the front, or fails. -/
abbrev StampReader (α : Type) := StateT (List Char) Option α

namespace StampReader

/-- Between one and `limit` digits. -/
def number (limit : Nat) : StampReader Nat := fun cs =>
  let digits := (cs.takeWhile Char.isDigit).take limit
  if digits.isEmpty then none
  else some (digits.foldl (fun n c => n * 10 + (digit? c).getD 0) 0, cs.drop digits.length)

/-- Any number of blanks. -/
def blanks : StampReader Unit := fun cs => some ((), trimStart cs)

/-- One of the given characters. -/
def oneOf (allowed : List Char) : StampReader Char
  | c :: cs => if allowed.contains c then some (c, cs) else none
  | [] => none

/-- A number of at most two digits, after any blanks. -/
def field : StampReader Nat := do blanks; number 2

/-- Blanks and a separator. -/
def separator (c : Char) : StampReader Unit := do blanks; discard (oneOf [c])

/-- A year: four digits at most, or any number of them after a sign. -/
def year : StampReader Int := do
  blanks
  let cs ← get
  match cs with
  | '-' :: rest => set rest; return -(← number rest.length)
  | '+' :: rest => set rest; return ← number rest.length
  | _ => return ← number 4

/-- A fraction of a second in nanoseconds: digits beyond the ninth are read and dropped. -/
def fraction : StampReader Nat := do
  match ← get with
  | '.' :: rest =>
    let digits := rest.takeWhile Char.isDigit
    let kept := (digits.take 9).length
    set rest
    let value ← number 9
    set (rest.drop digits.length)
    return value * Nat.pow 10 (9 - kept)
  | _ => return 0

/-- Two digits of an offset, the first of them at most `top`. -/
def offsetPair (top : Nat) : StampReader Nat
  | a :: b :: cs => do
    let high ← digit? a
    let low ← digit? b
    if high ≤ top then some (high * 10 + low, cs) else none
  | _ => none

/-- An offset from UTC in seconds, less than a day. -/
def offset : StampReader Int := do
  let cs ← get
  if (cs.take 3).map Char.toUpper = ['U', 'T', 'C'] then
    set (cs.drop 3)
    return 0
  match ← oneOf ['Z', 'z', '+', '-', '−'] with
  | 'Z' | 'z' => return 0
  | sign =>
    let hours ← offsetPair 9
    modify (·.dropWhile fun c => c == ':' || Text.isBlank c)
    let minutes ← offsetPair 5
    let seconds := hours * 3600 + minutes * 60
    guard (seconds < 86400)
    return if sign = '+' then seconds else -seconds

/-- A date that occurs in the calendar, as a day number in range. -/
def day : StampReader Int := do
  let year ← year
  separator '-'
  let month ← field
  separator '-'
  let date : Date := ⟨year, month, ← field⟩
  guard date.IsValid
  guard (Date.firstDay ≤ date.dayNumber ∧ date.dayNumber ≤ Date.lastDay)
  return date.dayNumber

/-- The instant that a text names. -/
def instant : StampReader Instant := do
  let day ← day
  discard (oneOf ['T', 't', ' '])
  let hour ← field
  separator ':'
  let minute ← field
  separator ':'
  let second ← field
  guard (hour < 24 ∧ minute < 60 ∧ second ≤ 60)
  let fraction ← fraction
  blanks
  let offset ← offset
  blanks
  guard (← get).isEmpty
  let leap := second == 60
  let seconds := day * 86400 + hour * 3600 + minute * 60 + (second - leap.toNat : Nat) - offset
  guard (Date.firstDay ≤ seconds / 86400 ∧ seconds / 86400 ≤ Date.lastDay)
  return ⟨(seconds + leap.toNat) * 1000000000 + fraction, leap⟩

end StampReader

/-- Read a whole text as an instant. -/
def Instant.read? (s : String) : Option Instant :=
  (StampReader.instant s.toList).map (·.1)

end GroupQueue
