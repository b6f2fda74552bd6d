import GroupQueue.Text.Blank
import GroupQueue.Text.Numeral
import GroupQueue.Time.Instant

/-!
# `GroupQueue.Event` — events and their identifiers

An event is a unit of queued work. Its identifier is at once its expiry, in microseconds since the
epoch, and its natural score in every event set. A store issues identifiers in strictly increasing
order: the one asked for, or the successor of the last one issued if that is later.

## Contents
- `EventId` — identifiers, ordered by their number.
- `EventId.expiry` — the instant that an identifier encodes.
- `EventId.nextAfter` — the identifier issued after `last`; `nextAfter_gt`, `le_score_nextAfter` and
  `nextAfter_least`: it is the least one after `last` that is not before the wanted expiry.
- `EventId.read` — an identifier from text.
- `Event`, `Event.new` — an event, and the event with a given identifier.
-/

namespace GroupQueue

/-- An identifier; `score` is its number, a signed 64-bit integer. -/
structure EventId where
  score : Int
deriving DecidableEq, Hashable, Repr, Inhabited

namespace EventId

instance : LE EventId := ⟨fun a b => a.score ≤ b.score⟩
instance : LT EventId := ⟨fun a b => a.score < b.score⟩

theorem le_def {a b : EventId} : a ≤ b ↔ a.score ≤ b.score := Iff.rfl
theorem lt_def {a b : EventId} : a < b ↔ a.score < b.score := Iff.rfl

instance (a b : EventId) : Decidable (a ≤ b) := inferInstanceAs (Decidable (a.score ≤ b.score))
instance (a b : EventId) : Decidable (a < b) := inferInstanceAs (Decidable (a.score < b.score))

@[ext] theorem ext {a b : EventId} (h : a.score = b.score) : a = b := by
  cases a; cases b; simp_all

instance : Ord EventId := ⟨compareOn EventId.score⟩

instance : Std.TransOrd EventId := inferInstanceAs (Std.TransCmp (compareOn EventId.score))

instance : Std.LawfulEqOrd EventId where
  eq_of_compare h := ext (Std.LawfulEqOrd.compare_eq_iff_eq.1 h)

instance : ToString EventId := ⟨fun id => toString id.score⟩

/-- The instant that the identifier encodes, or the last one if it is out of range. -/
def expiry (id : EventId) : Instant :=
  if Instant.minScore ≤ id.score ∧ id.score ≤ Instant.maxScore then Instant.ofMicros id.score
  else Instant.latest

/-- The identifier for an event that expires at `expire`, issued after `last`. -/
def nextAfter (expire : Instant) : Option EventId → EventId
  | some last => if expire.score ≤ last.score then ⟨last.score + 1⟩ else ⟨expire.score⟩
  | none => ⟨expire.score⟩

theorem nextAfter_gt (expire : Instant) (last : EventId) : last < nextAfter expire (some last) := by
  simp only [nextAfter, lt_def]
  split
  · exact Int.lt_succ last.score
  · next h => exact Int.not_le.1 h

/-- An identifier that is issued is later than the last one before it, if there was one. -/
theorem lt_nextAfter (expire : Instant) {last? : Option EventId} {last : EventId} (h : last ∈ last?) :
    last < nextAfter expire last? := by
  rw [Option.mem_def] at h
  rw [h]
  exact nextAfter_gt expire last

theorem le_score_nextAfter (expire : Instant) (last : Option EventId) :
    expire.score ≤ (nextAfter expire last).score := by
  cases last with
  | none => exact Int.le_refl _
  | some last =>
    simp only [nextAfter]
    split
    · next h => exact Int.le_trans h (Int.le_of_lt (Int.lt_succ last.score))
    · exact Int.le_refl _

theorem nextAfter_least {expire : Instant} {last id : EventId} (h : last < id)
    (h' : expire.score ≤ id.score) : nextAfter expire (some last) ≤ id := by
  simp only [nextAfter, le_def]
  split
  · exact lt_def.1 h
  · exact h'

/-- Read an identifier, with blanks around it. -/
def read (s : String) : Except Text.NumeralFault EventId :=
  (Text.readInt Text.minWord Text.maxWord (Text.trim s)).map EventId.mk

end EventId

/-- A queued unit of work: it is no longer delivered after `expire`, and its contents are opaque. -/
structure Event where
  id : EventId
  expire : Instant
  contents : String
deriving DecidableEq, Repr

/-- The event with a given identifier, which expires when the identifier says. -/
def Event.new (id : EventId) (contents : String) : Event :=
  ⟨id, id.expiry, contents⟩

end GroupQueue
