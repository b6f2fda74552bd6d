import GroupQueue.Plan.ScoreRange
import Std.Data.ExtTreeMap

/-!
# `GroupQueue.Store.SortedSet` — one event set in memory

A sorted set keeps the score of each event twice: in a map, to find it by identifier, and in a list of
members ordered by score and then identifier, to read ranges and ranks. Inserting an event that is
there already moves it to its new score.

## Contents
- `Member.precedes` — the order of members.
- `SortedSet` — with `insert`, `remove`, `score?`, `isEmpty`.
- `SortedSet.range`, `SortedSet.ranks` — windows of the ordered list.
-/

namespace GroupQueue

/-- The order of members: by score, and by identifier among equal scores. -/
def Member.precedes (a b : Member) : Bool :=
  a.score < b.score || (a.score == b.score && a.id < b.id)

/-- A set of events with scores. -/
structure SortedSet where
  scores : Std.ExtTreeMap EventId Int := ∅
  ordered : List Member := []

namespace SortedSet

/-- Put a member before the first one that it precedes. -/
def place (member : Member) : List Member → List Member
  | [] => [member]
  | m :: ms => if member.precedes m then member :: m :: ms else m :: place member ms

/-- Insert a member. An event that is in the set already gets the new score. -/
def insert (set : SortedSet) (member : Member) : SortedSet where
  scores := set.scores.insert member.id member.score
  ordered :=
    place member <|
      match set.scores[member.id]? with
      | some old => set.ordered.erase ⟨member.id, old⟩
      | none => set.ordered

/-- Take an event out of the set, if it is there. -/
def remove (set : SortedSet) (id : EventId) : SortedSet :=
  match set.scores[id]? with
  | some old => ⟨set.scores.erase id, set.ordered.erase ⟨id, old⟩⟩
  | none => set

/-- The score of an event, if it is in the set. -/
def score? (set : SortedSet) (id : EventId) : Option Int := set.scores[id]?

/-- Whether the set has no members. -/
def isEmpty (set : SortedSet) : Bool := set.scores.isEmpty

/-- The members in a range, in its direction and up to its limit. -/
def range (set : SortedSet) (range : ScoreRange) : List Member :=
  if range.isEmpty then []
  else
    let fromLower := set.ordered.dropWhile fun m => !range.lower.isBelow m.score
    let window := fromLower.takeWhile fun m => range.upper.isAbove m.score
    let directed := if range.descending then window.reverse else window
    match range.limit with
    | some limit => directed.take limit
    | none => directed

/-- The members at the ranks `start … stop`, as far as there are any. -/
def ranks (set : SortedSet) (start stop : Nat) : List Member :=
  (set.ordered.drop start).take (stop - start + 1)

end SortedSet

end GroupQueue
