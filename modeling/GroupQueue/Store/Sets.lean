import GroupQueue.Plan.Evaluation
import GroupQueue.Store.SortedSet

/-!
# `GroupQueue.Store.Sets` — the event sets in memory

The sets are held by key. A set comes into being when something is put into it and is dropped when its
last member leaves.

## Contents
- `Sets` — with `Sets.members`, `Sets.add`, `Sets.remove`.
- `Sets.answer` — answer the calls of a plan; `Sets.execute` — execute a plan.
-/

namespace GroupQueue

/-- Event sets by key. -/
structure Sets where
  byKey : Std.ExtTreeMap String SortedSet := ∅

namespace Sets

/-- The members under a key, in order. -/
def members (sets : Sets) (key : String) : List Member :=
  (sets.byKey[key]?.map SortedSet.ordered).getD []

/-- Put members into the set under a key. -/
def add (sets : Sets) (key : String) (members : List Member) : Sets :=
  ⟨sets.byKey.insert key (members.foldl SortedSet.insert (sets.byKey.getD key {}))⟩

/-- Take events out of the set under a key. -/
def remove (sets : Sets) (key : String) (events : List EventId) : Sets :=
  match sets.byKey[key]? with
  | none => sets
  | some set =>
    let set := events.foldl SortedSet.remove set
    if set.isEmpty then ⟨sets.byKey.erase key⟩ else ⟨sets.byKey.insert key set⟩

/-- Answer a call of a plan. -/
def answer (sets : Sets) : (call : SetCall) → call.Reply × Sets
  | .rangeByScore set range => ((sets.byKey[set.key]?.map (·.range range)).getD [], sets)
  | .rangeByRank set start stop => ((sets.byKey[set.key]?.map (·.ranks start stop)).getD [], sets)
  | .scoreOf set event => (sets.byKey[set.key]?.bind (·.score? event), sets)
  | .add set members => ((), sets.add set.key members)
  | .remove set events => ((), sets.remove set.key events)
  | .isEmpty set => ((sets.byKey[set.key]?.map SortedSet.isEmpty).getD true, sets)

/-- Execute a plan. Only a plan that is refused fails, and it leaves the sets as they are. -/
def execute (plan : Plan) : ExceptT Failure (StateM Sets) Evaluation :=
  plan.execute fun call => ExceptT.lift fun sets => sets.answer call

/-- All sets that have members, by key. -/
def toList (sets : Sets) : List (String × List Member) :=
  (sets.byKey.toList.filter fun (_, set) => !set.isEmpty).map fun (key, set) => (key, set.ordered)

end Sets

end GroupQueue
