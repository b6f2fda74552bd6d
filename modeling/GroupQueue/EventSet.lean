import GroupQueue.Event

/-!
# `GroupQueue.EventSet` — the identity of an event set

Queue state lives in event sets: collections of event identifiers, each with a score. A set is
identified by a namespace, a queue, the role it plays there and, for most roles, a consumer group. A
store knows it by its key, a text with the parts separated by colons.

## Contents
- `Role` — the five roles, with their names `Role.name` and `Role.ofName?`.
- `EventSet`, `EventSet.key` — the identity and the key.
- `EventSet.compare` — the order of sets: namespace, role, queue, group, and no group before any;
  `compare_eq_iff_eq`.
- `EventSet.insertInto`, `EventSet.sorted` — the distinct sets of a list in that order; `mem_sorted`.
- `Member` — an identifier with a score; `Member.natural` has the identifier's own.
-/

namespace GroupQueue

/-- What a set holds for its queue. -/
inductive Role where
  /-- Every live event of a queue, for all consumer groups. -/
  | available
  /-- Events handed to a consumer and not yet acknowledged, by natural score. -/
  | inProgressById
  /-- The same events, scored by the deadline of their acknowledgement. -/
  | inProgressByAck
  /-- Events whose deadline passed, to be handed out again. -/
  | redo
  /-- Events that a consumer group has finished. -/
  | done
deriving DecidableEq, Repr

namespace Role

/-- All roles, in order. -/
def all : List Role := [available, inProgressById, inProgressByAck, redo, done]

/-- The name of a role inside keys and records. -/
def name : Role → String
  | available => "available"
  | inProgressById => "inprog_id"
  | inProgressByAck => "inprog_ack"
  | redo => "redo"
  | done => "done"

/-- The role with a given name. -/
def ofName? (s : String) : Option Role :=
  all.find? fun role => role.name == s

theorem ofName?_name (role : Role) : ofName? role.name = some role := by
  cases role <;> decide

/-- Whether each consumer group has a set of its own in this role. -/
def isPerGroup : Role → Bool
  | available => false
  | _ => true

end Role

/-- The identity of an event set. -/
structure EventSet where
  base : String
  role : Role
  queue : String
  group : Option String := none
deriving DecidableEq, Repr

namespace EventSet

/-- The key under which a store holds the set. -/
def key (set : EventSet) : String :=
  let shared := set.base ++ ":" ++ set.queue ++ ":" ++ set.role.name
  match set.group with
  | some group => shared ++ ":" ++ group
  | none => shared

/-- The order of sets. -/
def compare (a b : EventSet) : Ordering :=
  (Ord.compare a.base b.base).then <|
    (Ord.compare a.role.ctorIdx b.role.ctorIdx).then <|
      (Ord.compare a.queue b.queue).then <|
        match a.group, b.group with
        | none, none => .eq
        | none, some _ => .lt
        | some _, none => .gt
        | some g, some h => Ord.compare g h

theorem compare_eq_iff_eq {a b : EventSet} : a.compare b = .eq ↔ a = b := by
  obtain ⟨base, role, queue, group⟩ := a
  obtain ⟨base', role', queue', group'⟩ := b
  have hrole : role.ctorIdx = role'.ctorIdx ↔ role = role' := by
    cases role <;> cases role' <;> decide
  cases group <;> cases group' <;>
    simp [compare, Ordering.then_eq_eq, hrole]

/-- Put a set into a sorted list of distinct sets. -/
def insertInto (set : EventSet) : List EventSet → List EventSet
  | [] => [set]
  | t :: ts =>
    match set.compare t with
    | .lt => set :: t :: ts
    | .eq => t :: ts
    | .gt => t :: insertInto set ts

theorem mem_insertInto {s set : EventSet} {ts : List EventSet} :
    s ∈ insertInto set ts ↔ s = set ∨ s ∈ ts := by
  induction ts with
  | nil => simp [insertInto]
  | cons t ts ih =>
    unfold insertInto
    split
    · simp
    · next h => simp [compare_eq_iff_eq.1 h]
    · simp only [List.mem_cons, ih]
      constructor <;> rintro (h | h | h) <;> simp [h]

/-- The distinct sets of a list, in order. -/
def sorted (sets : List EventSet) : List EventSet :=
  sets.foldr insertInto []

@[simp] theorem mem_sorted {s : EventSet} {sets : List EventSet} : s ∈ sorted sets ↔ s ∈ sets := by
  induction sets with
  | nil => simp [sorted]
  | cons t ts ih =>
    rw [List.mem_cons, ← ih]
    exact mem_insertInto

end EventSet

/-- An identifier with the score it has in some set. -/
structure Member where
  id : EventId
  score : Int
deriving DecidableEq, Repr

/-- The member with its natural score. -/
def Member.natural (id : EventId) : Member := ⟨id, id.score⟩

end GroupQueue
