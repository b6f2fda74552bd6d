import GroupQueue.Event
import GroupQueue.EventSet

/-!
# `GroupQueue.Queue.Basic` — queues, their sets, and the commands to them

A queue service works in one namespace of event sets. The events of a queue lie in one set that all
consumer groups share; each group has four more sets, in which it records what it has taken.

## Contents
- `Queue` — the settings of a service, with `Queue.eventSet`.
- `GroupSets`, `Queue.groupSets` — the five sets that a group works with.
- `AddCommand`, `GetCommand`, `AckCommand` — the commands.
-/

namespace GroupQueue

/-- The settings of a queue service. -/
structure Queue where
  /-- The namespace of all its event sets. -/
  base : String := "scoreq"
  /-- How long a payload outlives its event, so that a consumer who gets an event at the very instant
      of its expiry can still read it. -/
  grace : Span := .ofSeconds 30
deriving DecidableEq, Repr

/-- The set of a queue for a role. The group plays no part in a role that all groups share. -/
def Queue.eventSet (q : Queue) (queue : String) (role : Role) (group : String) : EventSet :=
  ⟨q.base, role, queue, if role.isPerGroup then some group else none⟩

/-- The sets that a consumer group of a queue works with. -/
structure GroupSets where
  available : EventSet
  inProgressById : EventSet
  inProgressByAck : EventSet
  redo : EventSet
  done : EventSet
deriving DecidableEq, Repr

/-- The sets of a consumer group. -/
def Queue.groupSets (q : Queue) (queue group : String) : GroupSets where
  available := q.eventSet queue .available group
  inProgressById := q.eventSet queue .inProgressById group
  inProgressByAck := q.eventSet queue .inProgressByAck group
  redo := q.eventSet queue .redo group
  done := q.eventSet queue .done group

/-! ## Commands -/

/-- Put an event into a queue. -/
structure AddCommand where
  queue : String
  /-- The event is not handed out after this instant. Its identifier may stand for a slightly later
      one, which then becomes the expiry. -/
  expire : Instant
  contents : String
  /-- Who asks, for the log. -/
  client : String := ""
deriving DecidableEq, Repr

/-- Take the next event of a queue for a consumer group. -/
structure GetCommand where
  queue : String
  group : String
  /-- If given, the event has to be acknowledged by then, or else it may be handed out again. If not,
      the event counts as done at once. -/
  deadline : Option Instant := none
  /-- Who asks, for the log. -/
  client : String := ""
deriving DecidableEq, Repr

/-- Acknowledge an event that was taken with a deadline. -/
structure AckCommand where
  queue : String
  group : String
  event : EventId
  /-- Who asks, for the log. -/
  client : String := ""
deriving DecidableEq, Repr

end GroupQueue
