import GroupQueue.Plan.Evaluation

/-!
# `GroupQueue.Store.Interface` — what a queue needs from its store

A store issues identifiers, keeps the payloads of events for as long as they live, and executes plans
over event sets, each as one atomic unit.

## Contents
- `StoreCall`, `StoreCall.Reply` — the calls, and the type of a successful reply to each.
- `Executed` — the reply to a plan.
- `StoreMethod`, `StoreCall.method` — the kind of a call.
-/

namespace GroupQueue

/-- What a store can be asked for. -/
inductive StoreCall where
  /-- Issue a new identifier, no earlier than `expire`. -/
  | newEventId (expire : Instant)
  /-- Keep an event until `grace` after its expiry. -/
  | putPayload (event : Event) (grace : Span)
  /-- The event with this identifier, if it is kept. -/
  | getPayload (id : EventId)
  /-- Execute a plan. If that fails, nothing that the plan did is kept. -/
  | execute (plan : Plan)
  /-- Drop the events that need not be kept any longer. -/
  | purgePayloads
deriving Repr

/-- What executing a plan gives. -/
structure Executed where
  events : List EventId
  notices : List Notice
deriving Repr

/-- The kind of a call to a store. -/
inductive StoreMethod where
  | newEventId
  | putPayload
  | getPayload
  | execute
  | purgePayloads
deriving DecidableEq, Repr

namespace StoreMethod

/-- All kinds. -/
def all : List StoreMethod := [newEventId, putPayload, getPayload, execute, purgePayloads]

/-- The name of a kind. -/
def name : StoreMethod → String
  | newEventId => "new_event_id"
  | putPayload => "put_payload"
  | getPayload => "get_payload"
  | execute => "execute"
  | purgePayloads => "purge_payloads"

/-- The kind with a given name. -/
def ofName? (s : String) : Option StoreMethod := all.find? fun method => method.name == s

end StoreMethod

namespace StoreCall

/-- The type of a successful reply to a call. -/
abbrev Reply : StoreCall → Type
  | newEventId _ => EventId
  | putPayload .. => Unit
  | getPayload _ => Option Event
  | execute _ => Executed
  | purgePayloads => Nat

/-- The kind of a call. -/
def method : StoreCall → StoreMethod
  | newEventId _ => .newEventId
  | putPayload .. => .putPayload
  | getPayload _ => .getPayload
  | execute _ => .execute
  | purgePayloads => .purgePayloads

end StoreCall

end GroupQueue
