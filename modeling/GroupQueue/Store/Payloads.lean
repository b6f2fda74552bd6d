import GroupQueue.Event
import Std.Data.ExtTreeMap

/-!
# `GroupQueue.Store.Payloads` — the events whose contents are kept

A payload is kept until a grace period after the expiry of its event. Once that time has come it is no
longer found, whether or not it has been dropped yet.

## Contents
- `StoredPayload`, `StoredPayload.isLive`.
- `Payloads` — with `put`, `get`, `purge`, `count`.
-/

namespace GroupQueue

/-- An event and the instant from which on it is not kept. -/
structure StoredPayload where
  event : Event
  expiresAt : Instant
deriving DecidableEq, Repr

/-- Whether the event is still kept at `now`. -/
def StoredPayload.isLive (payload : StoredPayload) (now : Instant) : Bool := now < payload.expiresAt.onClock

/-- Payloads by the identifiers of their events. -/
structure Payloads where
  byId : Std.ExtTreeMap EventId StoredPayload := ∅

namespace Payloads

/-- Keep an event until `grace` after its expiry, in place of an earlier one of the same identifier. -/
def put (payloads : Payloads) (event : Event) (grace : Span) : Payloads :=
  ⟨payloads.byId.insert event.id ⟨event, event.expire.shiftClamped grace⟩⟩

/-- The event with an identifier, if it is kept at `now`. One that is not is dropped. -/
def get (payloads : Payloads) (now : Instant) (id : EventId) : Option Event × Payloads :=
  match payloads.byId[id]? with
  | none => (none, payloads)
  | some payload =>
    if payload.isLive now then (some payload.event, payloads)
    else (none, ⟨payloads.byId.erase id⟩)

/-- The number of payloads held, kept or not. -/
def count (payloads : Payloads) : Nat := payloads.byId.size

/-- Drop the payloads that are not kept at `now`, and count them. -/
def purge (payloads : Payloads) (now : Instant) : Nat × Payloads :=
  let live : Payloads := ⟨payloads.byId.filter fun _ payload => payload.isLive now⟩
  (payloads.count - live.count, live)

end Payloads

end GroupQueue
