import GroupQueue.Failure
import GroupQueue.Time.Stamp

/-!
# `GroupQueue.Notice` — what the library tells a reader of its log

A notice says that something happened. It is worded as a fixed message with named fields, whose values
are texts, and it has a level of importance.

## Contents
- `Level`, `Level.name` — the five levels.
- `Notice` — all notices, with `Notice.level`, `Notice.message` and `Notice.fields`.
-/

namespace GroupQueue

/-- How important a notice is, from the most important level to the least. -/
inductive Level where
  | error
  | warn
  | info
  | debug
  | trace
deriving DecidableEq, Repr

namespace Level

/-- All levels, in order. -/
def all : List Level := [error, warn, info, debug, trace]

/-- The name of a level. -/
def name : Level → String
  | error => "ERROR"
  | warn => "WARN"
  | info => "INFO"
  | debug => "DEBUG"
  | trace => "TRACE"

end Level

/-- Something that happened. -/
inductive Notice where
  /-- The guard of a step did not hold. -/
  | stepSkipped (step : Nat)
  /-- A plan ended at a step that breaks. -/
  | planBroken (step selected : Nat)
  /-- A plan was executed in memory. -/
  | planExecuted (base : String) (steps selected : Nat)
  /-- A plan was executed and committed by a database. -/
  | planCommitted (base : String) (steps selected : Nat)
  | eventAdded (event : EventId) (expire : Instant)
  /-- There was nothing to hand out. -/
  | nothingAvailable
  | eventDelivered (event : EventId) (deadline : Option Instant)
  /-- An acknowledgement came, in time or not. -/
  | acknowledged (event : EventId) (inTime : Bool)
  /-- Events went back because nobody acknowledged them in time. -/
  | requeued (count : Nat)
  /-- Expired events left the sets. -/
  | purged (count : Nat)
  | sweepFailed (queue group : String) (failure : Failure)
  | payloadPurgeFailed (failure : Failure)
  | sweeperStarted (targets intervalMillis : Nat)
  | sweepComplete (moved dropped payloads : Nat)
  | sweeperStopped
deriving DecidableEq, Repr

namespace Notice

/-- How important the notice is. -/
def level : Notice → Level
  | stepSkipped .. | planExecuted .. | planCommitted .. => .trace
  | planBroken .. | nothingAvailable | eventDelivered .. | acknowledged .. | purged .. => .debug
  | eventAdded .. | requeued .. | sweeperStarted .. | sweepComplete .. | sweeperStopped => .info
  | sweepFailed .. | payloadPurgeFailed .. => .warn

/-- The message. -/
def message : Notice → String
  | stepSkipped .. => "select guard false, skipping"
  | planBroken .. => "plan break"
  | planExecuted .. => "plan executed"
  | planCommitted .. => "plan committed"
  | eventAdded .. => "event added"
  | nothingAvailable => "nothing available"
  | eventDelivered .. => "event delivered"
  | acknowledged .. => "ack"
  | requeued .. => "requeued events past their ack deadline"
  | purged .. => "purged expired events"
  | sweepFailed _ _ failure => "sweep failed: " ++ failure.message
  | payloadPurgeFailed failure => "payload purge failed: " ++ failure.message
  | sweeperStarted .. => "sweeper started"
  | sweepComplete .. => "sweep complete"
  | sweeperStopped => "sweeper shutting down"

/-- The fields, by name. -/
def fields : Notice → List (String × String)
  | stepSkipped step => [("step", toString step)]
  | planBroken step selected => [("step", toString step), ("selected", toString selected)]
  | planExecuted base steps selected | planCommitted base steps selected =>
    [("base", base), ("steps", toString steps), ("selected", toString selected)]
  | eventAdded event expire => [("event", toString event), ("expire", expire.spacedStamp)]
  | nothingAvailable => []
  | eventDelivered event deadline =>
    let shown := (deadline.map fun t => "Some(" ++ t.stamp ++ ")").getD "None"
    [("event", toString event), ("deadline", shown)]
  | acknowledged event inTime =>
    [("event", toString event), ("acked", if inTime then "true" else "false")]
  | requeued count => [("requeued", toString count)]
  | purged count => [("purged", toString count)]
  | sweepFailed queue group _ => [("queue", queue), ("group", group)]
  | payloadPurgeFailed _ => []
  | sweeperStarted targets interval =>
    [("targets", toString targets), ("interval_ms", toString interval)]
  | sweepComplete moved dropped payloads =>
    [("requeued", toString moved), ("purged", toString dropped),
      ("payloads_purged", toString payloads)]
  | sweeperStopped => []

end Notice

end GroupQueue
