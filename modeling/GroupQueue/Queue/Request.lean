import GroupQueue.Queue.Sweeper

/-!
# `GroupQueue.Queue.Request` — requests to a queue service

A request is an operation of a queue or of its store, as a caller asks for it, and a response is what
the caller gets.

## Contents
- `Request`, `Response`.
- `Request.perform` — the operation that a request asks for.
-/

namespace GroupQueue

/-- What a caller asks for. -/
inductive Request where
  | add (cmd : AddCommand)
  | get (cmd : GetCommand)
  | ack (cmd : AckCommand)
  | sweep (queue group : String)
  | len (queue : String) (role : Role) (group : String)
  /-- The set that a queue uses for a role. -/
  | eventSet (queue : String) (role : Role) (group : String)
  /-- One round of the sweeper. -/
  | tick (targets : List SweepTarget)
  /-- The sweeper, stopped after a number of rounds. -/
  | run (targets : List SweepTarget) (interval : Span) (rounds : Nat)
  /-- A call to the store itself. -/
  | store (call : StoreCall)
deriving Repr

/-- What a caller gets. -/
inductive Response where
  | nothing
  | issued (id : EventId)
  | event (event : Option Event)
  | acknowledged (inTime : Bool)
  | swept (report : SweepReport)
  | count (n : Nat)
  | eventSet (set : EventSet)
  | stopped
  | events (ids : List EventId)
deriving DecidableEq, Repr

/-- The response to a call of the store itself. -/
def StoreCall.response : (call : StoreCall) → call.Reply → Response
  | .newEventId _, id => .issued id
  | .putPayload _ _, _ => .nothing
  | .getPayload _, event => .event event
  | .execute _, executed => .events (Executed.events executed)
  | .purgePayloads, n => .count n

/-- The operation that a request asks for, at the time `now`. -/
def Request.perform (q : Queue) (now : Instant) : Request → Operation Response
  | .add cmd => .issued <$> q.add now cmd
  | .get cmd => .event <$> q.get now cmd
  | .ack cmd => .acknowledged <$> q.ack now cmd
  | .sweep queue group => .swept <$> q.sweep now queue group
  | .len queue role group => .count <$> q.len now queue role group
  | .eventSet queue role group => pure (.eventSet (q.eventSet queue role group))
  | .tick targets => ExceptT.lift (.swept <$> q.tick now targets)
  | .run targets interval rounds => ExceptT.lift do
    q.run now targets interval rounds
    return .stopped
  | .store call => do return call.response (← ask call)

end GroupQueue
