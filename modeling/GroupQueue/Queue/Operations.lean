import GroupQueue.Queue.Interface
import GroupQueue.Queue.Name
import GroupQueue.Queue.Plans

/-!
# `GroupQueue.Queue.Operations` — add, get, acknowledge, sweep, count

Each operation checks the names it is given before it does anything else, and then runs its plans
inside a scope of its own. The clock reading `now` holds for the whole of an operation.

## Contents
- `Queue.add` — the payload is written before the event becomes available. If the plan fails, the
  payload is left to its expiry.
- `Queue.get` — the next event of a group, or nothing.
- `Queue.ack` — whether the event was still within its deadline.
- `SweepReport`, `Queue.sweep` — requeue what was not acknowledged, drop what has expired.
- `Queue.len` — the number of live members of a set.
-/

namespace GroupQueue

/-- Refuse the command unless the name can be used. -/
def requireName (field name : String) : Operation Unit :=
  match checkName field name with
  | .ok () => pure ()
  | .error reason => throw (.validation reason)

/-- What a sweep did. -/
structure SweepReport where
  /-- The events moved to `redo`. -/
  requeued : Nat := 0
  /-- The expired events taken out of sets. -/
  purged : Nat := 0
  /-- The payloads dropped. -/
  payloadsPurged : Nat := 0
deriving DecidableEq, Repr

/-- What two sweeps did together. -/
def SweepReport.add (a b : SweepReport) : SweepReport :=
  ⟨a.requeued + b.requeued, a.purged + b.purged, a.payloadsPurged + b.payloadsPurged⟩

namespace Queue

/-- Put an event into a queue. -/
def add (q : Queue) (now : Instant) (cmd : AddCommand) : Operation EventId := do
  requireName "queue" cmd.queue
  if cmd.contents.isEmpty then throw (.validation (.missing "contents"))
  within ⟨.add, cmd.queue, "", cmd.client⟩ do
    let id : EventId ← ask (.newEventId cmd.expire)
    let event := Event.new id cmd.contents
    let _ : Unit ← ask (.putPayload event q.grace)
    let selected ← runPlan cmd.queue .add (q.addPlan now cmd.queue id)
    report (.selected selected.length)
    note (.eventAdded id event.expire)
    return id

/-- Take the next event of a queue for a consumer group. -/
def get (q : Queue) (now : Instant) (cmd : GetCommand) : Operation (Option Event) := do
  requireName "queue" cmd.queue
  requireName "group" cmd.group
  within ⟨.get, cmd.queue, cmd.group, cmd.client⟩ do
    let selected ← runPlan cmd.queue .get (q.getPlan now cmd)
    report (.selected selected.length)
    match selected.head? with
    | none =>
      note .nothingAvailable
      return none
    | some id =>
      let stored : Option Event ← ask (.getPayload id)
      match stored with
      | none => throw (.payloadMissing id)
      | some event =>
        note (.eventDelivered id cmd.deadline)
        return some event

/-- Acknowledge an event. If its deadline was missed, it may be handed out again. -/
def ack (q : Queue) (now : Instant) (cmd : AckCommand) : Operation Bool := do
  requireName "queue" cmd.queue
  requireName "group" cmd.group
  within ⟨.ack, cmd.queue, cmd.group, cmd.client⟩ do
    let selected ← runPlan cmd.queue .ack (q.ackPlan now cmd)
    report (.selected selected.length)
    let inTime := !selected.isEmpty
    note (.acknowledged cmd.event inTime)
    return inTime

/-- Take the expired events out of each set, and count them. -/
def purgeEach (q : Queue) (now : Instant) (queue : String) : List EventSet → Operation Nat
  | [] => pure 0
  | set :: sets => do
    let selected ← runPlan queue .purge (q.purgePlan now set)
    return selected.length + (← purgeEach q now queue sets)

/-- Requeue the events of a group whose deadline has passed, then drop the expired events of its queue.
    Each set is seen to by an atomic plan of its own. -/
def sweep (q : Queue) (now : Instant) (queue group : String) : Operation SweepReport := do
  requireName "queue" queue
  requireName "group" group
  within ⟨.sweep, queue, group, "sweeper"⟩ do
    let sets := q.groupSets queue group
    let moved ← runPlan queue .sweep (q.requeuePlan now sets)
    let requeued := moved.length
    let purged ← q.purgeEach now queue [sets.available, sets.redo, sets.done]
    if 0 < requeued then
      report (.requeued queue group requeued)
      note (.requeued requeued)
    if 0 < purged then note (.purged purged)
    report (.selected requeued)
    return { requeued, purged }

/-- The number of live members of a set. -/
def len (q : Queue) (now : Instant) (queue : String) (role : Role) (group : String) :
    Operation Nat := do
  requireName "queue" queue
  if role.isPerGroup then requireName "group" group
  let selected ← runPlan queue .len (q.lenPlan now queue role group)
  return selected.length

end Queue

end GroupQueue
