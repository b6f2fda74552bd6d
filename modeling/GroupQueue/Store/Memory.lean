import GroupQueue.Store.Interface
import GroupQueue.Store.Payloads
import GroupQueue.Store.Sets

/-!
# `GroupQueue.Store.Memory` — a store in memory

The store holds the event sets, the payloads and the last identifier it issued.

## Contents
- `Memory` — the state of a store.
- `Memory.answer` — answer a call at a given time.
-/

namespace GroupQueue

/-- The state of a store in memory. -/
structure Memory where
  sets : Sets := {}
  payloads : Payloads := {}
  lastId : Option EventId := none

namespace Memory

/-- Execute a plan and note that it was executed. -/
def execute (memory : Memory) (plan : Plan) : Except Failure Executed × Memory :=
  match (Sets.execute plan).run memory.sets with
  | (.error failure, sets) => (.error failure, { memory with sets })
  | (.ok e, sets) =>
    let done := Notice.planExecuted plan.base plan.steps.length e.selected.length
    (.ok ⟨e.events, e.notices ++ [done]⟩, { memory with sets })

/-- Answer a call at the time `now`. -/
def answer (memory : Memory) (now : Instant) :
    (call : StoreCall) → Except Failure call.Reply × Memory
  | .newEventId expire =>
    let id := EventId.nextAfter expire memory.lastId
    (.ok id, { memory with lastId := some id })
  | .putPayload event grace =>
    (.ok (), { memory with payloads := memory.payloads.put event grace })
  | .getPayload id =>
    let (event, payloads) := memory.payloads.get now id
    (.ok event, { memory with payloads })
  | .execute plan => memory.execute plan
  | .purgePayloads =>
    let (count, payloads) := memory.payloads.purge now
    (.ok count, { memory with payloads })

end Memory

end GroupQueue
