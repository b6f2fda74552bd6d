import GroupQueue.Queue.Request
import GroupQueue.Store.Faults
import GroupQueue.Store.Memory
import GroupQueue.Telemetry.Journal

/-!
# `GroupQueue.Queue.Session` — a queue service over a store in memory

A session is a store in memory with a clock, with calls that are to fail, and with a journal. The clock
moves only when it is set, and time stands still inside an operation.

## Contents
- `Session` — the state.
- `Session.answer` — answer the calls of a queue: a call that is due to fail never reaches the store.
- `Session.perform` — a request from beginning to end.
-/

namespace GroupQueue

/-- The state of a queue service over a store in memory. -/
structure Session where
  now : Instant
  memory : Memory := {}
  faults : List PendingFault := []
  journal : Journal := {}
  /-- The calls to the store, the last one first. -/
  calls : List StoreCall := []

namespace Session

/-- The notices that a reply of the store carries. -/
def noticesOf : (call : StoreCall) → Except Failure call.Reply → List Notice
  | .execute _, .ok executed => Executed.notices executed
  | _, _ => []

/-- Answer a call to the store. -/
def answerStore (session : Session) (call : StoreCall) : Except Failure call.Reply × Session :=
  let (fails, faults) := PendingFault.next call.method session.faults
  let session := { session with faults, calls := call :: session.calls }
  if fails then (.error (.injected call.method.name), session)
  else
    let (reply, memory) := session.memory.answer session.now call
    let journal := (noticesOf call reply).foldl Journal.note session.journal
    (reply, { session with memory, journal })

/-- Answer a call of a queue. -/
def answer : (call : QueueCall) → StateM Session call.Reply
  | .store call => fun session => session.answerStore call
  | .signal signal => fun session =>
    ((), { session with journal := session.journal.record signal })

/-- Hold a conversation of a queue. -/
def converse {α : Type} (dialogue : QueueDialogue α) : StateM Session α :=
  dialogue.interpret answer

/-- Perform a request. -/
def perform (q : Queue) (request : Request) : StateM Session (Except Failure Response) := do
  converse (request.perform q (← get).now).run

end Session

end GroupQueue
