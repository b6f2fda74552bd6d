import GroupQueue.Queue.Interface
import GroupQueue.Sql.Database
import GroupQueue.Store.Interface

/-!
# `GroupQueue.Sql.Store` — a store in a database

Each plan is one transaction. Before its first step it takes the locks of all sets that it names, in the
order of sets, so that plans over common sets run one after the other. Numbers of rows are cut off at
the greatest integer that the database knows.

## Contents
- `clampRows` — a number of rows that the database can read.
- `MemberQuery.ofRange`, `MemberQuery.ofRanks` — the queries behind range and rank reads.
- `answerSetCall` — answer a call of a plan inside a transaction; `executePlan`.
- `answerStoreCall` — answer a call to the store; `answerQueueCall`, `converse`.
-/

namespace GroupQueue.Sql

open Text (maxWord)

/-- A number of rows, or the greatest one that can be sent. -/
def clampRows (n : Nat) : Nat := min n maxWord.toNat

/-- The query for the members in a range. -/
def MemberQuery.ofRange (key : String) (range : ScoreRange) : MemberQuery where
  key
  lower := range.lower
  upper := range.upper
  descending := range.descending
  limit := range.limit.map clampRows

/-- The query for the members at the ranks `start … stop`. -/
def MemberQuery.ofRanks (key : String) (start stop : Nat) : MemberQuery where
  key
  offset := some (clampRows start)
  limit := some (clampRows (stop - start + 1))

/-- The member in a row. -/
def readMember (row : Row) : Except DatabaseFault Member := do
  return ⟨⟨← row.integer 0⟩, ← row.integer 1⟩

/-- The event in a row. -/
def readEvent (row : Row) : Except DatabaseFault Event := do
  return .new ⟨← row.integer 0⟩ (← row.text 1)

/-! ## Plans -/

/-- Answer a call of a plan. -/
def answerSetCall : (call : SetCall) → SqlOperation call.Reply
  | .rangeByScore set range => fetch (.members (.ofRange set.key range)) readMember
  | .rangeByRank set start stop => fetch (.members (.ofRanks set.key start stop)) readMember
  | .scoreOf set event => fetchFirst? (.score set.key event) (·.integer 0)
  | .add set members => discard (send (.insertMembers set.key members))
  | .remove set events => discard (send (.deleteMembers set.key events))
  | .isEmpty set => fetchFirst (.isEmpty set.key) (·.boolean 0)

/-- Take the locks of some sets, in order. -/
def lockEach : List EventSet → SqlOperation Unit
  | [] => pure ()
  | set :: sets => do
    let _ ← send (.lock set.key)
    lockEach sets

/-- Execute a plan in a transaction of its own. -/
def executePlan (plan : Plan) : SqlOperation Executed := do
  let e ← transaction do
    lockEach plan.sets
    plan.execute answerSetCall
  let done := Notice.planCommitted plan.base plan.steps.length e.selected.length
  return ⟨e.events, e.notices ++ [done]⟩

/-! ## Stores -/

/-- Answer a call to the store. -/
def answerStoreCall : (call : StoreCall) → SqlOperation call.Reply
  | .newEventId expire => EventId.mk <$> fetchFirst (.issueId expire.score) (·.integer 0)
  | .putPayload event grace =>
    discard (send (.insertPayload event (event.expire.shiftClamped grace)))
  | .getPayload id => fetchFirst? (.payload id) readEvent
  | .execute plan => executePlan plan
  | .purgePayloads => Answer.affected <$> send .deletePayloads

/-- Answer a call of a queue. Nobody listens to its signals. -/
def answerQueueCall : (call : QueueCall) → SqlDialogue call.Reply
  | .store call => (answerStoreCall call).run
  | .signal _ => pure ()

/-- Hold a conversation of a queue whose store is a database. -/
def converse {α : Type} (dialogue : QueueDialogue α) : SqlDialogue α :=
  dialogue.interpret answerQueueCall

end GroupQueue.Sql
