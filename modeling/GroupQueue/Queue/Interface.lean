import GroupQueue.Store.Interface

/-!
# `GroupQueue.Queue.Interface` — what a queue operation asks for and what it reports

An operation is a dialogue with its store, whose calls may fail, and with an observer, to whom it
reports its scope, the outcome of its plans, and notices. The observer has no say in what happens.

## Contents
- `Activity`, `Outcome`, `Scope`, `Signal` — what is reported.
- `QueueCall`, `Operation` — dialogues that may fail.
- `ask`, `report`, `within`, `runPlan` — their building blocks.
-/

namespace GroupQueue

/-- What a plan is executed for. -/
inductive Activity where
  | add
  | get
  | ack
  | sweep
  | purge
  | len
deriving DecidableEq, Repr

/-- The name of an activity. -/
def Activity.name : Activity → String
  | add => "add"
  | get => "get"
  | ack => "ack"
  | sweep => "sweep"
  | purge => "purge"
  | len => "len"

/-- How executing a plan ended. -/
inductive Outcome where
  | selected
  | empty
  | error
deriving DecidableEq, Repr

/-- The name of an outcome. -/
def Outcome.name : Outcome → String
  | selected => "selected"
  | empty => "empty"
  | error => "error"

/-- The outcome of a plan that gave `reply`. -/
def Outcome.of : Except Failure Executed → Outcome
  | .ok reply => if reply.events.isEmpty then empty else selected
  | .error _ => error

/-- The scope of one operation. -/
structure Scope where
  activity : Activity
  queue : String
  group : String
  client : String
deriving DecidableEq, Repr

/-- What an operation reports. -/
inductive Signal where
  | enter (scope : Scope)
  /-- The number of events that the plan of the scope selected. -/
  | selected (count : Nat)
  | leave
  | notice (notice : Notice)
  /-- A plan was executed. -/
  | executed (queue : String) (activity : Activity) (outcome : Outcome)
  /-- Events of a group went back because nobody acknowledged them in time. -/
  | requeued (queue group : String) (count : Nat)
deriving DecidableEq, Repr

/-- What an operation asks for. -/
inductive QueueCall where
  | store (call : StoreCall)
  | signal (signal : Signal)
deriving Repr

namespace QueueCall

/-- The type of reply to a call. -/
abbrev Reply : QueueCall → Type
  | store call => Except Failure call.Reply
  | signal _ => Unit

/-- The calls with their replies. -/
abbrev interface : Interface := ⟨QueueCall, Reply⟩

end QueueCall

/-- A conversation of a queue. -/
abbrev QueueDialogue := Dialogue QueueCall.interface

/-- A conversation of a queue that may fail. -/
abbrev Operation := ExceptT Failure QueueDialogue

/-- Report to the observer. -/
def report (signal : Signal) : QueueDialogue Unit :=
  Dialogue.call (I := QueueCall.interface) (.signal signal)

/-- Tell the observer that something happened. -/
def note (notice : Notice) : QueueDialogue Unit := report (.notice notice)

/-- Call the store, and hand its failure on. -/
def ask (call : StoreCall) : Operation call.Reply :=
  ExceptT.mk (Dialogue.call (I := QueueCall.interface) (.store call))

/-- Hold a conversation inside a scope, whichever way it ends. -/
def within {α : Type} (scope : Scope) (operation : Operation α) : Operation α :=
  ExceptT.mk do
    report (.enter scope)
    let result ← operation.run
    report .leave
    return result

/-- Execute a plan and report its outcome. -/
def runPlan (queue : String) (activity : Activity) (plan : Plan) : Operation (List EventId) :=
  ExceptT.mk do
    let reply : Except Failure Executed ←
      Dialogue.call (I := QueueCall.interface) (.store (.execute plan))
    report (.executed queue activity (.of reply))
    return reply.map Executed.events

end GroupQueue
