import GroupQueue.Plan.Evaluation

/-!
# `GroupQueue.Plan.Rehearsal` — plans against scripted replies

A rehearsal executes a plan against a script instead of sets: each call takes the next reply of the
script, whatever it is, and is written down. A reply of the wrong kind counts as the most common one:
no members, no member, or an empty set.

## Contents
- `ScriptedReply`, `ScriptedReply.answer` — what a reply means to a call.
- `Rehearsal.answer`, `Plan.rehearse` — execute a plan, and show the calls.
-/

namespace GroupQueue

/-- A reply of a script. -/
inductive ScriptedReply where
  /-- The call fails. -/
  | fails (reason : String)
  | members (members : List Member)
  | score (score : Int)
  | flag (flag : Bool)
  | nothing
deriving DecidableEq, Repr

namespace ScriptedReply

/-- The members of a reply. -/
def membersOf : ScriptedReply → List Member
  | members ms => ms
  | _ => []

/-- What a reply means to a call. -/
def answer (reply : ScriptedReply) (call : SetCall) : Except Failure call.Reply :=
  match reply, call with
  | fails reason, _ => .error (.other reason)
  | reply, .rangeByScore .. | reply, .rangeByRank .. => .ok reply.membersOf
  | score n, .scoreOf .. => .ok (some n)
  | _, .scoreOf .. => .ok none
  | flag b, .isEmpty .. => .ok b
  | _, .isEmpty .. => .ok true
  | _, .add .. | _, .remove .. => .ok ()

end ScriptedReply

/-- A script and the calls made so far. -/
structure Rehearsal where
  script : List ScriptedReply
  /-- The calls, the last one first. -/
  calls : List SetCall := []

/-- Answer a call with the next reply; a script that has ended goes on with `nothing`. -/
def Rehearsal.answer (call : SetCall) : ExceptT Failure (StateM Rehearsal) call.Reply :=
  fun r =>
    let reply := r.script.headD .nothing
    (reply.answer call, ⟨r.script.tail, call :: r.calls⟩)

/-- Execute a plan against a script: the result, and the calls in order. -/
def Plan.rehearse (plan : Plan) (script : List ScriptedReply) :
    Except Failure (List EventId) × List SetCall :=
  let (result, r) := (plan.execute Rehearsal.answer).run { script }
  (result.map Evaluation.events, r.calls.reverse)

end GroupQueue
