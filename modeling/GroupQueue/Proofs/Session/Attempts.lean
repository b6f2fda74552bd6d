import GroupQueue.Proofs.Session.Calls

/-!
# `Proofs.Session.Attempts` — the calls of a session, each with the store that it meets

A session writes down which calls have been made. What a call has done is seen only beside the store that it has
met, and whether it has been made to fail. So the calls are gone through once more, as **attempts**, each with what
there is to know of it in advance. Like the conversation that they belong to, the attempts of a sequence are those
of its parts, up to the first failure. They are the calls that the session has written down (`calls_converse`).

## Contents
- `Attempt`, `Attempt.after` — a call that is made, and the store after it.
- `Session.attempts`, with `attempts_bind`, `attempts_andThen`; `calls_converse`.
- `Session.turnAttempts`, `Session.allAttempts` — turns and runs; `calls_after`.
-/

namespace GroupQueue

/-- A call to the store as it is made: the clock reading, the store before it, and whether it is made to fail. -/
structure Attempt where
  now : Instant
  before : Memory
  call : StoreCall
  fails : Bool

/-- The store after an attempt. -/
def Attempt.after (a : Attempt) : Memory := if a.fails then a.before else (a.before.answer a.now a.call).2

namespace Session

variable {α β : Type} {session : Session}

/-- A call to the store, as a session makes it. -/
def attempt (session : Session) (call : StoreCall) : Attempt where
  now := session.now
  before := session.memory
  call
  fails := (PendingFault.next call.method session.faults).1

/-- The calls of a conversation, as a session makes them, in order. -/
def attempts {α : Type} : QueueDialogue α → Session → List Attempt
  | .done _, _ => []
  | .ask (.signal signal) next, session =>
    attempts (next ()) { session with journal := session.journal.record signal }
  | .ask (.store call) next, session =>
    session.attempt call :: attempts (next (session.answerStore call).1) (session.answerStore call).2

/-- The attempts of a sequence are those of its parts. -/
theorem attempts_bind (d : QueueDialogue α) (f : α → QueueDialogue β) (session : Session) :
    attempts (d >>= f) session
      = attempts d session ++ attempts (f ((converse d).run session).1) ((converse d).run session).2 := by
  induction d generalizing session with
  | done a => rfl
  | ask call next ih =>
      cases call with
      | signal signal => exact ih () { session with journal := session.journal.record signal }
      | store call =>
          exact congrArg (session.attempt call :: ·) (ih (session.answerStore call).1 (session.answerStore call).2)

/-- After a failure, the rest of an operation is left out. -/
theorem attempts_andThen (x : Operation α) (f : α → Operation β) (session : Session) :
    attempts (x >>= f).run session
      = attempts x.run session
        ++ match ((converse x.run).run session).1 with
          | .ok a => attempts (f a).run ((converse x.run).run session).2
          | .error _ => [] := by
  rw [ExceptT.run_bind, attempts_bind]
  cases ((converse x.run).run session).1 <;> rfl

/-- What becomes of the result makes no difference. -/
theorem attempts_mapResult (f : α → β) (x : Operation α) (session : Session) :
    attempts (f <$> x).run session = attempts x.run session := by
  rw [ExceptT.run_map, map_eq_pure_bind, attempts_bind]
  exact List.append_nil _

/-- **The attempts are the calls that a session writes down.** -/
theorem calls_converse (d : QueueDialogue α) (session : Session) :
    ((converse d).run session).2.calls
      = ((attempts d session).map Attempt.call).reverse ++ session.calls := by
  induction d generalizing session with
  | done a => rfl
  | ask call next ih =>
      cases call with
      | signal signal => exact ih () { session with journal := session.journal.record signal }
      | store call =>
          have hcalls : (session.answerStore call).2.calls = call :: session.calls := by
            unfold answerStore
            cases PendingFault.next call.method session.faults with
            | mk fails faults => cases fails <;> rfl
          refine (ih (session.answerStore call).1 (session.answerStore call).2).trans ?_
          rw [hcalls, attempts, List.map_cons, List.reverse_cons, List.append_assoc]
          rfl

/-! ## Turns -/

/-- The calls of a turn. -/
def turnAttempts (session : Session) (t : Turn) : List Attempt :=
  attempts (t.request.perform t.queue t.now).run
    { session with now := t.now, faults := session.faults ++ t.faults }

/-- The calls of some turns. -/
def allAttempts (session : Session) : List Turn → List Attempt
  | [] => []
  | t :: turns => session.turnAttempts t ++ (session.turn t).2.allAttempts turns

/-- The attempts of a run are the calls that it has written down. -/
theorem calls_after (turns : List Turn) :
    (after turns).calls = ((fresh.allAttempts turns).map Attempt.call).reverse := by
  have hfrom (session : Session) : (turns.foldl (fun session t => (session.turn t).2) session).calls
      = ((session.allAttempts turns).map Attempt.call).reverse ++ session.calls := by
    induction turns generalizing session with
    | nil => rfl
    | cons t turns ih =>
        have hturn : (session.turn t).2.calls
            = ((session.turnAttempts t).map Attempt.call).reverse ++ session.calls :=
          calls_converse _ _
        rw [List.foldl_cons, ih, hturn, allAttempts, List.map_append, List.reverse_append, List.append_assoc]
  exact (hfrom fresh).trans (List.append_nil _)

end Session

end GroupQueue
