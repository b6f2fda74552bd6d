import GroupQueue.Proofs.Session.Executions

/-!
# `Proofs.Session.Calls` — what an operation comes to, with the calls it makes

A session writes down the calls to its store, also those that fail. So it can be said of an operation, where some
calls are due to fail, not only what its caller is told and what the store is left with, but also which calls have
been made, and in which order (`Session.ComesTo`). The rules follow the building blocks of the operations, as those
for `Ensures`, `Keeps` and `Executes` do. Whether a call fails is known before it is made, so there are two rules
for each: the operation ends at a call that is due to fail, and goes on from the answer to any other one.

## Contents
- `Session.ComesTo` — what an operation comes to in a session.
- `Session.afterAnswer` — the session after a call that the store has answered; `due?_afterAnswer`.
- `ComesTo.ask_of_due`, `ask_of_not_due`, `runPlan_of_due`, `runPlan_of_not_due` — the rules for calls, with one
  for each other building block.
-/

namespace GroupQueue

section Results

variable {α β : Type} {f : α → β} {result : Except Failure α}

theorem map_eq_ok_iff {b : β} : result.map f = .ok b ↔ ∃ a, result = .ok a ∧ f a = b := by
  cases result <;> simp [Except.map]

theorem map_eq_error_iff {failure : Failure} : result.map f = .error failure ↔ result = .error failure := by
  cases result <;> simp [Except.map]

end Results

namespace Session

/-- **What an operation comes to in a session**: what the caller is told, the calls that are made, in order, and
    the store that is left. -/
structure ComesTo {α : Type} (session : Session) (x : Operation α) (result : Except Failure α)
    (made : List StoreCall) (memory : Memory) : Prop where
  reply : ((converse x.run).run session).1 = result
  calls : ((converse x.run).run session).2.calls = made.reverse ++ session.calls
  memory : ((converse x.run).run session).2.memory = memory

theorem converse_mapResult {α β : Type} (f : α → β) (x : Operation α) (session : Session) :
    (converse (f <$> x).run).run session
      = (((converse x.run).run session).1.map f, ((converse x.run).run session).2) := by
  rw [ExceptT.run_map, map_eq_pure_bind, converse_bind]
  rfl

theorem converse_ask (call : StoreCall) (session : Session) :
    (converse (ask call).run).run session = session.answerStore call := rfl

/-- A plan is executed by one call, and its outcome is reported. -/
theorem converse_runPlan (queue : String) (activity : Activity) (plan : Plan) (session : Session) :
    ∃ journal, (converse (runPlan queue activity plan).run).run session
      = ((session.answerStore (.execute plan)).1.map Executed.events,
        { (session.answerStore (.execute plan)).2 with journal }) :=
  ⟨(session.answerStore (.execute plan)).2.journal.record
    (.executed queue activity (.of (session.answerStore (.execute plan)).1)), rfl⟩

/-- A session after a call that the store has answered. -/
def afterAnswer (session : Session) (call : StoreCall) (journal : Journal) : Session where
  now := session.now
  memory := (session.memory.answer session.now call).2
  faults := (PendingFault.next call.method session.faults).2
  journal
  calls := call :: session.calls

namespace ComesTo

variable {α β : Type} {session : Session} {result : Except Failure β} {made : List StoreCall} {memory : Memory}

/-- A failure ends an operation. -/
theorem throwThen (failure : Failure) (f : α → Operation β) (session : Session) :
    session.ComesTo ((throw failure : Operation α) >>= f) (.error failure) [] session.memory := ⟨rfl, rfl, rfl⟩

theorem mapResult {x : Operation α} {result : Except Failure α} (h : session.ComesTo x result made memory)
    (f : α → β) : session.ComesTo (f <$> x) (result.map f) made memory := by
  refine ⟨?_, ?_, ?_⟩ <;> rw [converse_mapResult]
  · exact congrArg (Except.map f) h.reply
  · exact h.calls
  · exact h.memory

/-- A scope is only reported. -/
theorem within {x : Operation β} (scope : Scope)
    (h : { session with journal := session.journal.record (.enter scope) }.ComesTo x result made memory) :
    session.ComesTo (GroupQueue.within scope x) result made memory := by
  obtain ⟨last, hrun⟩ := converse_within scope x session
  refine ⟨?_, ?_, ?_⟩ <;> rw [hrun]
  · exact h.reply
  · exact h.calls
  · exact h.memory

theorem reportThen {signal : Signal} {f : Unit → Operation β}
    (h : { session with journal := session.journal.record signal }.ComesTo (f ()) result made memory) :
    session.ComesTo ((report signal : Operation Unit) >>= f) result made memory := ⟨h.reply, h.calls, h.memory⟩

theorem noteThen {notice : Notice} {f : Unit → Operation β}
    (h : { session with journal := session.journal.record (.notice notice) }.ComesTo (f ()) result made memory) :
    session.ComesTo ((note notice : Operation Unit) >>= f) result made memory := reportThen h

/-- A name that cannot be used ends an operation. -/
theorem requireName_of_error {field name : String} {reason : Rejection}
    (hname : checkName field name = .error reason) (f : Unit → Operation β) :
    session.ComesTo (requireName field name >>= f) (.error (.validation reason)) [] session.memory := by
  unfold requireName
  rw [hname]
  exact ⟨rfl, rfl, rfl⟩

theorem requireName {field name : String} (hname : checkName field name = .ok ()) {f : Unit → Operation β}
    (h : session.ComesTo (f ()) result made memory) :
    session.ComesTo (GroupQueue.requireName field name >>= f) result made memory := by
  unfold GroupQueue.requireName
  rw [hname]
  exact ⟨h.reply, h.calls, h.memory⟩

section Call

variable {x : Operation α} {call : StoreCall} {after : Session}

/-- An operation goes on after its first call, and the call is written down. -/
theorem andThen_of_ok {a : α} (hx : (converse x.run).run session = (.ok a, after))
    (hcalls : after.calls = call :: session.calls) {f : α → Operation β}
    (hf : after.ComesTo (f a) result made memory) : session.ComesTo (x >>= f) result (call :: made) memory := by
  have hrun := converse_andThen_of_ok (congrArg Prod.fst hx) f
  rw [hx] at hrun
  refine ⟨?_, ?_, ?_⟩ <;> rw [hrun]
  · exact hf.reply
  · rw [List.reverse_cons, List.append_assoc]
    exact hf.calls.trans (congrArg (made.reverse ++ ·) hcalls)
  · exact hf.memory

/-- If the first call fails, the operation ends there. -/
theorem andThen_of_error {failure : Failure} (hx : (converse x.run).run session = (.error failure, after))
    (hcalls : after.calls = call :: session.calls) (f : α → Operation β) :
    session.ComesTo (x >>= f) (.error failure) [call] after.memory := by
  have hrun := converse_andThen_of_error (congrArg Prod.fst hx) f
  rw [hx] at hrun
  refine ⟨?_, ?_, ?_⟩ <;> rw [hrun]
  exact hcalls

end Call

/-- An operation ends at a call that is due to fail. -/
theorem ask_of_due (call : StoreCall) (h : PendingFault.due? call.method session.faults = some 0)
    (f : call.Reply → Operation β) :
    session.ComesTo (ask call >>= f) (.error (.injected call.method.name)) [call] session.memory :=
  andThen_of_error ((converse_ask call session).trans (answerStore_of_due h)) rfl f

/-- It goes on from the answer to any other call. -/
theorem ask_of_not_due (call : StoreCall) (h : PendingFault.due? call.method session.faults ≠ some 0)
    {reply : call.Reply} (hreply : (session.memory.answer session.now call).1 = .ok reply)
    {f : call.Reply → Operation β}
    (hf : ∀ journal, (session.afterAnswer call journal).ComesTo (f reply) result made memory) :
    session.ComesTo (ask call >>= f) result (call :: made) memory := by
  obtain ⟨journal, hanswer⟩ := answerStore_of_not_due h
  rw [hreply] at hanswer
  exact andThen_of_ok ((converse_ask call session).trans hanswer) rfl (hf journal)

/-- A plan is executed by one call. -/
theorem runPlan_of_due {plan : Plan} (h : PendingFault.due? .execute session.faults = some 0) (queue : String)
    (activity : Activity) (f : List EventId → Operation β) :
    session.ComesTo (runPlan queue activity plan >>= f) (.error (.injected StoreMethod.execute.name))
      [.execute plan] session.memory := by
  obtain ⟨journal, hplan⟩ := converse_runPlan queue activity plan session
  rw [@answerStore_of_due session (.execute plan) h] at hplan
  exact andThen_of_error hplan rfl f

theorem runPlan_of_not_due {plan : Plan} (h : PendingFault.due? .execute session.faults ≠ some 0)
    (queue : String) (activity : Activity) {executed : Executed}
    (hreply : (session.memory.execute plan).1 = .ok executed) {f : List EventId → Operation β}
    (hf : ∀ journal, (session.afterAnswer (.execute plan) journal).ComesTo (f executed.events) result made
      memory) :
    session.ComesTo (runPlan queue activity plan >>= f) result (.execute plan :: made) memory := by
  obtain ⟨journal, hplan⟩ := converse_runPlan queue activity plan session
  obtain ⟨_, hanswer⟩ := @answerStore_of_not_due session (.execute plan) h
  rw [hanswer, show (session.memory.answer session.now (.execute plan)).1 = .ok executed from hreply] at hplan
  exact andThen_of_ok hplan rfl (hf journal)

end ComesTo

/-- A call that the store has answered does not count for those of other kinds. -/
theorem due?_afterAnswer (method : StoreMethod) (call : StoreCall) (hne : method ≠ call.method)
    (session : Session) (journal : Journal) :
    PendingFault.due? method (session.afterAnswer call journal).faults = PendingFault.due? method session.faults :=
  PendingFault.due?_next_of_ne hne

end Session

end GroupQueue
