import GroupQueue.Queue.Session

/-!
# `Proofs.Session.Ensures` — what a conversation of a queue is sure to come to

A conversation meets a store in memory, and any of its calls to the store may fail. It **ensures** a
postcondition if the postcondition holds in the end, whichever calls fail. The rules follow the building
blocks of the operations; a session is one way for the calls to fail, so what is ensured holds in it
(`Ensures.converse`).

## Contents
- `Ensures`, with `ensures_bind`, `Ensures.mono` and one rule for each building block of an operation.
- `Keeps` — a conversation keeps a property of the store; one rule for each building block.
- `Ensures.converse` — a session comes to what its conversation ensures.
-/

namespace GroupQueue

/-- **What a conversation is sure to come to**: `post` holds of the result and of the store, whichever
    calls to the store fail. A call that fails leaves the store as it is. -/
def Ensures {α : Type} (now : Instant) :
    QueueDialogue α → Memory → (α → Memory → Prop) → Prop
  | .done a, memory, post => post a memory
  | .ask (.signal _) next, memory, post => Ensures now (next ()) memory post
  | .ask (.store call) next, memory, post =>
    Ensures now (next (.error (.injected call.method.name))) memory post
      ∧ Ensures now (next (memory.answer now call).1) (memory.answer now call).2 post

section Rules

variable {α β : Type} {now : Instant} {memory : Memory}

@[simp] theorem ensures_done {a : α} {post : α → Memory → Prop} :
    Ensures now (.done a) memory post ↔ post a memory := Iff.rfl

/-- A sequence ensures what its second part ensures after the first. -/
@[simp] theorem ensures_bind {d : QueueDialogue α} {f : α → QueueDialogue β}
    {post : β → Memory → Prop} :
    Ensures now (d >>= f) memory post
      ↔ Ensures now d memory fun a memory => Ensures now (f a) memory post := by
  induction d generalizing memory with
  | done a => exact Iff.rfl
  | ask call next ih =>
      cases call with
      | signal signal => exact ih ()
      | store call => exact and_congr (ih _) (ih _)

theorem Ensures.mono {d : QueueDialogue α} {post post' : α → Memory → Prop}
    (h : Ensures now d memory post) (himp : ∀ a memory, post a memory → post' a memory) :
    Ensures now d memory post' := by
  induction d generalizing memory with
  | done a => exact himp a memory h
  | ask call next ih =>
      cases call with
      | signal signal => exact ih () h
      | store call => exact ⟨ih _ h.1, ih _ h.2⟩

@[simp] theorem ensures_map {d : QueueDialogue α} {f : α → β} {post : β → Memory → Prop} :
    Ensures now (f <$> d) memory post ↔ Ensures now d memory fun a memory => post (f a) memory := by
  rw [map_eq_pure_bind, ensures_bind]
  rfl

@[simp] theorem ensures_report {signal : Signal} {post : Unit → Memory → Prop} :
    Ensures now (report signal) memory post ↔ post () memory := Iff.rfl

@[simp] theorem ensures_note {notice : Notice} {post : Unit → Memory → Prop} :
    Ensures now (note notice) memory post ↔ post () memory := Iff.rfl

/-! ## Operations -/

/-- After a failure, the rest of an operation is left out. -/
@[simp] theorem ensures_operation_bind {x : Operation α} {f : α → Operation β}
    {post : Except Failure β → Memory → Prop} :
    Ensures now (x >>= f).run memory post
      ↔ Ensures now x.run memory fun result memory =>
          match result with
          | .ok a => Ensures now (f a).run memory post
          | .error failure => post (.error failure) memory := by
  rw [ExceptT.run_bind, ensures_bind]
  constructor <;> intro h <;> refine h.mono fun result memory hresult => ?_ <;> cases result <;>
    exact hresult

@[simp] theorem ensures_operation_pure {a : α} {post : Except Failure α → Memory → Prop} :
    Ensures now (pure a : Operation α).run memory post ↔ post (.ok a) memory := Iff.rfl

@[simp] theorem ensures_throw {failure : Failure} {post : Except Failure α → Memory → Prop} :
    Ensures now (throw failure : Operation α).run memory post ↔ post (.error failure) memory := Iff.rfl

@[simp] theorem ensures_operation_report {signal : Signal} {post : Except Failure Unit → Memory → Prop} :
    Ensures now (report signal : Operation Unit).run memory post ↔ post (.ok ()) memory := Iff.rfl

@[simp] theorem ensures_operation_note {notice : Notice} {post : Except Failure Unit → Memory → Prop} :
    Ensures now (note notice : Operation Unit).run memory post ↔ post (.ok ()) memory := Iff.rfl

@[simp] theorem ensures_operation_map {x : Operation α} {f : α → β}
    {post : Except Failure β → Memory → Prop} :
    Ensures now (f <$> x).run memory post
      ↔ Ensures now x.run memory fun result memory => post (result.map f) memory := by
  rw [ExceptT.run_map, ensures_map]

/-- A call to the store fails, or is answered. -/
@[simp] theorem ensures_ask {call : StoreCall} {post : Except Failure call.Reply → Memory → Prop} :
    Ensures now (ask call).run memory post
      ↔ post (.error (.injected call.method.name)) memory
        ∧ post (memory.answer now call).1 (memory.answer now call).2 := Iff.rfl

/-- A plan is not executed at all, or it is. -/
@[simp] theorem ensures_runPlan {queue : String} {activity : Activity} {plan : Plan}
    {post : Except Failure (List EventId) → Memory → Prop} :
    Ensures now (runPlan queue activity plan).run memory post
      ↔ post (.error (.injected StoreMethod.execute.name)) memory
        ∧ post ((memory.execute plan).1.map Executed.events) (memory.execute plan).2 := Iff.rfl

/-- A scope is only reported. -/
@[simp] theorem ensures_within {scope : Scope} {x : Operation α}
    {post : Except Failure α → Memory → Prop} :
    Ensures now (within scope x).run memory post ↔ Ensures now x.run memory post := by
  rw [within, ExceptT.run_mk]
  simp only [ensures_bind, ensures_report, Dialogue.pure_eq_done, ensures_done]

/-- A name that cannot be used is refused, before anything else happens. -/
@[simp] theorem ensures_requireName {field name : String} {post : Except Failure Unit → Memory → Prop} :
    Ensures now (requireName field name).run memory post
      ↔ match checkName field name with
        | .ok () => post (.ok ()) memory
        | .error reason => post (.error (.validation reason)) memory := by
  unfold requireName
  cases checkName field name <;> exact Iff.rfl

end Rules

/-! ## Keeping a property -/

/-- A conversation keeps a property of the store, whichever of its calls fail. -/
structure Keeps {α : Type} (inv : Memory → Prop) (now : Instant) (d : QueueDialogue α) : Prop where
  ensures : ∀ memory, inv memory → Ensures now d memory fun _ memory => inv memory

namespace Keeps

variable {α β : Type} {inv : Memory → Prop} {now : Instant}

theorem pure (a : α) : Keeps inv now (Pure.pure a) := ⟨fun _ h => h⟩

theorem bind {d : QueueDialogue α} {f : α → QueueDialogue β} (hd : Keeps inv now d)
    (hf : ∀ a, Keeps inv now (f a)) : Keeps inv now (d >>= f) :=
  ⟨fun memory h =>
    ensures_bind.mpr ((hd.ensures memory h).mono fun a memory h => (hf a).ensures memory h)⟩

theorem map {d : QueueDialogue α} (hd : Keeps inv now d) (f : α → β) : Keeps inv now (f <$> d) :=
  ⟨fun memory h => ensures_map.mpr (hd.ensures memory h)⟩

theorem note (notice : Notice) : Keeps inv now (GroupQueue.note notice) := ⟨fun _ h => h⟩

theorem finish (a : α) : Keeps inv now (Pure.pure a : Operation α).run := ⟨fun _ h => h⟩

theorem andThen {x : Operation α} {f : α → Operation β} (hx : Keeps inv now x.run)
    (hf : ∀ a, Keeps inv now (f a).run) : Keeps inv now (x >>= f).run := by
  refine ⟨fun memory h => ensures_operation_bind.mpr ?_⟩
  refine (hx.ensures memory h).mono fun result memory h => ?_
  cases result with
  | ok a => exact (hf a).ensures memory h
  | error failure => exact h

theorem mapResult {x : Operation α} (hx : Keeps inv now x.run) (f : α → β) :
    Keeps inv now (f <$> x).run :=
  ⟨fun memory h => ensures_operation_map.mpr (hx.ensures memory h)⟩

theorem within (scope : Scope) {x : Operation α} (hx : Keeps inv now x.run) :
    Keeps inv now (GroupQueue.within scope x).run :=
  ⟨fun memory h => ensures_within.mpr (hx.ensures memory h)⟩

/-- A failure ends an operation, and has changed nothing. -/
theorem throw (failure : Failure) : Keeps inv now (MonadExcept.throw failure : Operation α).run :=
  ⟨fun _ h => h⟩

theorem throwThen (failure : Failure) (f : α → Operation β) :
    Keeps inv now ((MonadExcept.throw failure : Operation α) >>= f).run := ⟨fun _ h => h⟩

theorem reportThen {signal : Signal} {f : Unit → Operation α} (hf : Keeps inv now (f ()).run) :
    Keeps inv now ((GroupQueue.report signal : Operation Unit) >>= f).run :=
  ⟨fun memory h => hf.ensures memory h⟩

theorem noteThen {notice : Notice} {f : Unit → Operation α} (hf : Keeps inv now (f ()).run) :
    Keeps inv now ((GroupQueue.note notice : Operation Unit) >>= f).run :=
  ⟨fun memory h => hf.ensures memory h⟩

theorem choice {c : Prop} [Decidable c] {x y : Operation α} (hx : Keeps inv now x.run)
    (hy : Keeps inv now y.run) : Keeps inv now (if c then x else y).run := by
  split
  · exact hx
  · exact hy

theorem ask {call : StoreCall} (h : ∀ memory, inv memory → inv (memory.answer now call).2) :
    Keeps inv now (GroupQueue.ask call).run :=
  ⟨fun memory hmemory => ⟨hmemory, h memory hmemory⟩⟩

theorem runPlan (queue : String) (activity : Activity) {plan : Plan}
    (h : ∀ memory, inv memory → inv (memory.execute plan).2) :
    Keeps inv now (GroupQueue.runPlan queue activity plan).run :=
  ⟨fun memory hmemory => ⟨hmemory, h memory hmemory⟩⟩

/-- Past the check of a name, the name is fit for use. -/
theorem requireName {field name : String} {f : Unit → Operation α}
    (hf : checkName field name = .ok () → Keeps inv now (f ()).run) :
    Keeps inv now (GroupQueue.requireName field name >>= f).run := by
  refine ⟨fun memory h => ?_⟩
  rw [ensures_operation_bind, ensures_requireName]
  cases hname : checkName field name with
  | ok u => exact (hf hname).ensures memory h
  | error reason => exact h

end Keeps

/-! ## What a session comes to -/

namespace Session

/-- An answer leaves the clock alone, and concerns the store as a failed or an answered call does. -/
theorem answerStore_cases (session : Session) (call : StoreCall) :
    (session.answerStore call).2.now = session.now
      ∧ ((session.answerStore call).1 = .error (.injected call.method.name)
          ∧ (session.answerStore call).2.memory = session.memory
        ∨ (session.answerStore call).1 = (session.memory.answer session.now call).1
          ∧ (session.answerStore call).2.memory = (session.memory.answer session.now call).2) := by
  unfold answerStore
  cases hnext : PendingFault.next call.method session.faults with
  | mk fails faults =>
      cases fails with
      | true => exact ⟨rfl, Or.inl ⟨rfl, rfl⟩⟩
      | false => exact ⟨rfl, Or.inr ⟨rfl, rfl⟩⟩

end Session

/-- **A session comes to what its conversation ensures**, and its clock stands still. -/
theorem Ensures.converse {α : Type} {d : QueueDialogue α} (session : Session)
    {post : α → Memory → Prop} (h : Ensures session.now d session.memory post) :
    post ((Session.converse d).run session).1 ((Session.converse d).run session).2.memory
      ∧ ((Session.converse d).run session).2.now = session.now := by
  induction d generalizing session with
  | done a => exact ⟨h, rfl⟩
  | ask call next ih =>
      cases call with
      | signal signal =>
          exact ih () { session with journal := session.journal.record signal } h
      | store call =>
          obtain ⟨hnow, hcases⟩ := session.answerStore_cases call
          have hnext : Ensures (session.answerStore call).2.now (next (session.answerStore call).1)
              (session.answerStore call).2.memory post := by
            rw [hnow]
            rcases hcases with ⟨hreply, hmemory⟩ | ⟨hreply, hmemory⟩
            · rw [hreply, hmemory]
              exact h.1
            · rw [hreply, hmemory]
              exact h.2
          obtain ⟨hpost, hnow'⟩ := ih _ _ hnext
          exact ⟨hpost, hnow'.trans hnow⟩

-- From here on the rules are used, and conversations are not unfolded any more.
attribute [irreducible] Ensures

end GroupQueue
