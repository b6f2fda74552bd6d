import GroupQueue.Proofs.Session.Requeues

/-!
# `Proofs.Session.Tallies` — what is counted as requeued, and what is moved

An observer counts events as requeued when it is told so, and that is after the events have been moved. So a part of
a conversation **tallies** if it counts as many events as it moves, except for those that are moved right before a
call fails. Whatever comes next must make no difference to that, or it could not be said of one part after another.
The rules follow the building blocks of the operations, as those for `Ensures`, `Keeps` and `Executes` do. All of
them but a sweep move nothing and count nothing.

## Contents
- `Session.requeued` — the events that have been counted; `requeued_record`, `requeued_answerStore`.
- `Tallied` — between two states of a session, with `still`, `none`, `append`, `of_first`.
- `Tallies` — of a conversation, with one rule for each building block.
-/

namespace GroupQueue

/-! ## What is counted -/

/-- The events of a group that have been counted as requeued. -/
def Session.requeued (queue group : String) (session : Session) : Nat :=
  session.journal.metrics.requeued.getD [queue, group] 0

/-- Whether events are counted as requeued. -/
def Signal.isRequeued : Signal → Bool
  | .requeued _ _ _ => true
  | _ => false

/-- **Between two states of a session, what is moved is counted, except for what is cut short**, whatever comes
    next. -/
structure Tallied (queue group : String) (before : Session) (attempts : List Attempt) (after : Session) : Prop where
  sound : after.memory.Sound
  counted : after.requeued queue group + Attempt.cutShortIn queue group attempts
    = before.requeued queue group + Attempt.movedIn queue group attempts
  apart : ∀ more, Attempt.cutShortIn queue group (attempts ++ more)
    = Attempt.cutShortIn queue group attempts + Attempt.cutShortIn queue group more

namespace Tallied

variable {queue group : String} {before between after : Session} {attempts more : List Attempt}

/-- Where nothing is moved, nothing is to be counted. -/
theorem still (hsound : after.memory.Sound) (h : ∀ a ∈ attempts, a.moved queue group = 0)
    (hcounted : after.requeued queue group = before.requeued queue group) :
    Tallied queue group before attempts after where
  sound := hsound
  counted := by rw [Attempt.cutShortIn_of_still h, Attempt.movedIn_of_still h, hcounted]
  apart more := by rw [Attempt.cutShortIn_still_append h, Attempt.cutShortIn_of_still h, Nat.zero_add]

theorem none (hsound : after.memory.Sound) (hcounted : after.requeued queue group = before.requeued queue group) :
    Tallied queue group before [] after := still hsound (List.forall_mem_nil _) hcounted

theorem append (h : Tallied queue group before attempts between) (h' : Tallied queue group between more after) :
    Tallied queue group before (attempts ++ more) after where
  sound := h'.sound
  counted := by
    have hfirst := h.counted
    have hsecond := h'.counted
    rw [h.apart, Attempt.movedIn_append]
    omega
  apart rest := by rw [List.append_assoc, h.apart, h'.apart, h.apart, Nat.add_assoc]

/-- Only what has been counted before matters. -/
theorem of_counted_eq (h : Tallied queue group between attempts after)
    (hcounted : between.requeued queue group = before.requeued queue group) :
    Tallied queue group before attempts after := ⟨h.sound, by rw [← hcounted, h.counted], h.apart⟩

/-- What one attempt moves is counted once the next three are over, unless one of them fails. -/
theorem of_first {a : Attempt} (done : Bool) (hsound : after.memory.Sound)
    (hstill : ∀ a ∈ attempts, a.moved queue group = 0)
    (hcut : ∀ more, ((attempts ++ more).take 3).any Attempt.fails = !done)
    (hcounted : after.requeued queue group
      = before.requeued queue group + if done then a.moved queue group else 0) :
    Tallied queue group before (a :: attempts) after := by
  have hshort (more : List Attempt) : Attempt.cutShortIn queue group (a :: attempts ++ more)
      = (if done then 0 else a.moved queue group) + Attempt.cutShortIn queue group more := by
    rw [List.cons_append, Attempt.cutShortIn, hcut, Attempt.cutShortIn_still_append hstill]
    cases done <;> rfl
  have hown := hshort []
  rw [List.append_nil, Attempt.cutShortIn, Nat.add_zero] at hown
  refine ⟨hsound, ?_, fun more => by rw [hshort, hown]⟩
  have hmoved : Attempt.movedIn queue group (a :: attempts) = a.moved queue group := by
    rw [Attempt.movedIn, Attempt.movedIn_of_still hstill, Nat.add_zero]
  rw [hown, hcounted, hmoved]
  cases done <;> simp

end Tallied

/-! ## Building blocks -/

namespace Session

variable {queue group : String} {session : Session}

/-- No signal but one counts events as requeued. -/
theorem requeued_record {signal : Signal} (h : signal.isRequeued = false) :
    requeued queue group { session with journal := session.journal.record signal }
      = session.requeued queue group := by
  cases signal with
  | requeued queue' group' count => contradiction
  | _ => rfl

theorem requeued_record_requeued (queue' group' : String) (count : Nat) :
    requeued queue group { session with journal := session.journal.record (.requeued queue' group' count) }
      = session.requeued queue group + if queue' = queue ∧ group' = group then count else 0 := by
  have hsame : compare [queue', group'] [queue, group] = .eq ↔ queue' = queue ∧ group' = group := by
    rw [Std.compare_eq_iff_eq]
    simp
  show (session.journal.metrics.requeued.insert _ _).getD _ _ = _
  rw [Std.ExtTreeMap.getD_insert]
  by_cases h : queue' = queue ∧ group' = group
  · obtain ⟨rfl, rfl⟩ := h
    rw [if_pos (hsame.mpr ⟨rfl, rfl⟩), if_pos ⟨rfl, rfl⟩]
    rfl
  · rw [if_neg (mt hsame.mp h), if_neg h]
    rfl

/-- A store counts nothing. -/
theorem requeued_answerStore (call : StoreCall) :
    (session.answerStore call).2.requeued queue group = session.requeued queue group := by
  have hnotes (notices : List Notice) (journal : Journal) :
      (notices.foldl Journal.note journal).metrics = journal.metrics := by
    induction notices generalizing journal with
    | nil => rfl
    | cons notice notices ih => exact ih _
  unfold answerStore
  cases PendingFault.next call.method session.faults with
  | mk fails faults =>
      cases fails with
      | true => rfl
      | false => exact congrArg (fun metrics : Metrics => metrics.requeued.getD [queue, group] 0) (hnotes _ _)

theorem sound_answerStore (h : session.memory.Sound) (call : StoreCall) :
    (session.answerStore call).2.memory.Sound := by
  obtain ⟨-, ⟨-, hmemory⟩ | ⟨-, hmemory⟩⟩ := session.answerStore_cases call <;> rw [hmemory]
  · exact h
  · exact h.answer session.now call

end Session

/-- What a conversation moves is counted, except for what is cut short. -/
structure Tallies {α : Type} (queue group : String) (d : QueueDialogue α) : Prop where
  tallied : ∀ session, session.memory.Sound →
    Tallied queue group session (Session.attempts d session) ((Session.converse d).run session).2

namespace Tallies

variable {α β : Type} {queue group : String}

theorem pure (a : α) : Tallies queue group (Pure.pure a : QueueDialogue α) :=
  ⟨fun _ h => .none h rfl⟩

theorem bind {d : QueueDialogue α} {f : α → QueueDialogue β} (hd : Tallies queue group d)
    (hf : ∀ a, Tallies queue group (f a)) : Tallies queue group (d >>= f) := by
  refine ⟨fun session h => ?_⟩
  rw [Session.attempts_bind, Session.converse_bind]
  have hfirst := hd.tallied session h
  exact hfirst.append ((hf _).tallied _ hfirst.sound)

theorem map {d : QueueDialogue α} (hd : Tallies queue group d) (f : α → β) : Tallies queue group (f <$> d) := by
  rw [map_eq_pure_bind]
  exact hd.bind fun a => .pure (f a)

theorem report {signal : Signal} (h : signal.isRequeued = false) :
    Tallies queue group (GroupQueue.report signal) :=
  ⟨fun _ hsound => .none hsound (Session.requeued_record h)⟩

theorem note (notice : Notice) : Tallies queue group (GroupQueue.note notice) := .report rfl

theorem finish (a : α) : Tallies queue group (Pure.pure a : Operation α).run := .pure _

/-- A failure ends an operation. -/
theorem throw (failure : Failure) : Tallies queue group (MonadExcept.throw failure : Operation α).run := .pure _

theorem throwThen (failure : Failure) (f : α → Operation β) :
    Tallies queue group ((MonadExcept.throw failure : Operation α) >>= f).run := .pure _

theorem andThen {x : Operation α} {f : α → Operation β} (hx : Tallies queue group x.run)
    (hf : ∀ a, Tallies queue group (f a).run) : Tallies queue group (x >>= f).run := by
  rw [ExceptT.run_bind]
  refine hx.bind fun result => ?_
  cases result with
  | ok a => exact hf a
  | error failure => exact .pure _

theorem mapResult {x : Operation α} (hx : Tallies queue group x.run) (f : α → β) :
    Tallies queue group (f <$> x).run := by
  rw [ExceptT.run_map]
  exact hx.map _

theorem reportThen {signal : Signal} (h : signal.isRequeued = false)
    {f : Unit → Operation α} (hf : Tallies queue group (f ()).run) :
    Tallies queue group ((GroupQueue.report signal : Operation Unit) >>= f).run :=
  .andThen ((Tallies.report h).map Except.ok) fun _ => hf

theorem noteThen {notice : Notice} {f : Unit → Operation α} (hf : Tallies queue group (f ()).run) :
    Tallies queue group ((GroupQueue.note notice : Operation Unit) >>= f).run :=
  .andThen ((Tallies.note notice).map Except.ok) fun _ => hf

theorem within (scope : Scope) {x : Operation α} (hx : Tallies queue group x.run) :
    Tallies queue group (GroupQueue.within scope x).run :=
  .bind (.report rfl) fun _ => .bind hx fun result => .bind (.report rfl) fun _ => .pure result

theorem choice {c : Prop} [Decidable c] {x y : Operation α} (hx : Tallies queue group x.run)
    (hy : Tallies queue group y.run) : Tallies queue group (if c then x else y).run := by
  split
  · exact hx
  · exact hy

/-- A call for anything but the plan that requeues moves nothing. -/
theorem ask {call : StoreCall} (h : ∀ plan, call = .execute plan → plan.requeues queue group = false) :
    Tallies queue group (GroupQueue.ask call).run := by
  refine ⟨fun session hsound => .still (Session.sound_answerStore hsound call) ?_
    (Session.requeued_answerStore call)⟩
  intro a ha
  obtain rfl := List.mem_singleton.mp ha
  exact Attempt.moved_of_not_requeues h

theorem runPlan (name : String) (activity : Activity) {plan : Plan} (h : plan.requeues queue group = false) :
    Tallies queue group (GroupQueue.runPlan name activity plan).run := by
  have hcall : Tallies queue group (GroupQueue.ask (.execute plan)).run := .ask fun other hother => by
    cases hother
    exact h
  exact hcall.bind fun reply => .bind (.report rfl) fun _ => .pure _

/-- Past the check of a name, the name is fit for use. -/
theorem requireName {field name : String} {f : Unit → Operation α}
    (hf : checkName field name = .ok () → Tallies queue group (f ()).run) :
    Tallies queue group (GroupQueue.requireName field name >>= f).run := by
  unfold GroupQueue.requireName
  cases hname : checkName field name with
  | ok u => exact hf hname
  | error reason => exact .throw _

end Tallies

end GroupQueue
