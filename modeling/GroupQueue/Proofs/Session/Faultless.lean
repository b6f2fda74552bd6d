import GroupQueue.Proofs.Session.Outcomes
import GroupQueue.Proofs.Session.Runs
import GroupQueue.Proofs.Store.Payloads

/-!
# `Proofs.Session.Faultless` — what operations come to when no call fails

Where no call fails, a conversation has one outcome: each of its calls is answered by the store, and what
it reports has no influence. This module computes that outcome. The rules follow the building blocks of the
operations, and the operations themselves are described by what they reply and what they leave.

## Contents
- `Memory.converse` — a conversation with a store, with rules for the building blocks.
- `Session.turn_of_faultless` — a turn without failing calls; `Session.faults_after`.
- `Request.Accepted`, `Refused`, `Request.refused` — what is not accepted is refused; `Session.turn_of_refused`.
- `converse_add`, `converse_get`, `converse_ack`, `converse_len`.
-/

namespace GroupQueue

/-! ## Conversations with a store -/

namespace Memory

/-- Answer a call of a queue. Signals are not heard. -/
def reply (now : Instant) : (call : QueueCall) → StateM Memory call.Reply
  | .store call => fun memory => memory.answer now call
  | .signal _ => pure ()

/-- Hold a conversation of a queue. -/
def converse {α : Type} (now : Instant) (d : QueueDialogue α) (memory : Memory) : α × Memory :=
  Dialogue.interpret (I := QueueCall.interface) (reply now) d memory

section Rules

variable {α β : Type} {now : Instant} {memory : Memory}

theorem converse_bind (d : QueueDialogue α) (f : α → QueueDialogue β) :
    memory.converse now (d >>= f)
      = (memory.converse now d).2.converse now (f (memory.converse now d).1) := by
  unfold converse
  rw [Dialogue.interpret_bind]
  rfl

/-- After a failure, the rest of an operation is left out. -/
theorem converse_andThen (x : Operation α) (f : α → Operation β) :
    memory.converse now (x >>= f).run
      = match memory.converse now x.run with
        | (.ok a, memory) => memory.converse now (f a).run
        | (.error failure, memory) => (.error failure, memory) := by
  rw [ExceptT.run_bind, converse_bind]
  cases memory.converse now x.run with
  | mk result after => cases result <;> rfl

theorem converse_report (signal : Signal) :
    memory.converse now (report signal : Operation Unit).run = (.ok (), memory) := rfl

@[simp] theorem converse_ask (call : StoreCall) :
    memory.converse now (ask call).run = memory.answer now call := rfl

@[simp] theorem converse_runPlan (queue : String) (activity : Activity) (plan : Plan) :
    memory.converse now (runPlan queue activity plan).run
      = ((memory.execute plan).1.map Executed.events, (memory.execute plan).2) := rfl

@[simp] theorem converse_within (scope : Scope) (x : Operation α) :
    memory.converse now (within scope x).run = memory.converse now x.run := by
  rw [within, ExceptT.run_mk, converse_bind, converse_bind]
  rfl

theorem converse_mapResult (f : α → β) (x : Operation α) :
    memory.converse now (f <$> x).run
      = ((memory.converse now x.run).1.map f, (memory.converse now x.run).2) := by
  rw [ExceptT.run_map, map_eq_pure_bind, converse_bind]
  rfl

theorem converse_requireName {field name : String} (h : checkName field name = .ok ())
    (f : Unit → Operation α) :
    memory.converse now (requireName field name >>= f).run = memory.converse now (f ()).run := by
  rw [converse_andThen, requireName, h]
  rfl

theorem converse_requireName_of_error {field name : String} {reason : Rejection}
    (h : checkName field name = .error reason) (f : Unit → Operation α) :
    memory.converse now (requireName field name >>= f).run = (.error (.validation reason), memory) := by
  rw [converse_andThen, requireName, h]
  rfl

end Rules

end Memory

/-! ## Sessions without failing calls -/

namespace Session

/-- Where no call is due to fail, a session holds a conversation as its store does. -/
theorem converse_of_faultless {α : Type} (d : QueueDialogue α) {session : Session}
    (hfaults : session.faults = []) :
    ((converse d).run session).1 = (session.memory.converse session.now d).1
      ∧ ((converse d).run session).2.memory = (session.memory.converse session.now d).2
      ∧ ((converse d).run session).2.faults = [] := by
  induction d generalizing session with
  | done a => exact ⟨rfl, rfl, hfaults⟩
  | ask call next ih =>
      cases call with
      | signal signal =>
          exact @ih () { session with journal := session.journal.record signal } hfaults
      | store call =>
          -- the call is answered by the store
          have hanswer : (session.answerStore call).1 = (session.memory.answer session.now call).1
              ∧ (session.answerStore call).2.memory = (session.memory.answer session.now call).2
              ∧ (session.answerStore call).2.now = session.now
              ∧ (session.answerStore call).2.faults = [] := by
            unfold answerStore
            rw [hfaults]
            exact ⟨rfl, rfl, rfl, rfl⟩
          obtain ⟨hreply, hmemory, hnow, hrest⟩ := hanswer
          have hrun : (session.answerStore call).2.memory.converse (session.answerStore call).2.now
                (next (session.answerStore call).1)
              = session.memory.converse session.now (.ask (.store call) next) := by
            rw [hreply, hmemory, hnow]
            rfl
          obtain ⟨hresult, hafter, hnone⟩ := ih (session.answerStore call).1 hrest
          exact ⟨hresult.trans (congrArg _ hrun), hafter.trans (congrArg _ hrun), hnone⟩

/-- **A turn without failing calls** comes to what its conversation with the store comes to. -/
theorem turn_of_faultless {session : Session} {t : Turn} (hfaults : session.faults = [])
    (ht : t.faults = []) :
    (session.turn t).1 = (session.memory.converse t.now (t.request.perform t.queue t.now).run).1
      ∧ (session.turn t).2.memory
        = (session.memory.converse t.now (t.request.perform t.queue t.now).run).2
      ∧ (session.turn t).2.faults = [] :=
  @converse_of_faultless _ _ { session with now := t.now, faults := session.faults ++ t.faults }
    (by simp [hfaults, ht])

/-- Without failing calls, none is due to fail. -/
theorem faults_after {turns : List Turn} (h : ∀ t ∈ turns, t.faults = []) : (after turns).faults = [] := by
  induction turns using List.reverseRecOn with
  | nil => rfl
  | append_singleton turns t ih =>
      rw [List.forall_mem_append, List.forall_mem_singleton] at h
      rw [after_concat]
      exact (turn_of_faultless (ih h.1) h.2).2.2

end Session

/-! ## Refusals -/

/-- A request names what it is about as names have to be, and an event to be added has contents. -/
def Request.Accepted : Request → Prop
  | .add cmd => checkName "queue" cmd.queue = .ok () ∧ cmd.contents.isEmpty = false
  | .get cmd => checkName "queue" cmd.queue = .ok () ∧ checkName "group" cmd.group = .ok ()
  | .ack cmd => checkName "queue" cmd.queue = .ok () ∧ checkName "group" cmd.group = .ok ()
  | .sweep queue group => checkName "queue" queue = .ok () ∧ checkName "group" group = .ok ()
  | .len queue role group =>
    checkName "queue" queue = .ok () ∧ (role.isPerGroup = true → checkName "group" group = .ok ())
  | _ => True

/-- An operation that is refused: whatever the store holds, its caller is told why it is not valid, and the
    store stays as it is. -/
structure Refused {α : Type} (now : Instant) (x : Operation α) : Prop where
  converse : ∃ reason, ∀ memory : Memory, memory.converse now x.run = (.error (.validation reason), memory)

namespace Refused

variable {α β : Type} {now : Instant}

theorem mapResult {x : Operation α} (h : Refused now x) (f : α → β) : Refused now (f <$> x) := by
  obtain ⟨reason, hx⟩ := h.converse
  refine ⟨reason, fun memory => ?_⟩
  rw [Memory.converse_mapResult, hx]
  rfl

theorem throwThen (reason : Rejection) (f : α → Operation β) :
    Refused now ((throw (.validation reason) : Operation α) >>= f) :=
  ⟨reason, fun _ => rfl⟩

/-- Either the name cannot be used, or all else is refused. -/
theorem requireName {field name : String} {f : Unit → Operation α}
    (h : checkName field name = .ok () → Refused now (f ())) :
    Refused now (GroupQueue.requireName field name >>= f) := by
  cases hname : checkName field name with
  | error reason => exact ⟨_, fun memory => Memory.converse_requireName_of_error hname f⟩
  | ok u =>
      obtain ⟨reason, hf⟩ := (h hname).converse
      refine ⟨reason, fun memory => ?_⟩
      rw [Memory.converse_requireName hname, hf]

end Refused

/-- **A request that is not accepted is refused.** -/
theorem Request.refused {request : Request} (h : ¬ request.Accepted) (q : Queue) (now : Instant) :
    Refused now (request.perform q now) := by
  cases request with
  | add cmd =>
      rw [Request.perform, Queue.add]
      refine .mapResult (.requireName fun hqueue => ?_) _
      have hcontents : cmd.contents.isEmpty = true := by
        cases hcontents : cmd.contents.isEmpty with
        | true => rfl
        | false => exact absurd ⟨hqueue, hcontents⟩ h
      rw [if_pos hcontents]
      exact .throwThen _ _
  | get cmd =>
      rw [Request.perform, Queue.get]
      refine .mapResult (.requireName fun hqueue => ?_) _
      refine .requireName fun hgroup => ?_
      exact absurd ⟨hqueue, hgroup⟩ h
  | ack cmd =>
      rw [Request.perform, Queue.ack]
      refine .mapResult (.requireName fun hqueue => ?_) _
      refine .requireName fun hgroup => ?_
      exact absurd ⟨hqueue, hgroup⟩ h
  | sweep queue group =>
      rw [Request.perform, Queue.sweep]
      refine .mapResult (.requireName fun hqueue => ?_) _
      refine .requireName fun hgroup => ?_
      exact absurd ⟨hqueue, hgroup⟩ h
  | len queue role group =>
      rw [Request.perform, Queue.len]
      refine .mapResult (.requireName fun hqueue => ?_) _
      by_cases hrole : role.isPerGroup = true
      · rw [if_pos hrole]
        exact .requireName fun hgroup => absurd ⟨hqueue, fun _ => hgroup⟩ h
      · exact absurd ⟨hqueue, fun hown => absurd hown hrole⟩ h
  | _ => exact absurd trivial h

/-- A turn whose request is refused changes nothing. -/
theorem Session.turn_of_refused {turns : List Turn} {t : Turn} (hfaults : ∀ x ∈ turns ++ [t], x.faults = [])
    (h : ¬ t.request.Accepted) :
    (∃ reason, ((after turns).turn t).1 = .error (.validation reason))
      ∧ (after (turns ++ [t])).memory = (after turns).memory := by
  rw [List.forall_mem_append, List.forall_mem_singleton] at hfaults
  obtain ⟨hreply, hmemory, -⟩ := turn_of_faultless (faults_after hfaults.1) hfaults.2
  obtain ⟨reason, hrefused⟩ := (Request.refused h t.queue t.now).converse
  rw [hrefused] at hreply hmemory
  rw [after_concat]
  exact ⟨⟨reason, hreply⟩, hmemory⟩

/-! ## Operations -/

namespace Memory

section Operations

variable {memory : Memory} {q : Queue} {now : Instant}

/-- What a group is handed, given the event that is next in turn. -/
def handOut (memory : Memory) (now : Instant) : Option EventId → Except Failure (Option Event)
  | none => .ok none
  | some id =>
    match memory.payloads.find? now id with
    | none => .error (.payloadMissing id)
    | some payload => .ok (some payload.event)

theorem converse_add (h : memory.Sound) {cmd : AddCommand}
    (hqueue : checkName "queue" cmd.queue = .ok ()) (hcontents : cmd.contents.isEmpty = false) :
    let id := EventId.nextAfter cmd.expire memory.lastId
    ∃ after, memory.converse now (q.add now cmd).run
        = (.ok id, { memory.stored q cmd with sets := after })
      ∧ ∀ key, after.contents key
        = if (q.eventSet cmd.queue .available "").key = key then
            (memory.sets.contents key).insert id id.score
          else memory.sets.contents key := by
  intro id
  have hstored : (memory.stored q cmd).Sound := ⟨h.sets, h.payloads.put _ q.grace⟩
  obtain ⟨executed, after, heq, hafter⟩ := execute_addPlan hstored q now cmd.queue id
  refine ⟨after, ?_, hafter⟩
  rw [Queue.add, converse_requireName hqueue, hcontents, if_neg Bool.false_ne_true, converse_within,
    converse_andThen, converse_ask]
  show converse now _ { memory with lastId := some id } = _
  rw [converse_andThen, converse_ask]
  show converse now _ (memory.stored q cmd) = _
  rw [converse_andThen, converse_runPlan, heq]
  rfl

theorem converse_get (h : memory.Sound) {cmd : GetCommand}
    (hqueue : checkName "queue" cmd.queue = .ok ()) (hgroup : checkName "group" cmd.group = .ok ())
    (hprogress : (memory.sets.contents (q.groupSets cmd.queue cmd.group).inProgressById.key).Natural)
    (hdone : (memory.sets.contents (q.groupSets cmd.queue cmd.group).done.key).Natural) :
    let sets := q.groupSets cmd.queue cmd.group
    let before := GroupContents.of memory.sets.contents sets
    ∃ after payloads, memory.converse now (q.get now cmd).run
        = (memory.handOut now (before.dropExpired now).next?, { memory with sets := after, payloads })
      ∧ GroupContents.of after.contents sets = before.dequeue now cmd.deadline
      ∧ ∀ later id, now ≤ later → payloads.find? later id = memory.payloads.find? later id := by
  intro sets before
  obtain ⟨executed, after, heq, hevents, hcontents, -⟩ :=
    execute_getPlan h q now (colonFree_of_checkName hqueue) (colonFree_of_checkName hgroup) hprogress hdone
  rw [Queue.get, converse_requireName hqueue, converse_requireName hgroup, converse_within,
    converse_andThen, converse_runPlan, heq]
  simp only [Except.map, hevents]
  cases hnext : (before.dropExpired now).next? with
  | none => exact ⟨after, memory.payloads, rfl, hcontents, fun _ _ _ => rfl⟩
  | some id =>
      refine ⟨after, (memory.payloads.get now id).2, ?_, hcontents,
        fun later x hle => Payloads.find?_get hle id x⟩
      dsimp only [Option.toList_some, List.head?_cons]
      rw [converse_andThen, converse_report]
      dsimp only
      rw [converse_andThen, converse_ask]
      have hanswer : Memory.answer { memory with sets := after } now (.getPayload id)
          = (.ok ((memory.payloads.find? now id).map StoredPayload.event),
            { memory with sets := after, payloads := (memory.payloads.get now id).2 }) := by
        rw [← Payloads.fst_get]
        rfl
      rw [hanswer, handOut]
      cases memory.payloads.find? now id <;> rfl

theorem converse_ack (h : memory.Sound) {cmd : AckCommand}
    (hqueue : checkName "queue" cmd.queue = .ok ()) (hgroup : checkName "group" cmd.group = .ok ()) :
    let sets := q.groupSets cmd.queue cmd.group
    let before := GroupContents.of memory.sets.contents sets
    ∃ after, memory.converse now (q.ack now cmd).run
        = (.ok (before.inTime now cmd.event), { memory with sets := after })
      ∧ GroupContents.of after.contents sets = before.settle now cmd.event := by
  intro sets before
  obtain ⟨executed, after, heq, hevents, hcontents, -⟩ :=
    execute_ackPlan h q now (colonFree_of_checkName hqueue) (colonFree_of_checkName hgroup)
  refine ⟨after, ?_, hcontents⟩
  rw [Queue.ack, converse_requireName hqueue, converse_requireName hgroup, converse_within,
    converse_andThen, converse_runPlan, heq]
  show (Except.ok (!executed.events.isEmpty), _) = _
  rw [hevents]
  cases before.inTime now cmd.event <;> rfl

theorem converse_len (h : memory.Sound) {queue group : String} {role : Role}
    (hqueue : checkName "queue" queue = .ok ())
    (hgroup : role.isPerGroup = true → checkName "group" group = .ok ()) :
    ∃ after, memory.converse now (q.len now queue role group).run
        = (.ok ((memory.sets.contents (q.eventSet queue role group).key).live now).members.length,
          { memory with sets := after })
      ∧ ∀ key, after.contents key = memory.sets.contents key := by
  obtain ⟨executed, after, heq, hevents, hafter⟩ := execute_lenPlan h q now queue role group
  refine ⟨after, ?_, hafter⟩
  have hrun : memory.converse now (do
        let selected ← runPlan queue .len (q.lenPlan now queue role group)
        return selected.length : Operation Nat).run
      = (.ok ((memory.sets.contents (q.eventSet queue role group).key).live now).members.length,
        { memory with sets := after }) := by
    rw [converse_andThen, converse_runPlan, heq]
    show (Except.ok executed.events.length, _) = _
    rw [hevents, List.length_map]
  rw [Queue.len, converse_requireName hqueue]
  split
  · next hrole => rw [converse_requireName (hgroup hrole), hrun]
  · exact hrun

end Operations

end Memory

end GroupQueue
