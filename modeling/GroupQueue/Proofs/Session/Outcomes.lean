import GroupQueue.Proofs.Queue.Effects
import GroupQueue.Proofs.Session.Ensures
import GroupQueue.Proofs.Store.Memory

/-!
# `Proofs.Session.Outcomes` — how adding, getting and acknowledging can end

Each of these operations executes one plan, and whether a call fails before or after it is all that is
left open. An outcome says what the caller is told and what the store holds in the end, in terms of the
contents of the sets.

## Contents
- `AddOutcome`, `Memory.stored`, `ensures_add_of`, `ensures_add`.
- `GetReply`, `GetOutcome`, `ensures_get`.
- `AckOutcome`, `ensures_ack`.
-/

namespace GroupQueue

variable {q : Queue} {now : Instant} {memory : Memory}

/-! ## Executed plans -/

theorem of_ledger (sets : Sets) (group : GroupSets) :
    GroupContents.of sets.ledger.contents group = GroupContents.of sets.contents group :=
  congrArg (GroupContents.of · group) (funext sets.contents_ledger)

/-- What a plan does to the sets of a group by its reading, it does in memory. -/
theorem Memory.execute_group (h : memory.Sound) {plan : Plan} (hvalid : plan.validate = .ok ())
    {sets : GroupSets} {selected : List EventId} {g : GroupContents}
    (hread : let final := plan.reference memory.sets.ledger
      final.acc.map Member.id = selected ∧ GroupContents.of final.ledger.contents sets = g
        ∧ ∀ key ∉ sets.keys, final.ledger.contents key = memory.sets.ledger.contents key) :
    ∃ executed after, memory.execute plan = (.ok executed, { memory with sets := after })
      ∧ executed.events = selected ∧ GroupContents.of after.contents sets = g
      ∧ ∀ key ∉ sets.keys, after.contents key = memory.sets.contents key := by
  obtain ⟨hselected, hcontents, hframe⟩ := hread
  obtain ⟨executed, after, heq, -, hevents, hafter⟩ := Memory.execute_of_valid h.sets hvalid
  refine ⟨executed, after, heq, hevents.trans hselected, ?_, fun key hkey => ?_⟩
  · rw [← hcontents]
    exact congrArg (GroupContents.of · sets) (funext hafter)
  · rw [hafter, hframe key hkey, Sets.contents_ledger]

/-- The plan of a dequeue, executed in memory. -/
theorem Memory.execute_getPlan (h : memory.Sound) (q : Queue) (now : Instant) {cmd : GetCommand}
    (hqueue : ColonFree cmd.queue) (hgroup : ColonFree cmd.group)
    (hprogress : (memory.sets.contents (q.groupSets cmd.queue cmd.group).inProgressById.key).Natural)
    (hdone : (memory.sets.contents (q.groupSets cmd.queue cmd.group).done.key).Natural) :
    let sets := q.groupSets cmd.queue cmd.group
    let before := GroupContents.of memory.sets.contents sets
    ∃ executed after, memory.execute (q.getPlan now cmd) = (.ok executed, { memory with sets := after })
      ∧ executed.events = (before.dropExpired now).next?.toList
      ∧ GroupContents.of after.contents sets = before.dequeue now cmd.deadline
      ∧ ∀ key ∉ sets.keys, after.contents key = memory.sets.contents key := by
  refine Memory.execute_group h (valid_getPlan q now cmd) ?_
  have hread := reference_getPlan q now hqueue hgroup memory.sets.ledger
    (by rwa [Sets.contents_ledger]) (by rwa [Sets.contents_ledger])
  dsimp only at hread
  rw [of_ledger] at hread
  exact hread

/-- The plan of an acknowledgement, executed in memory. -/
theorem Memory.execute_ackPlan (h : memory.Sound) (q : Queue) (now : Instant) {cmd : AckCommand}
    (hqueue : ColonFree cmd.queue) (hgroup : ColonFree cmd.group) :
    let sets := q.groupSets cmd.queue cmd.group
    let before := GroupContents.of memory.sets.contents sets
    ∃ executed after, memory.execute (q.ackPlan now cmd) = (.ok executed, { memory with sets := after })
      ∧ executed.events = (if before.inTime now cmd.event then [cmd.event] else [])
      ∧ GroupContents.of after.contents sets = before.settle now cmd.event
      ∧ ∀ key ∉ sets.keys, after.contents key = memory.sets.contents key := by
  refine Memory.execute_group h (valid_ackPlan q now cmd) ?_
  have hread := reference_ackPlan q now memory.sets.ledger hqueue hgroup
  dsimp only at hread
  rw [of_ledger] at hread
  exact hread

/-- The requeueing plan, executed in memory. -/
theorem Memory.execute_requeuePlan (h : memory.Sound) (q : Queue) (now : Instant)
    {queue group : String} (hqueue : ColonFree queue) (hgroup : ColonFree group) :
    let sets := q.groupSets queue group
    let before := GroupContents.of memory.sets.contents sets
    ∃ executed after,
      memory.execute (q.requeuePlan now sets) = (.ok executed, { memory with sets := after })
      ∧ executed.events = before.overdue now
      ∧ GroupContents.of after.contents sets = before.requeue now
      ∧ ∀ key ∉ sets.keys, after.contents key = memory.sets.contents key := by
  refine Memory.execute_group h (valid_requeuePlan q now queue group) ?_
  have hread := reference_requeuePlan q now memory.sets.ledger hqueue hgroup
  dsimp only at hread
  rw [of_ledger] at hread
  exact hread

/-- A purging plan, executed in memory. -/
theorem Memory.execute_purgePlan (h : memory.Sound) (q : Queue) (now : Instant) (queue : String)
    (role : Role) (group : String) :
    let set := q.eventSet queue role group
    ∃ executed after, memory.execute (q.purgePlan now set) = (.ok executed, { memory with sets := after })
      ∧ ∀ key, after.contents key
        = if set.key = key then (memory.sets.contents key).live now else memory.sets.contents key := by
  intro set
  obtain ⟨executed, after, heq, -, -, hafter⟩ :=
    Memory.execute_of_valid h.sets (valid_purgePlan q now set rfl)
  refine ⟨executed, after, heq, fun key => ?_⟩
  rw [hafter, reference_purgePlan, Sets.contents_ledger]

/-- A counting plan, executed in memory. -/
theorem Memory.execute_lenPlan (h : memory.Sound) (q : Queue) (now : Instant) (queue : String)
    (role : Role) (group : String) :
    ∃ executed after,
      memory.execute (q.lenPlan now queue role group) = (.ok executed, { memory with sets := after })
      ∧ executed.events
        = ((memory.sets.contents (q.eventSet queue role group).key).live now).members.map Member.id
      ∧ ∀ key, after.contents key = memory.sets.contents key := by
  obtain ⟨executed, after, heq, -, hevents, hafter⟩ :=
    Memory.execute_of_valid h.sets (valid_lenPlan q now queue role group)
  refine ⟨executed, after, heq, ?_, fun key => ?_⟩
  · rw [hevents, reference_lenPlan, Sets.contents_ledger]
  · rw [hafter, reference_lenPlan, Sets.contents_ledger]

/-- The plan of an addition, executed in memory. -/
theorem Memory.execute_addPlan (h : memory.Sound) (q : Queue) (now : Instant) (queue : String)
    (id : EventId) :
    ∃ executed after,
      memory.execute (q.addPlan now queue id) = (.ok executed, { memory with sets := after })
      ∧ ∀ key, after.contents key
        = if (q.eventSet queue .available "").key = key then (memory.sets.contents key).insert id id.score
          else memory.sets.contents key := by
  obtain ⟨executed, after, heq, -, -, hafter⟩ :=
    Memory.execute_of_valid h.sets (valid_addPlan q now queue id)
  refine ⟨executed, after, heq, fun key => ?_⟩
  rw [hafter, reference_addPlan, Sets.contents_ledger]

/-! ## Adding -/

/-- How adding an event can end: without an identifier; with one that is lost; with one that is put into
    the queue. The caller is told the identifier in the last case only. Whatever the caller is told, the
    identifier is later than any before it. -/
inductive AddOutcome (q : Queue) (cmd : AddCommand) (memory : Memory) :
    Except Failure EventId → Memory → Prop
  | refused (failure : Failure) : AddOutcome q cmd memory (.error failure) memory
  | issued {after : Memory} (failure : Failure) (id : EventId) (hlast : after.lastId = some id)
      (hlater : ∀ last ∈ memory.lastId, last < id) (hsets : after.sets = memory.sets) :
      AddOutcome q cmd memory (.error failure) after
  | added {after : Memory} (id : EventId) (hqueue : ColonFree cmd.queue) (hlast : after.lastId = some id)
      (hlater : ∀ last ∈ memory.lastId, last < id)
      (hsets : ∀ key, after.sets.contents key
        = if (q.eventSet cmd.queue .available "").key = key then
            (memory.sets.contents key).insert id id.score
          else memory.sets.contents key) :
      AddOutcome q cmd memory (.ok id) after

/-- The store once an identifier has been issued for a new event and its payload has been put. -/
def Memory.stored (memory : Memory) (q : Queue) (cmd : AddCommand) : Memory :=
  let id := EventId.nextAfter cmd.expire memory.lastId
  { memory with lastId := some id, payloads := memory.payloads.put (.new id cmd.contents) q.grace }

/-- Adding an event ends in one of the stores that it passes through. If that is the last one, the caller is
    told the identifier, unless the plan has failed. -/
theorem ensures_add_of {cmd : AddCommand} {post : Except Failure EventId → Memory → Prop}
    (hstart : ∀ failure, post (.error failure) memory)
    (hissued : ∀ failure, post (.error failure)
      { memory with lastId := some (EventId.nextAfter cmd.expire memory.lastId) })
    (hstored : ∀ failure, post (.error failure) (memory.stored q cmd))
    (hadded : ColonFree cmd.queue →
      let id := EventId.nextAfter cmd.expire memory.lastId
      let executed := (memory.stored q cmd).execute (q.addPlan now cmd.queue id)
      post (executed.1.map fun _ => id) executed.2) :
    Ensures now (q.add now cmd).run memory post := by
  unfold Queue.add
  rw [ensures_operation_bind, ensures_requireName]
  cases hqueue : checkName "queue" cmd.queue with
  | error reason => exact hstart _
  | ok u =>
      dsimp only
      split
      · rw [ensures_operation_bind, ensures_throw]
        exact hstart _
      · rw [ensures_within, ensures_operation_bind, ensures_ask]
        refine ⟨hstart _, ?_⟩
        show Ensures now _ { memory with lastId := some (EventId.nextAfter cmd.expire memory.lastId) } _
        rw [ensures_operation_bind, ensures_ask]
        refine ⟨hissued _, ?_⟩
        show Ensures now _ (memory.stored q cmd) _
        rw [ensures_operation_bind, ensures_runPlan]
        refine ⟨hstored _, ?_⟩
        have hlast := hadded (colonFree_of_checkName hqueue)
        dsimp only at hlast
        cases hexecuted : ((memory.stored q cmd).execute
            (q.addPlan now cmd.queue (EventId.nextAfter cmd.expire memory.lastId))).1 with
        | error failure =>
            rw [hexecuted] at hlast
            exact hlast
        | ok executed =>
            rw [hexecuted] at hlast
            simp only [Except.map, ensures_operation_bind, ensures_operation_report,
              ensures_operation_note, ensures_operation_pure]
            exact hlast

theorem ensures_add (h : memory.Sound) (cmd : AddCommand) :
    Ensures now (q.add now cmd).run memory (AddOutcome q cmd memory) := by
  let id := EventId.nextAfter cmd.expire memory.lastId
  have hlater : ∀ last ∈ memory.lastId, last < id := fun last hlast => EventId.lt_nextAfter cmd.expire hlast
  refine ensures_add_of .refused (fun failure => .issued failure id rfl hlater rfl)
    (fun failure => .issued failure id rfl hlater rfl) fun hqueue => ?_
  have hstored : (memory.stored q cmd).Sound := ⟨h.sets, h.payloads.put _ q.grace⟩
  obtain ⟨executed, after, heq, hafter⟩ := Memory.execute_addPlan hstored q now cmd.queue id
  dsimp only
  rw [heq]
  exact .added id hqueue rfl hlater hafter

/-! ## Getting -/

/-- What a caller of get is told once the plan is executed, given the event that was next in turn. -/
inductive GetReply : Option EventId → Except Failure (Option Event) → Prop
  | nothing : GetReply none (.ok none)
  | handed (event : Event) : GetReply (some event.id) (.ok (some event))
  | missing (id : EventId) : GetReply (some id) (.error (.payloadMissing id))
  | unfetched (id : EventId) : GetReply (some id) (.error (.injected StoreMethod.getPayload.name))

/-- The event that is handed out is the one that was next in turn. -/
theorem GetReply.id_eq {next : Option EventId} {event? : Option Event} (h : GetReply next (.ok event?)) :
    event?.map Event.id = next := by
  cases h <;> rfl

/-- How getting the next event can end: before the plan is executed, or with the plan executed. Then what
    the caller gets is the event that was next in turn, unless its payload cannot be fetched. -/
inductive GetOutcome (q : Queue) (now : Instant) (cmd : GetCommand) (memory : Memory) :
    Except Failure (Option Event) → Memory → Prop
  | refused (failure : Failure) (hrefused : (∃ reason, failure = .validation reason)
      ∨ failure = .injected StoreMethod.execute.name) : GetOutcome q now cmd memory (.error failure) memory
  | executed {result : Except Failure (Option Event)} {after : Memory}
      (hqueue : ColonFree cmd.queue) (hgroup : ColonFree cmd.group)
      (hreply : GetReply
        ((GroupContents.of memory.sets.contents (q.groupSets cmd.queue cmd.group)).dropExpired now).next?
        result)
      (hcontents : GroupContents.of after.sets.contents (q.groupSets cmd.queue cmd.group)
        = (GroupContents.of memory.sets.contents (q.groupSets cmd.queue cmd.group)).dequeue now
            cmd.deadline)
      (hframe : ∀ key ∉ (q.groupSets cmd.queue cmd.group).keys,
        after.sets.contents key = memory.sets.contents key)
      (hlast : after.lastId = memory.lastId) :
      GetOutcome q now cmd memory result after

theorem ensures_get (h : memory.Sound) {cmd : GetCommand}
    (hnatural : ColonFree cmd.queue → ColonFree cmd.group →
      (memory.sets.contents (q.groupSets cmd.queue cmd.group).inProgressById.key).Natural
        ∧ (memory.sets.contents (q.groupSets cmd.queue cmd.group).done.key).Natural) :
    Ensures now (q.get now cmd).run memory (GetOutcome q now cmd memory) := by
  unfold Queue.get
  rw [ensures_operation_bind, ensures_requireName]
  cases hq : checkName "queue" cmd.queue with
  | error reason => exact .refused _ (Or.inl ⟨reason, rfl⟩)
  | ok u =>
      dsimp only
      rw [ensures_operation_bind, ensures_requireName]
      cases hg : checkName "group" cmd.group with
      | error reason => exact .refused _ (Or.inl ⟨reason, rfl⟩)
      | ok u =>
          have hqueue := colonFree_of_checkName hq
          have hgroup := colonFree_of_checkName hg
          obtain ⟨hprogress, hdone⟩ := hnatural hqueue hgroup
          obtain ⟨executed, after, heq, hevents, hcontents, hframe⟩ :=
            Memory.execute_getPlan h q now hqueue hgroup hprogress hdone
          dsimp only
          rw [ensures_within, ensures_operation_bind, ensures_runPlan, heq]
          refine ⟨.refused _ (Or.inr rfl), ?_⟩
          dsimp only [Except.map]
          rw [hevents, ensures_operation_bind, ensures_operation_report]
          -- whatever becomes of the payload, the event has been taken
          have hexecuted {result : Except Failure (Option Event)} {last : Memory}
              (hreply : GetReply ((GroupContents.of memory.sets.contents
                (q.groupSets cmd.queue cmd.group)).dropExpired now).next? result)
              (hsets : last.sets = after) (hid : last.lastId = memory.lastId) :
              GetOutcome q now cmd memory result last :=
            .executed hqueue hgroup hreply (by rw [hsets, hcontents]) (by rwa [hsets]) hid
          cases hnext : ((GroupContents.of memory.sets.contents
              (q.groupSets cmd.queue cmd.group)).dropExpired now).next? with
          | none =>
              simp only [Option.toList_none, List.head?_nil, ensures_operation_bind,
                ensures_operation_note, ensures_operation_pure]
              exact hexecuted (hnext ▸ .nothing) rfl rfl
          | some id =>
              show Ensures now _ { memory with sets := after } _
              rw [Option.toList_some, List.head?_cons]
              dsimp only
              rw [ensures_operation_bind, ensures_ask]
              refine ⟨hexecuted (hnext ▸ .unfetched id) rfl rfl, ?_⟩
              simp only [Memory.answer]
              cases hget : (memory.payloads.get now id).1 with
              | none =>
                  rw [ensures_throw]
                  exact hexecuted (hnext ▸ .missing id) rfl rfl
              | some event =>
                  simp only [ensures_operation_bind, ensures_operation_note, ensures_operation_pure]
                  refine hexecuted ?_ rfl rfl
                  rw [hnext, ← h.payloads.id_of_get hget]
                  exact .handed event

/-! ## Acknowledging -/

/-- How acknowledging an event can end: before the plan is executed, or with the plan executed. Then the
    caller is told whether the event was in progress and in time, and if so it counts as done. -/
inductive AckOutcome (q : Queue) (now : Instant) (cmd : AckCommand) (memory : Memory) :
    Except Failure Bool → Memory → Prop
  | refused (failure : Failure) : AckOutcome q now cmd memory (.error failure) memory
  | executed {inTime : Bool} {after : Memory} (hqueue : ColonFree cmd.queue)
      (hgroup : ColonFree cmd.group) (hinTime : inTime = (GroupContents.of memory.sets.contents
        (q.groupSets cmd.queue cmd.group)).inTime now cmd.event)
      (hcontents : GroupContents.of after.sets.contents (q.groupSets cmd.queue cmd.group)
        = (GroupContents.of memory.sets.contents (q.groupSets cmd.queue cmd.group)).settle now cmd.event)
      (hframe : ∀ key ∉ (q.groupSets cmd.queue cmd.group).keys,
        after.sets.contents key = memory.sets.contents key)
      (hlast : after.lastId = memory.lastId) :
      AckOutcome q now cmd memory (.ok inTime) after

theorem ensures_ack (h : memory.Sound) (cmd : AckCommand) :
    Ensures now (q.ack now cmd).run memory (AckOutcome q now cmd memory) := by
  unfold Queue.ack
  rw [ensures_operation_bind, ensures_requireName]
  cases hq : checkName "queue" cmd.queue with
  | error reason => exact .refused _
  | ok u =>
      dsimp only
      rw [ensures_operation_bind, ensures_requireName]
      cases hg : checkName "group" cmd.group with
      | error reason => exact .refused _
      | ok u =>
          have hqueue := colonFree_of_checkName hq
          have hgroup := colonFree_of_checkName hg
          obtain ⟨executed, after, heq, hevents, hcontents, hframe⟩ :=
            Memory.execute_ackPlan h q now hqueue hgroup
          dsimp only
          rw [ensures_within, ensures_operation_bind, ensures_runPlan, heq]
          refine ⟨.refused _, ?_⟩
          simp only [Except.map, ensures_operation_bind, ensures_operation_report,
            ensures_operation_note, ensures_operation_pure]
          refine .executed hqueue hgroup ?_ hcontents hframe rfl
          rw [hevents]
          cases (GroupContents.of memory.sets.contents
            (q.groupSets cmd.queue cmd.group)).inTime now cmd.event <;> rfl

end GroupQueue
