import GroupQueue.Proofs.Session.Backing
import GroupQueue.Proofs.Session.Calls
import GroupQueue.Proofs.Store.Issuing

/-!
# `Proofs.Session.Adding` — an event is added as a whole or not at all

Adding an event takes three calls to the store: an identifier is issued, the payload is put, and a plan puts the
event into the shared set of its queue. Each of them may fail. As only the last one touches a set, the caller is
told an identifier exactly when the event is in the queue. A failure may leave an identifier that nobody gets, and
a payload that no set refers to; a command that is refused leaves nothing, as no call is made.

How an addition goes is settled by the first of its calls that is due to fail (`AddCourse`). What the store has
been used for before does not matter, so there may have been requests to the store itself among them.

## Contents
- `Queue.addCalls`, `AddCourse` — the calls of an addition, and how it can go; `Session.comesTo_add`,
  `Session.addCourse_of_turn`.
- `Request.not_accepted_add_iff` — the commands that are refused.
- `Request.perform_eq_map`, `Session.lastId_of_reply` — the requests that tell an identifier.
- `Session.lt_nextAfter_of_issued` — the next identifier is later than all before it.
- `added_or_unchanged` — what an addition comes to, in every state that a run can reach.
-/

namespace GroupQueue

/-! ## How adding an event can go -/

namespace Queue

/-- What adding an event does once the command is accepted. -/
def addSteps (q : Queue) (now : Instant) (cmd : AddCommand) : Operation EventId := do
  let id : EventId ← ask (.newEventId cmd.expire)
  let event := Event.new id cmd.contents
  let _ : Unit ← ask (.putPayload event q.grace)
  let selected ← runPlan cmd.queue .add (q.addPlan now cmd.queue id)
  report (.selected selected.length)
  note (.eventAdded id event.expire)
  return id

/-- The calls that it makes if none of them fails. -/
def addCalls (q : Queue) (now : Instant) (cmd : AddCommand) (id : EventId) : List StoreCall :=
  [.newEventId cmd.expire, .putPayload (.new id cmd.contents) q.grace, .execute (q.addPlan now cmd.queue id)]

end Queue

/-- **How adding an event can go**, given the calls that are to fail: what the caller is told, the calls that are
    made, and the store that is left. It ends at the first of its calls that is due to fail. -/
inductive AddCourse (q : Queue) (now : Instant) (cmd : AddCommand) (faults : List PendingFault)
    (memory : Memory) : Except Failure EventId → List StoreCall → Memory → Prop
  | refused (reason : Rejection) (hrefused : ¬ (Request.add cmd).Accepted) :
      AddCourse q now cmd faults memory (.error (.validation reason)) [] memory
  | unissued (haccepted : (Request.add cmd).Accepted) (hdue : PendingFault.due? .newEventId faults = some 0) :
      AddCourse q now cmd faults memory (.error (.injected StoreMethod.newEventId.name))
        [.newEventId cmd.expire] memory
  | unwritten {id : EventId} (hid : id = EventId.nextAfter cmd.expire memory.lastId)
      (haccepted : (Request.add cmd).Accepted) (hissued : PendingFault.due? .newEventId faults ≠ some 0)
      (hdue : PendingFault.due? .putPayload faults = some 0) :
      AddCourse q now cmd faults memory (.error (.injected StoreMethod.putPayload.name))
        ((q.addCalls now cmd id).take 2) { memory with lastId := some id }
  | unexecuted {id : EventId} (hid : id = EventId.nextAfter cmd.expire memory.lastId)
      (haccepted : (Request.add cmd).Accepted) (hissued : PendingFault.due? .newEventId faults ≠ some 0)
      (hwritten : PendingFault.due? .putPayload faults ≠ some 0)
      (hdue : PendingFault.due? .execute faults = some 0) :
      AddCourse q now cmd faults memory (.error (.injected StoreMethod.execute.name))
        (q.addCalls now cmd id) (memory.stored q cmd)
  | added {id : EventId} {sets : Sets} (hid : id = EventId.nextAfter cmd.expire memory.lastId)
      (haccepted : (Request.add cmd).Accepted) (hissued : PendingFault.due? .newEventId faults ≠ some 0)
      (hwritten : PendingFault.due? .putPayload faults ≠ some 0)
      (hexecuted : PendingFault.due? .execute faults ≠ some 0)
      (hsets : ∀ key, sets.contents key
        = if (q.eventSet cmd.queue .available "").key = key then
            (memory.sets.contents key).insert id id.score
          else memory.sets.contents key) :
      AddCourse q now cmd faults memory (.ok id) (q.addCalls now cmd id) { memory.stored q cmd with sets }

namespace Session

variable {session : Session} {q : Queue} {cmd : AddCommand}

/-- A command that is not accepted is refused before any call. -/
theorem comesTo_add_of_refused (h : ¬ (Request.add cmd).Accepted) (q : Queue) (now : Instant)
    (session : Session) :
    ∃ reason, session.ComesTo (q.add now cmd) (.error (.validation reason)) [] session.memory := by
  unfold Queue.add
  cases hqueue : checkName "queue" cmd.queue with
  | error reason => exact ⟨reason, .requireName_of_error hqueue _⟩
  | ok u =>
      have hcontents : cmd.contents.isEmpty = true := by
        by_contra hcontents
        exact h ⟨hqueue, Bool.eq_false_iff.mpr hcontents⟩
      refine ⟨.missing "contents", .requireName hqueue ?_⟩
      rw [if_pos hcontents]
      exact .throwThen _ _ session

/-- **An accepted addition ends at the first of its calls that is due to fail.** -/
theorem comesTo_addSteps (hsound : session.memory.Sound) (q : Queue) (haccepted : (Request.add cmd).Accepted) :
    ∃ result made last, session.ComesTo (q.addSteps session.now cmd) result made last
      ∧ AddCourse q session.now cmd session.faults session.memory result made last := by
  unfold Queue.addSteps
  let id := EventId.nextAfter cmd.expire session.memory.lastId
  let put : StoreCall := .putPayload (.new id cmd.contents) q.grace
  by_cases hissued : PendingFault.due? .newEventId session.faults = some 0
  · exact ⟨_, _, _, .ask_of_due (.newEventId cmd.expire) hissued _, .unissued haccepted hissued⟩
  -- the identifier is issued, which does not count for the other calls
  have hput (journal : Journal) :=
    due?_afterAnswer .putPayload (.newEventId cmd.expire) nofun session journal
  by_cases hwritten : PendingFault.due? .putPayload session.faults = some 0
  · refine ⟨_, _, _, .ask_of_not_due (.newEventId cmd.expire) hissued rfl fun journal => ?_,
      .unwritten rfl haccepted hissued hwritten⟩
    exact .ask_of_due put ((hput journal).trans hwritten) _
  have hexecute (journal journal' : Journal) :=
    (due?_afterAnswer .execute put nofun (session.afterAnswer (.newEventId cmd.expire) journal) journal').trans
      (due?_afterAnswer .execute (.newEventId cmd.expire) nofun session journal)
  by_cases hexecuted : PendingFault.due? .execute session.faults = some 0
  · refine ⟨_, _, _, .ask_of_not_due (.newEventId cmd.expire) hissued rfl fun journal => ?_,
      .unexecuted rfl haccepted hissued hwritten hexecuted⟩
    refine .ask_of_not_due put (fun h => hwritten ((hput journal).symm.trans h)) rfl fun journal' => ?_
    exact .runPlan_of_due ((hexecute journal journal').trans hexecuted) _ _ _
  -- no call fails, and the plan puts the event into the queue
  have hstored : (session.memory.stored q cmd).Sound := ⟨hsound.sets, hsound.payloads.put _ q.grace⟩
  obtain ⟨executed, sets, heq, hsets⟩ := Memory.execute_addPlan hstored q session.now cmd.queue id
  refine ⟨_, _, _, .ask_of_not_due (.newEventId cmd.expire) hissued rfl fun journal => ?_,
    .added rfl haccepted hissued hwritten hexecuted hsets⟩
  refine .ask_of_not_due put (fun h => hwritten ((hput journal).symm.trans h)) rfl fun journal' => ?_
  refine .runPlan_of_not_due (fun h => hexecuted ((hexecute journal journal').symm.trans h)) _ _
    (congrArg Prod.fst heq) fun journal'' => .reportThen (.noteThen ?_)
  exact ⟨rfl, rfl, congrArg Prod.snd heq⟩

/-- **How an addition goes**, in any session whose store is sound. -/
theorem comesTo_add (hsound : session.memory.Sound) (q : Queue) (cmd : AddCommand) :
    ∃ result made last, session.ComesTo (q.add session.now cmd) result made last
      ∧ AddCourse q session.now cmd session.faults session.memory result made last := by
  by_cases haccepted : (Request.add cmd).Accepted
  · let scope : Scope := ⟨.add, cmd.queue, "", cmd.client⟩
    let entered := { session with journal := session.journal.record (.enter scope) }
    obtain ⟨result, made, last, hcomes, hcourse⟩ := @comesTo_addSteps entered cmd hsound q haccepted
    obtain ⟨hqueue, hcontents⟩ := haccepted
    refine ⟨result, made, last, .requireName hqueue ?_, hcourse⟩
    rw [if_neg (Bool.eq_false_iff.mp hcontents)]
    exact .within scope hcomes
  · obtain ⟨reason, hcomes⟩ := comesTo_add_of_refused haccepted q session.now session
    exact ⟨_, _, _, hcomes, .refused reason haccepted⟩

/-- How a turn that adds an event goes. -/
theorem addCourse_of_turn {t : Turn} (hsound : session.memory.Sound) (hrequest : t.request = .add cmd) :
    ∃ result made, (session.turn t).1 = result.map Response.issued
      ∧ (session.turn t).2.calls = made.reverse ++ session.calls
      ∧ AddCourse t.queue t.now cmd (session.faults ++ t.faults) session.memory result made
        (session.turn t).2.memory := by
  let ready : Session := { session with now := t.now, faults := session.faults ++ t.faults }
  obtain ⟨result, made, last, hcomes, hcourse⟩ := @comesTo_add ready hsound t.queue cmd
  have hperformed : ready.ComesTo (t.request.perform t.queue t.now) (result.map .issued) made last := by
    rw [hrequest]
    exact hcomes.mapResult _
  have hlast : (session.turn t).2.memory = last := hperformed.memory
  refine ⟨result, made, hperformed.reply, hperformed.calls, ?_⟩
  rw [hlast]
  exact hcourse

end Session

namespace AddCourse

variable {q : Queue} {now : Instant} {cmd : AddCommand} {faults : List PendingFault} {memory last : Memory}
  {result : Except Failure EventId} {made : List StoreCall}

/-- **A failure has changed no set.** -/
theorem sets_of_error {failure : Failure} (h : AddCourse q now cmd faults memory (.error failure) made last) :
    last.sets = memory.sets := by
  cases h <;> rfl

/-- The caller is told that the command is not valid if it is not accepted, and in no other case. -/
theorem validation_iff (h : AddCourse q now cmd faults memory result made last) :
    (∃ reason, result = .error (.validation reason)) ↔ ¬ (Request.add cmd).Accepted := by
  cases h with
  | refused reason hrefused => exact ⟨fun _ => hrefused, fun _ => ⟨reason, rfl⟩⟩
  | unissued haccepted | unwritten _ haccepted | unexecuted _ haccepted | added _ haccepted =>
      exact ⟨nofun, fun hrefused => absurd haccepted hrefused⟩

/-- In that case no call is made. -/
theorem unchanged_of_validation {reason : Rejection}
    (h : AddCourse q now cmd faults memory (.error (.validation reason)) made last) :
    made = [] ∧ last = memory := by
  cases h
  exact ⟨rfl, rfl⟩

/-- The calls are made in their order, up to the first one that fails. -/
theorem made_isPrefix (h : AddCourse q now cmd faults memory result made last) :
    made <+: q.addCalls now cmd (EventId.nextAfter cmd.expire memory.lastId) := by
  cases h with
  | refused => exact List.nil_prefix
  | unissued => exact ⟨_, rfl⟩
  | unwritten hid => exact hid ▸ List.take_prefix _ _
  | unexecuted hid | added hid => exact hid ▸ List.prefix_rfl

/-- **After a payload write that fails, no plan is executed.** -/
theorem not_mem_of_due (h : AddCourse q now cmd faults memory result made last)
    (hdue : PendingFault.due? .putPayload faults = some 0) (plan : Plan) : .execute plan ∉ made := by
  cases h with
  | refused | unissued | unwritten => simp [Queue.addCalls]
  | unexecuted _ _ _ hwritten | added _ _ _ hwritten => exact absurd hdue hwritten

/-- An identifier is told if the command is accepted and none of the three calls fails. -/
theorem isOk_iff (h : AddCourse q now cmd faults memory result made last) :
    (∃ id, result = .ok id) ↔ (Request.add cmd).Accepted
      ∧ ∀ method ∈ [StoreMethod.newEventId, .putPayload, .execute], PendingFault.due? method faults ≠ some 0 := by
  cases h with
  | refused reason hrefused => exact ⟨nofun, fun h => absurd h.1 hrefused⟩
  | unissued _ hdue => exact ⟨nofun, fun h => absurd hdue (h.2 _ (by simp))⟩
  | unwritten _ _ _ hdue => exact ⟨nofun, fun h => absurd hdue (h.2 _ (by simp))⟩
  | unexecuted _ _ _ _ hdue => exact ⟨nofun, fun h => absurd hdue (h.2 _ (by simp))⟩
  | added _ haccepted hissued hwritten hexecuted =>
      exact ⟨fun _ => ⟨haccepted, by simp [hissued, hwritten, hexecuted]⟩, fun _ => ⟨_, rfl⟩⟩

/-- **What has happened when an identifier is told.** -/
theorem of_ok {id : EventId} (h : AddCourse q now cmd faults memory (.ok id) made last) :
    let available := (q.eventSet cmd.queue .available "").key
    id = EventId.nextAfter cmd.expire memory.lastId ∧ last.lastId = some id
      ∧ last.sets.contents available = (memory.sets.contents available).insert id id.score
      ∧ (∀ key, key ≠ available → last.sets.contents key = memory.sets.contents key)
      ∧ last.payloads.byId[id]? = some ⟨.new id cmd.contents, id.expiry.shiftClamped q.grace⟩ := by
  cases h with
  | added hid _ _ _ _ hsets =>
      refine ⟨hid, congrArg some hid.symm, (hsets _).trans (if_pos rfl),
        fun key hkey => (hsets key).trans (if_neg hkey.symm), ?_⟩
      rw [hid, Memory.stored, Payloads.put, getElem?_insert_ite]
      exact if_pos rfl

end AddCourse

/-- **Which additions are refused**: those with a blank queue name, with one that contains the separator of set
    keys, and those without contents. -/
theorem Request.not_accepted_add_iff {cmd : AddCommand} :
    ¬ (Request.add cmd).Accepted ↔
      (∀ c ∈ cmd.queue.toList, Text.isBlank c = true) ∨ ':' ∈ cmd.queue.toList ∨ cmd.contents = "" := by
  rw [Request.Accepted, checkName_eq_ok_iff, Bool.eq_false_iff, not_and_or, not_and_or, not_not, or_assoc]
  refine or_congr ?_ (or_congr Iff.rfl ?_)
  · simp
  · rw [not_not, String.isEmpty_iff]

/-! ## Identifiers -/

theorem lift_map_operation {α β : Type} (f : α → β) (d : QueueDialogue α) :
    (ExceptT.lift (f <$> d) : Operation β) = f <$> ExceptT.lift d := by
  refine ExceptT.ext ?_
  rw [ExceptT.run_map, ExceptT.run_lift, ExceptT.run_lift, ← comp_map, ← comp_map]
  rfl

/-- Only to add an event, or to ask the store itself for an identifier, tells one. -/
theorem Request.perform_eq_map {request : Request} (hadd : ∀ cmd, request ≠ .add cmd)
    (hissue : ∀ expire, request ≠ .store (.newEventId expire)) (q : Queue) (now : Instant) :
    ∃ (α : Type) (respond : α → Response) (x : Operation α), request.perform q now = respond <$> x
      ∧ ∀ a id, respond a ≠ .issued id := by
  cases request with
  | add cmd => exact absurd rfl (hadd cmd)
  | get cmd => exact ⟨_, .event, q.get now cmd, rfl, nofun⟩
  | ack cmd => exact ⟨_, .acknowledged, q.ack now cmd, rfl, nofun⟩
  | sweep queue group => exact ⟨_, .swept, q.sweep now queue group, rfl, nofun⟩
  | len queue role group => exact ⟨_, .count, q.len now queue role group, rfl, nofun⟩
  | eventSet queue role group => exact ⟨_, .eventSet, pure (q.eventSet queue role group), rfl, nofun⟩
  | tick targets => exact ⟨_, .swept, ExceptT.lift (q.tick now targets), lift_map_operation _ _, nofun⟩
  | run targets interval rounds =>
      refine ⟨_, fun _ => .stopped, ExceptT.lift (q.run now targets interval rounds), ?_, nofun⟩
      rw [← lift_map_operation, map_eq_pure_bind]
      rfl
  | store call =>
      refine ⟨_, call.response, ask call, (map_eq_pure_bind _ _).symm, ?_⟩
      cases call with
      | newEventId expire => exact absurd rfl (hissue expire)
      | _ => exact nofun

namespace Session

/-- What has been issued stays so, whatever is asked for later. -/
theorem issued_of_issued {start : List Turn} {id : EventId} (h : ∃ last ∈ (after start).memory.lastId, id ≤ last)
    (later : List Turn) : ∃ last ∈ (after (start ++ later)).memory.lastId, id ≤ last := by
  refine @after_keeps_all (fun memory => ∃ last ∈ memory.lastId, id ≤ last) ?_ start h later
  rintro now call memory ⟨last, hlast, hle⟩
  rw [Memory.lastId_answer]
  cases call with
  | newEventId expire =>
      exact ⟨_, rfl, Int.le_trans hle (Int.le_of_lt (EventId.lt_nextAfter expire hlast))⟩
  | putPayload _ _ | getPayload _ | execute _ | purgePayloads => exact ⟨last, hlast, hle⟩

/-- A store is sound after any requests, also to the store itself. -/
theorem sound_after_all (turns : List Turn) : (after turns).memory.Sound :=
  @after_keeps_all Memory.Sound (fun now call _ h => h.answer now call) [] Memory.sound_fresh turns

/-- **An identifier that a caller is told is the last one**, be it for an event or asked of the store itself. -/
theorem lastId_of_reply {turns : List Turn} {t : Turn} {id : EventId}
    (hreply : ((after turns).turn t).1 = .ok (.issued id)) :
    (after (turns ++ [t])).memory.lastId = some id := by
  rw [after_concat]
  let ready : Session := { after turns with now := t.now, faults := (after turns).faults ++ t.faults }
  by_cases hadd : ∃ cmd, t.request = .add cmd
  · obtain ⟨cmd, hrequest⟩ := hadd
    obtain ⟨result, made, hresult, -, hcourse⟩ := addCourse_of_turn (sound_after_all turns) hrequest
    obtain ⟨told, rfl, htold⟩ := map_eq_ok_iff.mp (hresult.symm.trans hreply)
    obtain rfl := Response.issued.inj htold
    exact hcourse.of_ok.2.1
  by_cases hissue : ∃ expire, t.request = .store (.newEventId expire)
  · obtain ⟨expire, hrequest⟩ := hissue
    have hensured : Ensures t.now (t.request.perform t.queue t.now).run (after turns).memory
        fun response memory => response = .ok (.issued id) → memory.lastId = some id := by
      rw [hrequest, Request.perform, ensures_operation_bind, ensures_ask]
      refine ⟨fun h => ?_, ensures_operation_pure.mpr fun h => ?_⟩
      · cases h
      · exact congrArg some (Response.issued.inj (Except.ok.inj h))
    exact turn_of_ensures hensured hreply
  · -- any other request tells no identifier
    obtain ⟨α, respond, x, hperform, hother⟩ :=
      Request.perform_eq_map (not_exists.mp hadd) (not_exists.mp hissue) t.queue t.now
    change ((converse (t.request.perform t.queue t.now).run).run ready).1 = _ at hreply
    rw [hperform, converse_mapResult] at hreply
    obtain ⟨a, -, ha⟩ := map_eq_ok_iff.mp hreply
    exact absurd ha (hother a id)

/-- **The next identifier is later than all before it**, those that callers were told and those that were lost
    with a failure. -/
theorem lt_nextAfter_of_issued {earlier later : List Turn} {x : Turn} {issued : EventId}
    (h : ((after earlier).turn x).1 = .ok (.issued issued)
      ∨ (after (earlier ++ [x])).memory.lastId = some issued) (expire : Instant) :
    issued < EventId.nextAfter expire (after (earlier ++ x :: later)).memory.lastId := by
  have hlast : (after (earlier ++ [x])).memory.lastId = some issued := h.elim lastId_of_reply id
  have hissued := issued_of_issued ⟨issued, hlast, Int.le_refl _⟩ later
  rw [← List.append_cons] at hissued
  exact Memory.le_nextAfter hissued

/-- No set holds the next event already, unless the store itself was asked to put it there. -/
theorem not_mem_nextAfter {turns : List Turn} (hop : ∀ x ∈ turns, x.request.isOperation = true)
    (expire : Instant) (key : String) :
    EventId.nextAfter expire (after turns).memory.lastId ∉ (after turns).memory.sets.contents key :=
  fun hheld => Int.lt_irrefl _ (Memory.le_nextAfter (issued_of_mem hop hheld))

end Session

/-- **An event is added as a whole or not at all**, in every state that a run can reach, whichever calls fail.
    If the caller is told an identifier, it is later than every identifier before, it has come into the shared set
    of the queue with its natural score, and into no other set, and the payload under it holds the contents. If
    not, no set has changed. The caller is told that the command is not valid if the name of the queue is blank or
    contains the separator, or if there are no contents, and in no other case; then no call is made and nothing has
    changed. After a payload write that fails, no plan is executed. And an identifier is told whenever the command
    is valid and none of the three calls fails. -/
theorem added_or_unchanged (turns : List Turn) (q : Queue) (now : Instant) (cmd : AddCommand)
    (faults : List PendingFault) :
    let before := Session.after turns
    let reply := (before.turn { queue := q, now, request := .add cmd, faults }).1
    let last := (before.turn { queue := q, now, request := .add cmd, faults }).2
    let available := (q.eventSet cmd.queue .available "").key
    let invalid := (∀ c ∈ cmd.queue.toList, Text.isBlank c = true) ∨ ':' ∈ cmd.queue.toList ∨ cmd.contents = ""
    let fails method := PendingFault.due? method (before.faults ++ faults) = some 0
    (∀ id, reply = .ok (.issued id) →
        (∀ earlier x later issued, turns = earlier ++ x :: later →
          ((Session.after earlier).turn x).1 = .ok (.issued issued)
            ∨ (Session.after (earlier ++ [x])).memory.lastId = some issued → issued < id)
        ∧ ((∀ x ∈ turns, x.request.isOperation = true) → ∀ key, id ∉ before.memory.sets.contents key)
        ∧ last.memory.sets.contents available = (before.memory.sets.contents available).insert id id.score
        ∧ (∀ key, key ≠ available → last.memory.sets.contents key = before.memory.sets.contents key)
        ∧ last.memory.payloads.byId[id]?
          = some ⟨.new id cmd.contents, id.expiry.shiftClamped q.grace⟩)
      ∧ (∀ failure, reply = .error failure → last.memory.sets = before.memory.sets)
      ∧ ((∃ reason, reply = .error (.validation reason)) ↔ invalid)
      ∧ (∀ reason, reply = .error (.validation reason) →
          last.calls = before.calls ∧ last.memory = before.memory)
      ∧ (∃ made, last.calls = made.reverse ++ before.calls
          ∧ made <+: q.addCalls now cmd (EventId.nextAfter cmd.expire before.memory.lastId)
          ∧ (fails .putPayload → ∀ plan, .execute plan ∉ made))
      ∧ ((∃ id, reply = .ok (.issued id)) ↔ ¬ invalid
          ∧ ∀ method ∈ [StoreMethod.newEventId, .putPayload, .execute], ¬ fails method) := by
  intro before reply last available invalid fails
  obtain ⟨result, made, hreply, hcalls, hcourse⟩ : ∃ result made, reply = result.map Response.issued
      ∧ last.calls = made.reverse ++ before.calls
      ∧ AddCourse q now cmd (before.faults ++ faults) before.memory result made last.memory :=
    @Session.addCourse_of_turn before cmd { queue := q, now, request := .add cmd, faults }
      (Session.sound_after_all turns) rfl
  have hinvalid : ¬ (Request.add cmd).Accepted ↔ invalid := Request.not_accepted_add_iff
  -- what the caller is told says how the addition has gone
  have hok (id : EventId) : reply = .ok (.issued id) ↔ result = .ok id := by
    rw [hreply, map_eq_ok_iff]
    simp
  have herror (failure : Failure) : reply = .error failure ↔ result = .error failure := by
    rw [hreply, map_eq_error_iff]
  simp only [hok, herror]
  refine ⟨?_, ?_, ?_, ?_, ?_, ?_⟩
  · rintro id rfl
    obtain ⟨hid, -, hinserted, hframe, hpayload⟩ := hcourse.of_ok
    refine ⟨?_, fun hop key hheld => ?_, hinserted, hframe, hpayload⟩
    · rintro earlier x later issued rfl hissued
      rw [hid]
      exact Session.lt_nextAfter_of_issued hissued cmd.expire
    · rw [hid] at hheld
      exact Session.not_mem_nextAfter hop cmd.expire key hheld
  · rintro failure rfl
    exact hcourse.sets_of_error
  · exact hcourse.validation_iff.trans hinvalid
  · rintro reason rfl
    obtain ⟨rfl, hlast⟩ := hcourse.unchanged_of_validation
    exact ⟨hcalls, hlast⟩
  · exact ⟨made, hcalls, hcourse.made_isPrefix, hcourse.not_mem_of_due⟩
  · exact hcourse.isOk_iff.trans (and_congr_left' (not_iff_comm.mp hinvalid).symm)

/-- The payload of the first event cannot be put, so only the second one is added, under the identifier after the
    one that was lost. -/
example :
    let add (faults : List PendingFault) : Turn :=
      { queue := {}, now := .ofMicros 1000, faults,
        request := .add { queue := "q", expire := .ofMicros 5000, contents := "x" } }
    let turns := [add [⟨.putPayload, 0⟩], add []]
    let last := Session.after turns
    (Session.fresh.transcript turns).map Prod.snd = [.error (.injected "put_payload"), .ok (.issued ⟨5001⟩)]
      ∧ last.calls.map StoreCall.method = [.execute, .putPayload, .newEventId, .putPayload, .newEventId]
      ∧ (last.memory.sets.contents (Queue.eventSet {} "q" .available "").key).toList = [(⟨5001⟩, 5001)] := by
  decide +kernel

end GroupQueue
