import GroupQueue.Proofs.Session.Expiry
import GroupQueue.Proofs.Session.Foreign

/-!
# `Proofs.Session.Availability` — the shared set of a queue holds what was added and has not expired

Every consumer group reads the shared set of a queue, and gets and sweeps of every group take events out of
it. All that they take out has expired, so what is alive in the set depends on nothing but the additions: at
any clock reading that is not behind the run, the live events of the set are those that were added to the
queue and have not expired, in the order of their additions. Whether calls fail makes no difference. An event
counts as added if its caller was told the identifier, and an addition that fails puts nothing into any set.

What is alive is looked at from a clock reading that lies ahead. The step lemma is `live_ids_concat`: a turn
extends the live events by the event that it adds, if it adds one that has not expired, and leaves them as they
are otherwise.

## Contents
- `Session.addOutcome_of_turn` — what a turn that adds an event comes to.
- `Session.addedTo?`, `Session.added` — the events that a run has added to a queue; `added_increasing`.
- `Session.availableAfter` — the shared set of a queue; `live_of_turn`, `live_ids_concat`, `live_ids_after`.
- `Memory.execute_lenPlan_memory`, `Session.memory_of_len` — counting leaves a store as it is;
  `Session.reply_of_len` — what a caller of a count is told.
- `available_holds_unexpired` — the shared set of a queue, in every state that a run can reach.
-/

namespace GroupQueue

namespace Session

variable {q : Queue} {queue : String} {turns : List Turn} {t : Turn} {now : Instant}

/-! ## Additions -/

/-- How a turn that adds an event can end. -/
theorem addOutcome_of_turn (hop : ∀ x ∈ turns, x.request.isOperation = true) {cmd : AddCommand}
    (hrequest : t.request = .add cmd) :
    ∃ result, ((after turns).turn t).1 = result.map .issued
      ∧ AddOutcome t.queue cmd (after turns).memory result (after (turns ++ [t])).memory := by
  have houtcomes : Ensures t.now (t.request.perform t.queue t.now).run (after turns).memory
      fun response last => ∃ result, response = result.map .issued
        ∧ AddOutcome t.queue cmd (after turns).memory result last := by
    rw [hrequest, Request.perform, ensures_operation_map]
    exact (ensures_add (sound_after hop) cmd).mono fun result _ h => ⟨result, rfl, h⟩
  rw [after_concat]
  exact turn_of_ensures houtcomes

/-- The event that a turn has added to a queue, if its caller is told that it has. -/
def addedTo? (queue : String) (entry : Turn × Except Failure Response) : Option EventId :=
  match entry.1.request, entry.2 with
  | .add cmd, .ok (.issued id) => if cmd.queue = queue then some id else none
  | _, _ => none

/-- The events that a run has added to a queue, in order. -/
def added (queue : String) (turns : List Turn) : List EventId :=
  (fresh.transcript turns).filterMap (addedTo? queue)

theorem added_concat (queue : String) (turns : List Turn) (t : Turn) :
    added queue (turns ++ [t])
      = added queue turns ++ (addedTo? queue (t, ((after turns).turn t).1)).toList := by
  rw [added, transcript_concat, List.filterMap_append]
  cases haddition : addedTo? queue (t, ((after turns).turn t).1) with
  | none => rw [List.filterMap_cons_none haddition]; rfl
  | some id => rw [List.filterMap_cons_some haddition]; rfl

/-- What a turn has added, it was asked to add, and its caller was told. -/
theorem addedTo?_eq_some_iff {response : Except Failure Response} {id : EventId} :
    addedTo? queue (t, response) = some id
      ↔ ∃ cmd, t.request = .add cmd ∧ cmd.queue = queue ∧ response = .ok (.issued id) := by
  unfold addedTo?
  dsimp only
  split
  · next cmd told hrequest => simp [hrequest]
  · next hother =>
    simp only [reduceCtorEq, false_iff, not_exists, not_and]
    rintro cmd hrequest - hresponse
    exact hother cmd id hrequest hresponse

/-- An event that is added is later than all identifiers before it, and its identifier is the last one. -/
theorem lastId_of_added (hop : ∀ x ∈ turns, x.request.isOperation = true) {id : EventId}
    (h : addedTo? queue (t, ((after turns).turn t).1) = some id) :
    (∀ last ∈ (after turns).memory.lastId, last < id) ∧ (after (turns ++ [t])).memory.lastId = some id := by
  obtain ⟨cmd, hrequest, -, hreply⟩ := addedTo?_eq_some_iff.mp h
  obtain ⟨result, hresult, houtcome⟩ := addOutcome_of_turn hop hrequest
  rw [hreply] at hresult
  generalize (after (turns ++ [t])).memory = memory at houtcome ⊢
  cases houtcome with
  | refused failure => cases hresult
  | issued failure told hlast hlater hsets => cases hresult
  | added told hqueue hlast hlater hsets =>
      cases hresult
      exact ⟨hlater, hlast⟩

/-- **Events are added in increasing order**, and none is later than the last identifier that was issued. -/
theorem added_increasing (hop : ∀ x ∈ turns, x.request.isOperation = true) :
    (added queue turns).Pairwise (· < ·)
      ∧ ∀ id ∈ added queue turns, ∃ last ∈ (after turns).memory.lastId, id ≤ last := by
  induction turns using List.reverseRecOn with
  | nil => exact ⟨.nil, fun _ hid => absurd hid List.not_mem_nil⟩
  | append_singleton turns t ih =>
      rw [List.forall_mem_append, List.forall_mem_singleton] at hop
      obtain ⟨hincreasing, hissued⟩ := ih hop.1
      rw [added_concat]
      cases haddition : addedTo? queue (t, ((after turns).turn t).1) with
      | none =>
          rw [Option.toList_none, List.append_nil]
          refine ⟨hincreasing, fun id hid => ?_⟩
          -- identifiers that a turn issues are later than the last one
          obtain ⟨last, hlast, hle⟩ := hissued id hid
          rw [lastId_of_turn hop.2, hlast]
          cases t.issuedFor? (after turns) with
          | none => exact ⟨last, rfl, hle⟩
          | some expire =>
              have hlt : last < EventId.nextAfter expire (some last) := EventId.lt_nextAfter expire rfl
              exact ⟨_, rfl, Int.le_of_lt (Int.lt_of_le_of_lt hle hlt)⟩
      | some new =>
          obtain ⟨hlater, hlast⟩ := lastId_of_added hop.1 haddition
          have hbefore : ∀ id ∈ added queue turns, id < new := by
            intro id hid
            obtain ⟨last, hmem, hle⟩ := hissued id hid
            exact Int.lt_of_le_of_lt hle (hlater last hmem)
          rw [Option.toList_some]
          constructor
          · refine List.pairwise_append.mpr ⟨hincreasing, List.pairwise_singleton _ _, ?_⟩
            intro id hid last hmem
            rw [List.mem_singleton.mp hmem]
            exact hbefore id hid
          · rw [List.forall_mem_append, List.forall_mem_singleton, hlast]
            exact ⟨fun id hid => ⟨new, rfl, Int.le_of_lt (hbefore id hid)⟩, new, rfl, Int.le_refl _⟩

/-! ## The shared set -/

/-- The set that all groups of a queue share, after some turns. -/
def availableAfter (q : Queue) (queue : String) (turns : List Turn) : Contents :=
  (after turns).memory.sets.contents (q.eventSet queue .available "").key

theorem natural_availableAfter (hturns : ∀ x ∈ turns, x.WorksIn q.base) (hqueue : ColonFree queue) :
    (availableAfter q queue turns).Natural :=
  natural_apart_after (fun x hx => (hturns x hx).1) q hqueue (by decide) (by decide)
    fun _ x hx => Queue.apart_of_base_eq (hturns x hx).2

/-- The shared set of a queue is no group's own. -/
theorem own_ne_available (ht : t.WorksIn q.base) (hqueue : ColonFree queue) {queue' group' : String}
    (hqueue' : ColonFree queue') (hgroup' : ColonFree group') :
    ∀ set ∈ (t.queue.groupSets queue' group').own, set.key ≠ (q.eventSet queue .available "").key := by
  intro set hset hkey
  obtain ⟨role, hrole, rfl⟩ := Queue.mem_own_iff.mp hset
  have hshared : (q.eventSet queue' role group').key = (q.eventSet queue .available "").key := by
    rw [← hkey, Queue.eventSet, Queue.eventSet, ht.2]
  exact hrole ((key_eventSet_eq_iff_parts hqueue' hgroup' hqueue (by decide)).mp hshared).2.1

/-- **Only what has expired leaves the shared set**, unless the turn is to add an event. -/
theorem live_of_turn (hturns : ∀ x ∈ turns, x.WorksIn q.base) (ht : t.WorksIn q.base)
    (hqueue : ColonFree queue) (hadd : ∀ cmd, t.request ≠ .add cmd) :
    (availableAfter q queue (turns ++ [t])).live t.now = (availableAfter q queue turns).live t.now := by
  let key := (q.eventSet queue .available "").key
  refine turn_keeps_sound (I := fun memory => (memory.sets.contents key).live t.now = _)
    (fun x hx => (hturns x hx).1) ht.1 (fun call hcall memory hsound hmemory => ?_) rfl
  refine (hcall.live hadd ?_ hsound).trans hmemory
  exact fun queue' group' hqueue' hgroup' _ => own_ne_available ht hqueue hqueue' hgroup'

/-- An addition that succeeds puts its event into the shared set of its queue. One that fails changes no
    set. -/
theorem available_of_add (hturns : ∀ x ∈ turns, x.WorksIn q.base) (ht : t.WorksIn q.base)
    (hqueue : ColonFree queue) {cmd : AddCommand} (hrequest : t.request = .add cmd) :
    availableAfter q queue (turns ++ [t])
      = match addedTo? queue (t, ((after turns).turn t).1) with
        | some id => (availableAfter q queue turns).insert id id.score
        | none => availableAfter q queue turns := by
  obtain ⟨result, hresult, houtcome⟩ := addOutcome_of_turn (fun x hx => (hturns x hx).1) hrequest
  rw [hresult, availableAfter]
  generalize (after (turns ++ [t])).memory = memory at houtcome ⊢
  cases houtcome with
  | refused failure =>
      simp only [addedTo?, hrequest, Except.map]
      rfl
  | issued failure id hlast hlater hsets =>
      simp only [addedTo?, hrequest, Except.map, hsets]
      rfl
  | added id hcmd hlast hlater hsets =>
      have hkey : (t.queue.eventSet cmd.queue .available "").key = (q.eventSet queue .available "").key
          ↔ cmd.queue = queue := by
        rw [Queue.eventSet, ht.2, ← Queue.eventSet, key_eventSet_eq_iff_parts hcmd (by decide) hqueue
          (by decide)]
        simp
      rw [hsets]
      simp only [addedTo?, hrequest, Except.map, hkey]
      by_cases hsame : cmd.queue = queue
      · simp only [if_pos hsame]
        rfl
      · simp only [if_neg hsame]
        rfl

/-- **A turn extends the live events by the one that it adds**, if it has not expired. -/
theorem live_ids_concat (hturns : ∀ x ∈ turns, x.WorksIn q.base) (ht : t.WorksIn q.base)
    (hqueue : ColonFree queue) (hnow : t.now ≤ now)
    (hissued : ∀ x ∈ (availableAfter q queue turns).live now, ∃ last ∈ (after turns).memory.lastId, x ≤ last) :
    ((availableAfter q queue (turns ++ [t])).live now).members.map Member.id
      = ((availableAfter q queue turns).live now).members.map Member.id
        ++ (addedTo? queue (t, ((after turns).turn t).1)).toList.filter
          fun id => decide (now.score < id.score) := by
  by_cases hadd : ∃ cmd, t.request = .add cmd
  · obtain ⟨cmd, hrequest⟩ := hadd
    rw [available_of_add hturns ht hqueue hrequest]
    cases haddition : addedTo? queue (t, ((after turns).turn t).1) with
    | none => simp
    | some id =>
        -- the new event is later than all that are alive
        obtain ⟨hlater, -⟩ := lastId_of_added (fun x hx => (hturns x hx).1) haddition
        have hlast : ∀ x ∈ (availableAfter q queue turns).live now, x < id := by
          intro x hx
          obtain ⟨last, hmem, hle⟩ := hissued x hx
          exact Int.lt_of_le_of_lt hle (hlater last hmem)
        dsimp only
        rw [(natural_availableAfter hturns hqueue).ids_live_insert hlast]
        simp [List.filter_cons]
  · have hother : ∀ cmd, t.request ≠ .add cmd := fun cmd hrequest => hadd ⟨cmd, hrequest⟩
    have hkept : (availableAfter q queue (turns ++ [t])).live now = (availableAfter q queue turns).live now := by
      rw [← Contents.live_live_of_le _ hnow, live_of_turn hturns ht hqueue hother,
        Contents.live_live_of_le _ hnow]
    have hnone : addedTo? queue (t, ((after turns).turn t).1) = none := by
      refine Option.eq_none_iff_forall_ne_some.mpr fun id haddition => ?_
      obtain ⟨cmd, hrequest, -⟩ := addedTo?_eq_some_iff.mp haddition
      exact hother cmd hrequest
    rw [hkept, hnone, Option.toList_none, List.filter_nil, List.append_nil]

/-- **What is alive in the shared set is what has been added and is alive**, by induction on the turns. -/
theorem live_ids_after (hturns : ∀ x ∈ turns, x.WorksIn q.base) (hqueue : ColonFree queue)
    (hnow : ∀ x ∈ turns, x.now ≤ now) :
    ((availableAfter q queue turns).live now).members.map Member.id
      = (added queue turns).filter fun id => decide (now.score < id.score) := by
  induction turns using List.reverseRecOn with
  | nil =>
      have hempty : availableAfter q queue [] = ∅ := Sets.contents_fresh _
      rw [hempty, Contents.live_empty, Contents.members_empty]
      rfl
  | append_singleton turns t ih =>
      rw [List.forall_mem_append, List.forall_mem_singleton] at hturns hnow
      have hbefore := ih hturns.1 hnow.1
      rw [live_ids_concat hturns.1 hturns.2 hqueue hnow.2, hbefore, added_concat, List.filter_append]
      intro x hx
      have hadded : x ∈ added queue turns := by
        rw [← ((natural_availableAfter hturns.1 hqueue).live now).mem_ids, hbefore] at hx
        exact (List.mem_filter.mp hx).1
      exact (added_increasing fun y hy => (hturns.1 y hy).1).2 x hadded

end Session

/-! ## Counting -/

/-- Counting leaves a store as it is. -/
theorem Memory.execute_lenPlan_memory (memory : Memory) (q : Queue) (now : Instant) (queue : String)
    (role : Role) (group : String) : (memory.execute (q.lenPlan now queue role group)).2 = memory := by
  have hsets : ((Sets.execute (q.lenPlan now queue role group)).run memory.sets).2 = memory.sets := by
    rw [Sets.execute, Plan.execute_eq_of_valid (valid_lenPlan q now queue role group)]
    rfl
  unfold Memory.execute
  split
  all_goals
    next heq =>
      rw [heq] at hsets
      exact congrArg (fun sets => { memory with sets }) hsets

namespace Session

/-- So does a turn that is to count, whatever it counts. -/
theorem memory_of_len {session : Session} {t : Turn} {queue group : String} {role : Role}
    (hrequest : t.request = .len queue role group) : (session.turn t).2.memory = session.memory := by
  have hkept : Ensures t.now (t.request.perform t.queue t.now).run session.memory fun _ memory =>
      memory = session.memory := by
    rw [hrequest, Request.perform]
    have hlen : Keeps (· = session.memory) t.now (t.queue.len t.now queue role group).run := by
      refine keeps_len fun memory hmemory => ?_
      rw [Memory.execute_lenPlan_memory, hmemory]
    exact (hlen.mapResult _).ensures _ rfl
  exact turn_of_ensures hkept

/-- A call to the store fails if it is due to, and else the store answers it. -/
theorem fst_answerStore (session : Session) (call : StoreCall) :
    (session.answerStore call).1
      = if (PendingFault.next call.method session.faults).1 then .error (.injected call.method.name)
        else (session.memory.answer session.now call).1 := by
  unfold answerStore
  cases PendingFault.next call.method session.faults with
  | mk fails faults => cases fails <;> rfl

/-- **What a caller of a count is told**: the number of live events, unless the plan is due to fail. -/
theorem reply_of_len {session : Session} (hsound : session.memory.Sound) {t : Turn} {queue group : String}
    {role : Role} (hrequest : t.request = .len queue role group) (hqueue : checkName "queue" queue = .ok ())
    (hgroup : role.isPerGroup = true → checkName "group" group = .ok ()) :
    (session.turn t).1
      = if (PendingFault.next .execute (session.faults ++ t.faults)).1 then
          .error (.injected StoreMethod.execute.name)
        else
          .ok (.count ((session.memory.sets.contents (t.queue.eventSet queue role group).key).live
            t.now).members.length) := by
  obtain ⟨executed, after, heq, hevents, -⟩ :=
    Memory.execute_lenPlan hsound t.queue t.now queue role group
  -- once the names are accepted, all that is left is to execute the plan
  have hrun : (t.request.perform t.queue t.now).run = (do
      let selected ← runPlan queue .len (t.queue.lenPlan t.now queue role group)
      return .count selected.length : Operation Response).run := by
    rw [hrequest, Request.perform, Queue.len, requireName, hqueue]
    by_cases hrole : role.isPerGroup = true
    · simp [hrole, requireName, hgroup hrole]
    · simp [hrole]
  let plan := t.queue.lenPlan t.now queue role group
  let ready : Session := { session with now := t.now, faults := session.faults ++ t.faults }
  have hreply : (session.turn t).1
      = (ready.answerStore (.execute plan)).1.map fun executed => .count executed.events.length := by
    have hanswer : (answer (.store (.execute plan))).run ready = ready.answerStore (.execute plan) := rfl
    show ((converse (t.request.perform t.queue t.now).run).run ready).1 = _
    rw [hrun, runPlan, ExceptT.run_bind, ExceptT.run_mk, Dialogue.call_bind, Dialogue.ask_bind, converse,
      Dialogue.interpret_ask, StateT.run_bind, hanswer]
    generalize ready.answerStore (.execute plan) = answered
    obtain ⟨reply, last⟩ := answered
    cases reply <;> rfl
  have hanswered : (ready.answerStore (.execute plan)).1
      = if (PendingFault.next .execute (session.faults ++ t.faults)).1 then
          .error (.injected StoreMethod.execute.name)
        else .ok executed := by
    rw [fst_answerStore]
    show (if _ then _ else (session.memory.execute plan).1) = _
    rw [heq]
    rfl
  rw [hreply, hanswered]
  split
  · rfl
  · show Except.ok (Response.count executed.events.length) = _
    rw [hevents, List.length_map]

/-- A turn takes no event that is alive out of the shared set of a queue, whatever its request is. -/
theorem mem_available_of_turn (hturns : ∀ x ∈ turns, x.WorksIn q.base) (ht : t.WorksIn q.base)
    (hqueue : ColonFree queue) {id : EventId} (hid : id ∈ availableAfter q queue turns)
    (hlive : t.now.score < id.score) : id ∈ availableAfter q queue (turns ++ [t]) := by
  by_cases hadd : ∃ cmd, t.request = .add cmd
  · obtain ⟨cmd, hrequest⟩ := hadd
    rw [available_of_add hturns ht hqueue hrequest]
    split
    · exact Contents.mem_insert_iff.mpr (Or.inr hid)
    · exact hid
  · have hkept := live_of_turn hturns ht hqueue fun cmd hrequest => hadd ⟨cmd, hrequest⟩
    have hmem : id ∈ (availableAfter q queue turns).live t.now :=
      (natural_availableAfter hturns hqueue).mem_live.mpr ⟨hid, hlive⟩
    rw [← hkept] at hmem
    exact Contents.mem_of_mem_live hmem

/-- An addition that fails changes no set. -/
theorem sets_of_failed_add (hop : ∀ x ∈ turns, x.request.isOperation = true) {cmd : AddCommand}
    (hrequest : t.request = .add cmd) {failure : Failure}
    (hreply : ((after turns).turn t).1 = .error failure) :
    (after (turns ++ [t])).memory.sets = (after turns).memory.sets := by
  obtain ⟨result, hresult, houtcome⟩ := addOutcome_of_turn hop hrequest
  rw [hreply] at hresult
  generalize (after (turns ++ [t])).memory = memory at houtcome ⊢
  cases houtcome with
  | refused failure => rfl
  | issued failure id hlast hlater hsets => exact hsets
  | added id hqueue hlast hlater hsets => cases hresult

end Session

/-- **The shared set of a queue holds exactly the events that were added and have not expired**, in every state
    that a run in one namespace can reach, whichever calls fail. A count of the set, at a clock reading that is
    not behind the run, gives the number of additions to the queue that succeeded and whose identifiers lie
    beyond the reading, unless the count itself is due to fail. No request takes an event out of the set that
    has not expired at its reading; an addition that fails puts nothing into any set; and a count of any set
    leaves the store as it is. -/
theorem available_holds_unexpired {q : Queue} {queue : String} {turns : List Turn} {now : Instant}
    (hturns : ∀ x ∈ turns, x.WorksIn q.base) (hnow : ∀ x ∈ turns, x.now ≤ now)
    (hqueue : checkName "queue" queue = .ok ()) :
    (∀ t : Turn, t.queue.base = q.base → t.now = now → ∀ group, t.request = .len queue .available group →
        ((Session.after turns).turn t).1
          = if (PendingFault.next .execute ((Session.after turns).faults ++ t.faults)).1 then
              .error (.injected StoreMethod.execute.name)
            else
              .ok (.count ((Session.added queue turns).filter fun id => decide (now.score < id.score)).length))
      ∧ (∀ t : Turn, ∀ queue role group, t.request = .len queue role group →
        ((Session.after turns).turn t).2.memory = (Session.after turns).memory)
      ∧ ∀ before t later, turns = before ++ t :: later →
        (∀ id ∈ Session.availableAfter q queue before, t.now.score < id.score →
          id ∈ Session.availableAfter q queue (before ++ [t]))
        ∧ ∀ cmd failure, t.request = .add cmd → ((Session.after before).turn t).1 = .error failure →
          (Session.after (before ++ [t])).memory.sets = (Session.after before).memory.sets := by
  have hcolon := colonFree_of_checkName hqueue
  refine ⟨?_, ?_, ?_⟩
  · intro t hbase ht group hrequest
    have hsound := Session.sound_after fun x hx => (hturns x hx).1
    have hshared : Role.available.isPerGroup = true → checkName "group" group = .ok () :=
      fun h => absurd h Bool.false_ne_true
    have hcount : ((Session.after turns).memory.sets.contents
        (t.queue.eventSet queue .available group).key) = Session.availableAfter q queue turns := by
      rw [Session.availableAfter, Queue.eventSet, hbase]
      rfl
    rw [Session.reply_of_len hsound hrequest hqueue hshared, hcount, ht,
      ← Session.live_ids_after hturns hcolon hnow, List.length_map]
  · intro t queue role group hrequest
    exact Session.memory_of_len hrequest
  · rintro before t later rfl
    rw [List.forall_mem_append, List.forall_mem_cons] at hturns
    constructor
    · intro id hid hlive
      exact Session.mem_available_of_turn hturns.1 hturns.2.1 hcolon hid hlive
    · intro cmd failure hrequest hreply
      exact Session.sets_of_failed_add (fun x hx => (hturns.1 x hx).1) hrequest hreply

/-- Two events are added to a queue, one to another queue, and one more addition fails. The first event is
    taken and given back, and has expired when the shared set is counted. -/
theorem available_holds_unexpired_second :
    let q : Queue := {}
    let turn (micros : Int) (request : Request) : Turn := { queue := q, now := .ofMicros micros, request }
    let add (queue : String) (expire : Int) : Request :=
      .add { queue, expire := .ofMicros expire, contents := "x" }
    let turns := [turn 1000 (add "q" 5000), turn 1000 (add "q" 9000), turn 1000 (add "p" 9100),
      { turn 1000 (add "q" 9200) with faults := [⟨.execute, 0⟩] },
      turn 1000 (.get { queue := "q", group := "g", deadline := some (.ofMicros 2000) }),
      turn 3000 (.tick [⟨"q", "g"⟩])]
    let t := turn 6000 (.len "q" .available "")
    (∀ x ∈ turns, x.WorksIn q.base) ∧ (∀ x ∈ turns, x.now ≤ t.now)
      ∧ checkName "queue" "q" = .ok () ∧ Session.added "q" turns = [⟨5000⟩, ⟨9000⟩]
      ∧ ((Session.after turns).turn t).1 = .ok (.count 1)
      ∧ ((Session.after turns).turn t).2.memory = (Session.after turns).memory := by
  intro q turn add turns t
  have hturns : ∀ x ∈ turns, x.WorksIn q.base := by decide
  have hnow : ∀ x ∈ turns, x.now ≤ t.now := by decide
  have hqueue : checkName "queue" "q" = .ok () := by decide +kernel
  have hadded : Session.added "q" turns = [⟨5000⟩, ⟨9000⟩] := by decide +kernel
  have hfaults : (Session.after turns).faults = [] := by decide +kernel
  obtain ⟨hcount, hkept, -⟩ := available_holds_unexpired hturns hnow hqueue
  have hreply := hcount t rfl rfl "" rfl
  rw [hadded, hfaults] at hreply
  exact ⟨hturns, hnow, hqueue, hadded, hreply, hkept t "q" .available "" rfl⟩

end GroupQueue
