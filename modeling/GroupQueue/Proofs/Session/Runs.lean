import GroupQueue.Proofs.Queue.Effects
import GroupQueue.Proofs.Session.Ensures
import Mathlib.Data.List.Induction

/-!
# `Proofs.Session.Runs` — runs of a queue service

A run is a list of turns over an empty store: requests to any number of queue services over the one
store, each with a clock reading and with calls that are to fail. To show that a property holds in every
state that a run can reach, it is enough to look at single calls: an operation keeps what its calls keep,
and so does a run.

## Contents
- `Turn`, `Session.turn`, `Session.after`, `Session.transcript` — turns and runs; `turn_of_ensures`.
- `keeps_sweep_of`, `keeps_tick`, `keeps_run` — sweeping, in terms of the plans of a sweep.
- `Request.sweeps`, `Request.gets`, `Request.acks` — the requests that concern a group.
- `Request.Makes` — the calls that a request makes; `Queue.OwnPlan`, `Queue.Makes` — those that the
  operations of a queue make.
- `keeps_request`, `Session.turn_keeps`, `Session.after_keeps` — requests, turns and runs keep what their calls
  keep; `Session.after_keeps_all`: runs with requests to the store itself.
-/

namespace GroupQueue

/-! ## Runs -/

/-- A request to a service, with the clock reading at which it is made and the calls that are to fail
    from then on. The store answers all calls of the request at that same reading. -/
structure Turn where
  queue : Queue
  now : Instant
  request : Request
  faults : List PendingFault := []

/-- Whether a request is for the queue, and not for its store. -/
def Request.isOperation : Request → Bool
  | .store _ => false
  | _ => true

/-- A turn is for a queue that works in a namespace, and not for its store. -/
def Turn.WorksIn (base : String) (t : Turn) : Prop :=
  t.request.isOperation = true ∧ t.queue.base = base

instance (base : String) (t : Turn) : Decidable (t.WorksIn base) :=
  inferInstanceAs (Decidable (_ ∧ _))

namespace Session

/-- A service over an empty store. -/
def fresh : Session := { now := Instant.ofMicros 0 }

/-- Set the clock, let further calls fail, and perform a request. -/
def turn (session : Session) (t : Turn) : Except Failure Response × Session :=
  (perform t.queue t.request).run { session with now := t.now, faults := session.faults ++ t.faults }

/-- A service that has been through some turns. -/
def after (turns : List Turn) : Session :=
  turns.foldl (fun session t => (session.turn t).2) fresh

theorem after_concat (turns : List Turn) (t : Turn) :
    after (turns ++ [t]) = ((after turns).turn t).2 := by
  rw [after, List.foldl_append]
  rfl

/-- The turns of a session, each with what its caller is told. -/
def transcript (session : Session) : List Turn → List (Turn × Except Failure Response)
  | [] => []
  | t :: turns => (t, (session.turn t).1) :: (session.turn t).2.transcript turns

theorem transcript_cons (turns : List Turn) (t : Turn) (later : List Turn) :
    (after turns).transcript (t :: later)
      = (t, ((after turns).turn t).1) :: (after (turns ++ [t])).transcript later := by
  rw [after_concat]
  rfl

theorem transcript_concat (turns : List Turn) (t : Turn) :
    fresh.transcript (turns ++ [t]) = fresh.transcript turns ++ [(t, ((after turns).turn t).1)] := by
  have hfrom (session : Session) : session.transcript (turns ++ [t]) = session.transcript turns
      ++ [(t, ((turns.foldl (fun session t => (session.turn t).2) session).turn t).1)] := by
    induction turns generalizing session with
    | nil => rfl
    | cons x turns ih => exact congrArg _ (ih _)
  exact hfrom fresh

/-- A turn comes to what its request ensures. -/
theorem turn_of_ensures {session : Session} {t : Turn} {post : Except Failure Response → Memory → Prop}
    (h : Ensures t.now (t.request.perform t.queue t.now).run session.memory post) :
    post (session.turn t).1 (session.turn t).2.memory :=
  (Ensures.converse { session with now := t.now, faults := session.faults ++ t.faults } h).1

/-- So does the store that a run has led to. -/
theorem after_of_ensures {turns : List Turn} {t : Turn} {post : Memory → Prop}
    (h : Ensures t.now (t.request.perform t.queue t.now).run (after turns).memory fun _ last => post last) :
    post (after (turns ++ [t])).memory := by
  rw [after_concat]
  exact turn_of_ensures h

end Session

/-! ## Counting and sweeping -/

section Sweeping

variable {q : Queue} {now : Instant} {inv : Memory → Prop}

theorem keeps_len {queue group : String} {role : Role}
    (h : ∀ memory, inv memory → inv (memory.execute (q.lenPlan now queue role group)).2) :
    Keeps inv now (q.len now queue role group).run := by
  unfold Queue.len
  refine .requireName fun hqueue => ?_
  have hrest : Keeps inv now (do
      let selected ← runPlan queue .len (q.lenPlan now queue role group)
      return selected.length : Operation Nat).run := .andThen (.runPlan _ _ h) fun _ => .finish _
  exact .choice (.requireName fun hgroup => hrest) hrest

theorem keeps_purgeEach {sets : List EventSet}
    (h : ∀ set ∈ sets, ∀ memory, inv memory → inv (memory.execute (q.purgePlan now set)).2)
    (queue : String) : Keeps inv now (q.purgeEach now queue sets).run := by
  induction sets with
  | nil => exact .finish _
  | cons set sets ih =>
      obtain ⟨hset, hsets⟩ := List.forall_mem_cons.mp h
      exact .andThen (.runPlan _ _ hset) fun _ => .andThen (ih hsets) fun _ => .finish _

/-- A sweep keeps what its plans keep. From the purge of the shared set on they may rely on more, and
    have to keep that. -/
theorem keeps_sweep_of {queue group : String} {aged : Memory → Prop}
    (haged : ∀ memory, aged memory → inv memory)
    (hrequeue : ColonFree queue → ColonFree group → ∀ memory, inv memory →
      inv (memory.execute (q.requeuePlan now (q.groupSets queue group))).2)
    (havailable : ColonFree queue → ColonFree group → ∀ memory, inv memory →
      aged (memory.execute (q.purgePlan now (q.groupSets queue group).available)).2)
    (hhistory : ColonFree queue → ColonFree group →
      ∀ set ∈ [(q.groupSets queue group).redo, (q.groupSets queue group).done],
      ∀ memory, aged memory → aged (memory.execute (q.purgePlan now set)).2) :
    Keeps inv now (q.sweep now queue group).run := by
  unfold Queue.sweep
  refine .requireName fun hq => .requireName fun hg => .within _ ?_
  have hqueue := colonFree_of_checkName hq
  have hgroup := colonFree_of_checkName hg
  refine .andThen (.runPlan _ _ (hrequeue hqueue hgroup)) fun moved => ?_
  -- the shared set is purged first, and what follows may rely on that
  have hpurge : Keeps inv now (q.purgeEach now queue [(q.groupSets queue group).available,
      (q.groupSets queue group).redo, (q.groupSets queue group).done]).run := by
    refine ⟨fun memory h => ?_⟩
    have hshared := havailable hqueue hgroup memory h
    rw [Queue.purgeEach, ensures_operation_bind, ensures_runPlan]
    refine ⟨h, ?_⟩
    split
    · have hrest := keeps_purgeEach (hhistory hqueue hgroup) queue
      exact ((hrest.andThen fun _ => .finish _).ensures _ hshared).mono fun _ memory h => haged memory h
    · exact haged _ hshared
  refine .andThen hpurge fun purged => ?_
  have hrest : Keeps inv now (do
      report (.selected moved.length)
      return { requeued := moved.length, purged } : Operation SweepReport).run :=
    .reportThen (.finish _)
  have hnoted : Keeps inv now (do
      if 0 < purged then note (.purged purged)
      report (.selected moved.length)
      return { requeued := moved.length, purged } : Operation SweepReport).run :=
    .choice (.noteThen hrest) hrest
  exact .choice (.reportThen (.noteThen hnoted)) hnoted

theorem keeps_sweepTargets {targets : List SweepTarget}
    (hsweep : ∀ target ∈ targets, Keeps inv now (q.sweep now target.queue target.group).run) :
    Keeps inv now (q.sweepTargets now targets) := by
  induction targets with
  | nil => exact .pure _
  | cons target targets ih =>
      obtain ⟨htarget, hrest⟩ := List.forall_mem_cons.mp hsweep
      refine .bind htarget fun result => ?_
      cases result with
      | ok done => exact .bind (.pure _) fun own => .bind (ih hrest) fun _ => .pure _
      | error failure =>
          exact .bind (.note _) fun _ => .bind (.pure _) fun own => .bind (ih hrest) fun _ => .pure _

theorem keeps_tick {targets : List SweepTarget}
    (hsweep : ∀ target ∈ targets, Keeps inv now (q.sweep now target.queue target.group).run)
    (hpurge : Keeps inv now (ask .purgePayloads).run) : Keeps inv now (q.tick now targets) := by
  refine .bind (keeps_sweepTargets hsweep) fun swept => .bind hpurge fun reply => ?_
  cases reply with
  | ok count => exact .pure _
  | error failure => exact .bind (.note _) fun _ => .pure _

/-- The sweeper keeps what its rounds keep, by induction on their number. -/
theorem keeps_runRounds {targets : List SweepTarget}
    (hsweep : ∀ target ∈ targets, Keeps inv now (q.sweep now target.queue target.group).run)
    (hpurge : Keeps inv now (ask .purgePayloads).run) (rounds : Nat) :
    Keeps inv now (q.runRounds now targets rounds) := by
  induction rounds with
  | zero => exact .note _
  | succ rounds ih =>
      refine .bind (keeps_tick hsweep hpurge) fun done => ?_
      split
      · exact ih
      · exact .bind (.note _) fun _ => ih

theorem keeps_run {targets : List SweepTarget}
    (hsweep : ∀ target ∈ targets, Keeps inv now (q.sweep now target.queue target.group).run)
    (hpurge : Keeps inv now (ask .purgePayloads).run) (interval : Span) (rounds : Nat) :
    Keeps inv now (q.run now targets interval rounds) :=
  .bind (.note _) fun _ => keeps_runRounds hsweep hpurge rounds

end Sweeping

/-! ## What a queue asks of its store -/

/-- Whether a request sweeps a group. -/
def Request.sweeps (queue group : String) : Request → Prop
  | .sweep queue' group' => queue' = queue ∧ group' = group
  | .tick targets | .run targets _ _ => ⟨queue, group⟩ ∈ targets
  | _ => False

/-- Whether a request takes the next event for a group. -/
def Request.gets (queue group : String) : Request → Prop
  | .get cmd => cmd.queue = queue ∧ cmd.group = group
  | _ => False

/-- Whether a request acknowledges an event for a group. -/
def Request.acks (queue group : String) : Request → Prop
  | .ack cmd => cmd.queue = queue ∧ cmd.group = group
  | _ => False

/-- A sweep takes no event. -/
theorem Request.not_gets_of_sweeps {request : Request} {queue group : String}
    (h : request.sweeps queue group) : ¬ request.gets queue group := by
  cases request with
  | get cmd => exact h.elim
  | _ => exact id

/-- The calls that a request makes. -/
inductive Request.Makes (q : Queue) (now : Instant) : Request → StoreCall → Prop
  | issue (cmd : AddCommand) : Makes q now (.add cmd) (.newEventId cmd.expire)
  | keep (cmd : AddCommand) (id : EventId) :
      Makes q now (.add cmd) (.putPayload (.new id cmd.contents) q.grace)
  | add {cmd : AddCommand} (hqueue : ColonFree cmd.queue) (id : EventId) :
      Makes q now (.add cmd) (.execute (q.addPlan now cmd.queue id))
  | get {cmd : GetCommand} (hqueue : ColonFree cmd.queue) (hgroup : ColonFree cmd.group) :
      Makes q now (.get cmd) (.execute (q.getPlan now cmd))
  | fetch (cmd : GetCommand) (id : EventId) : Makes q now (.get cmd) (.getPayload id)
  | ack {cmd : AckCommand} (hqueue : ColonFree cmd.queue) (hgroup : ColonFree cmd.group) :
      Makes q now (.ack cmd) (.execute (q.ackPlan now cmd))
  | requeue {request : Request} {queue group : String} (hqueue : ColonFree queue)
      (hgroup : ColonFree group) (h : request.sweeps queue group) :
      Makes q now request (.execute (q.requeuePlan now (q.groupSets queue group)))
  | purge {request : Request} {queue group : String} (hqueue : ColonFree queue)
      (hgroup : ColonFree group) (h : request.sweeps queue group) (role : Role) :
      Makes q now request (.execute (q.purgePlan now (q.eventSet queue role group)))
  | len (queue : String) (role : Role) (group : String) :
      Makes q now (.len queue role group) (.execute (q.lenPlan now queue role group))
  | expire {request : Request} {targets : List SweepTarget}
      (h : request = .tick targets ∨ ∃ interval rounds, request = .run targets interval rounds) :
      Makes q now request .purgePayloads

/-- The plans that the operations of a queue have executed. -/
inductive Queue.OwnPlan (q : Queue) (now : Instant) : Plan → Prop
  | add {queue : String} (hqueue : ColonFree queue) (id : EventId) : OwnPlan q now (q.addPlan now queue id)
  | get {cmd : GetCommand} (hqueue : ColonFree cmd.queue) (hgroup : ColonFree cmd.group) :
      OwnPlan q now (q.getPlan now cmd)
  | ack {cmd : AckCommand} (hqueue : ColonFree cmd.queue) (hgroup : ColonFree cmd.group) :
      OwnPlan q now (q.ackPlan now cmd)
  | requeue {queue group : String} (hqueue : ColonFree queue) (hgroup : ColonFree group) :
      OwnPlan q now (q.requeuePlan now (q.groupSets queue group))
  | purge (queue : String) (role : Role) (group : String) :
      OwnPlan q now (q.purgePlan now (q.eventSet queue role group))
  | len (queue : String) (role : Role) (group : String) : OwnPlan q now (q.lenPlan now queue role group)

/-- The calls that the operations of a queue make: any call, but only the queue's own plans. -/
def Queue.Makes (q : Queue) (now : Instant) : StoreCall → Prop
  | .execute plan => q.OwnPlan now plan
  | _ => True

/-- What a request asks for is what its queue may ask for. -/
theorem Request.Makes.own {q : Queue} {now : Instant} {request : Request} {call : StoreCall}
    (h : request.Makes q now call) : q.Makes now call := by
  cases h with
  | issue cmd | keep cmd id | fetch cmd id | expire h => trivial
  | add hqueue id => exact .add hqueue id
  | get hqueue hgroup => exact .get hqueue hgroup
  | ack hqueue hgroup => exact .ack hqueue hgroup
  | requeue hqueue hgroup h => exact .requeue hqueue hgroup
  | purge hqueue hgroup h role => exact .purge _ role _
  | len queue role group => exact .len queue role group

/-! ## What requests keep -/

section Keeps

variable {q : Queue} {now : Instant} {inv : Memory → Prop}

theorem keeps_add {cmd : AddCommand}
    (hcall : ∀ call, Request.Makes q now (.add cmd) call → ∀ memory, inv memory →
      inv (memory.answer now call).2) : Keeps inv now (q.add now cmd).run := by
  unfold Queue.add
  refine .requireName fun hqueue => .choice (.throwThen _ _) ?_
  refine .within _ (.andThen (.ask (hcall _ (.issue cmd))) fun id => ?_)
  have hplan := hcall (.execute (q.addPlan now cmd.queue id)) (.add (colonFree_of_checkName hqueue) id)
  refine .andThen (.ask (hcall _ (.keep cmd id))) fun _ => .andThen (.runPlan _ _ hplan) fun selected => ?_
  exact .reportThen (.noteThen (.finish _))

theorem keeps_get {cmd : GetCommand}
    (hcall : ∀ call, Request.Makes q now (.get cmd) call → ∀ memory, inv memory →
      inv (memory.answer now call).2) : Keeps inv now (q.get now cmd).run := by
  unfold Queue.get
  refine .requireName fun hqueue => .requireName fun hgroup => .within _ ?_
  have hplan := hcall (.execute (q.getPlan now cmd))
    (.get (colonFree_of_checkName hqueue) (colonFree_of_checkName hgroup))
  refine .andThen (.runPlan _ _ hplan) fun selected => .reportThen ?_
  cases selected.head? with
  | none => exact .noteThen (.finish _)
  | some id =>
      refine .andThen (.ask (hcall _ (.fetch cmd id))) fun stored => ?_
      cases stored with
      | none => exact .throw _
      | some event => exact .noteThen (.finish _)

theorem keeps_ack {cmd : AckCommand}
    (hcall : ∀ call, Request.Makes q now (.ack cmd) call → ∀ memory, inv memory →
      inv (memory.answer now call).2) : Keeps inv now (q.ack now cmd).run := by
  unfold Queue.ack
  refine .requireName fun hqueue => .requireName fun hgroup => .within _ ?_
  have hplan := hcall (.execute (q.ackPlan now cmd))
    (.ack (colonFree_of_checkName hqueue) (colonFree_of_checkName hgroup))
  exact .andThen (.runPlan _ _ hplan) fun selected => .reportThen (.noteThen (.finish _))

theorem keeps_sweep {request : Request} {queue group : String}
    (hcall : ∀ call, request.Makes q now call → ∀ memory, inv memory → inv (memory.answer now call).2)
    (h : request.sweeps queue group) : Keeps inv now (q.sweep now queue group).run := by
  have hpurge (hqueue : ColonFree queue) (hgroup : ColonFree group) (role : Role) :
      ∀ memory, inv memory → inv (memory.execute (q.purgePlan now (q.eventSet queue role group))).2 :=
    hcall (.execute _) (.purge hqueue hgroup h role)
  refine keeps_sweep_of (fun _ h => h)
    (fun hqueue hgroup => hcall (.execute _) (.requeue hqueue hgroup h))
    (fun hqueue hgroup => hpurge hqueue hgroup .available) fun hqueue hgroup set hset => ?_
  rcases List.mem_pair.mp hset with rfl | rfl
  · exact hpurge hqueue hgroup .redo
  · exact hpurge hqueue hgroup .done

/-- **Requests keep what the calls they make keep.** -/
theorem keeps_request {request : Request} (hop : request.isOperation = true)
    (hcall : ∀ call, request.Makes q now call → ∀ memory, inv memory →
      inv (memory.answer now call).2) : Keeps inv now (request.perform q now).run := by
  cases request with
  | add cmd => exact (keeps_add hcall).mapResult _
  | get cmd => exact (keeps_get hcall).mapResult _
  | ack cmd => exact (keeps_ack hcall).mapResult _
  | sweep queue group => exact (keeps_sweep hcall ⟨rfl, rfl⟩).mapResult _
  | len queue role group => exact (keeps_len (hcall (.execute _) (.len queue role group))).mapResult _
  | eventSet queue role group => exact .finish _
  | tick targets =>
      have hsweep (target : SweepTarget) (htarget : target ∈ targets) :
          Keeps inv now (q.sweep now target.queue target.group).run :=
        keeps_sweep hcall (show Request.sweeps target.queue target.group (.tick targets) from htarget)
      exact ((keeps_tick hsweep (.ask (hcall _ (.expire (Or.inl rfl))))).map _).map _
  | run targets interval rounds =>
      have hsweep (target : SweepTarget) (htarget : target ∈ targets) :
          Keeps inv now (q.sweep now target.queue target.group).run :=
        keeps_sweep hcall
          (show Request.sweeps target.queue target.group (.run targets interval rounds) from htarget)
      have hexpire := hcall _ (.expire (Or.inr ⟨interval, rounds, rfl⟩))
      exact .map (.bind (keeps_run hsweep (.ask hexpire) interval rounds) fun _ => .pure _) _
  | store call => contradiction

end Keeps

/-- A turn keeps what the calls of its request keep. -/
theorem Session.turn_keeps {I : Memory → Prop} {turns : List Turn} {t : Turn}
    (ht : t.request.isOperation = true)
    (hcall : ∀ call, t.request.Makes t.queue t.now call → ∀ memory, I memory →
      I (memory.answer t.now call).2) (h : I (after turns).memory) : I (after (turns ++ [t])).memory :=
  after_of_ensures ((keeps_request ht hcall).ensures _ h)

/-- **Runs keep what the calls of their turns keep.** -/
theorem Session.after_keeps {I : Memory → Prop} (hfresh : I {}) {turns : List Turn}
    (hop : ∀ t ∈ turns, t.request.isOperation = true)
    (hcall : ∀ t ∈ turns, ∀ call, t.queue.Makes t.now call →
      ∀ memory, I memory → I (memory.answer t.now call).2) : I (after turns).memory := by
  induction turns using List.reverseRecOn with
  | nil => exact hfresh
  | append_singleton turns t ih =>
      have hbefore := ih (fun x hx => hop x (List.mem_append_left _ hx))
        (fun x hx => hcall x (List.mem_append_left _ hx))
      have ht : t ∈ turns ++ [t] := List.mem_append_right _ (List.mem_singleton.mpr rfl)
      exact turn_keeps (hop t ht) (fun call hmakes => hcall t ht call hmakes.own) hbefore

/-! ## Runs with requests to the store -/

section AnyRequest

variable {I : Memory → Prop}

/-- Any request keeps what every call to the store keeps. -/
theorem keeps_perform {now : Instant} (hcall : ∀ call memory, I memory → I (memory.answer now call).2)
    (q : Queue) (request : Request) : Keeps I now (request.perform q now).run := by
  by_cases hop : request.isOperation = true
  · exact keeps_request hop fun call _ => hcall call
  · cases request with
    | store call => exact .andThen (.ask (hcall call)) fun _ => .finish _
    | _ => exact absurd rfl hop

/-- **Any run keeps what every call to the store keeps**, from any state that a run can reach. -/
theorem Session.after_keeps_all (hcall : ∀ now call memory, I memory → I (memory.answer now call).2)
    {start : List Turn} (h : I (after start).memory) (later : List Turn) : I (after (start ++ later)).memory := by
  induction later using List.reverseRecOn with
  | nil => rwa [List.append_nil]
  | append_singleton later t ih =>
      rw [← List.append_assoc]
      exact after_of_ensures ((keeps_perform (hcall t.now) t.queue t.request).ensures _ ih)

end AnyRequest

end GroupQueue
