import GroupQueue.Proofs.Session.Tallies

/-!
# `Proofs.Session.RequeueCount` — the events that are counted as requeued

A sweep moves events first, then purges three sets, and only then does it report how many events it has moved. It
gets there only if every purge has succeeded. Where one fails, the events have been moved as by any other sweep, but
are not counted, neither then nor by a later sweep, which finds no leases of them. This is all that the count
misses, over runs of any length and whichever calls fail (`requeued_unless_cut_short`).

## Contents
- `reply_runPlan`, `moved_attempt_requeuePlan` — a sweep is told of what it has moved.
- `still_purgeEach`, `cut_purgeEach` — its purges.
- `Queue.reportSweep`, `tallied_purge_report`, `tallies_sweep` — sweeps.
- `tallies_request`, `tallied_turn`, `tallied_run` — requests, turns and runs.
- `requeued_unless_cut_short` — the count; `requeued_not_counted`: an event that is moved and not counted.
-/

namespace GroupQueue

/-! ## Sweeps -/

section Sweeps

variable {queue group : String} {q : Queue} {now : Instant} {session : Session}

/-- Executing a plan comes to a failure or to what the store replies. -/
theorem reply_runPlan (name : String) (activity : Activity) (plan : Plan) (session : Session) :
    ((Session.converse (runPlan name activity plan).run).run session).1
      = if (session.attempt (.execute plan)).fails then .error (.injected StoreMethod.execute.name)
        else (session.memory.execute plan).1.map Executed.events := by
  show (session.answerStore (.execute plan)).1.map Executed.events = _
  unfold Session.answerStore Session.attempt
  cases PendingFault.next (StoreCall.execute plan).method session.faults with
  | mk fails faults => cases fails <;> rfl

/-- If the plan validates, there is no other failure. -/
theorem fails_attempt_execute (name : String) (activity : Activity) {plan : Plan}
    (hvalid : plan.validate = .ok ()) :
    (session.attempt (.execute plan)).fails
      = !((Session.converse (runPlan name activity plan).run).run session).1.isOk := by
  obtain ⟨executed, hexecuted⟩ := Memory.fst_execute_of_valid hvalid session.memory
  rw [reply_runPlan, hexecuted]
  cases (session.attempt (.execute plan)).fails <;> rfl

/-- A sweep is told of what the requeueing plan has moved. -/
theorem moved_attempt_requeuePlan (hsound : session.memory.Sound) (q : Queue) (now : Instant)
    {queue' group' : String} (hqueue : ColonFree queue') (hgroup : ColonFree group') {events : List EventId}
    (hreply : ((Session.converse (runPlan queue' .sweep
      (q.requeuePlan now (q.groupSets queue' group'))).run).run session).1 = .ok events) :
    (session.attempt (.execute (q.requeuePlan now (q.groupSets queue' group')))).moved queue group
      = if queue' = queue ∧ group' = group then events.length else 0 := by
  by_cases hsame : queue' = queue ∧ group' = group
  · obtain ⟨rfl, rfl⟩ := hsame
    let plan := q.requeuePlan now (q.groupSets queue' group')
    have hfails := @fails_attempt_execute session queue' .sweep _ (valid_requeuePlan q now queue' group')
    rw [hreply] at hfails
    rw [reply_runPlan, if_neg (by rw [hfails]; exact Bool.false_ne_true)] at hreply
    obtain ⟨executed, sets, heq, hevents, -⟩ := Memory.execute_requeuePlan hsound q now hqueue hgroup
    rw [heq] at hreply
    have hattempt : session.attempt (.execute plan) = ⟨session.now, session.memory, .execute plan, false⟩ :=
      congrArg (Attempt.mk _ _ _) hfails
    rw [if_pos ⟨rfl, rfl⟩, ← Except.ok.inj hreply, hevents]
    exact (congrArg _ hattempt).trans (Attempt.moved_requeuePlan hsound q now session.now hqueue hgroup)
  · rw [if_neg hsame]
    refine Attempt.moved_of_not_requeues fun plan hplan => ?_
    cases hplan
    exact Bool.eq_false_iff.mpr (mt Plan.requeues_requeuePlan.mp hsame)

/-- A purge requeues nothing. -/
theorem still_purgeEach (q : Queue) (now : Instant) (name : String) (sets : List EventSet) :
    ∀ a ∈ Session.attempts (q.purgeEach now name sets).run session, a.moved queue group = 0 := by
  induction sets generalizing session with
  | nil => exact List.forall_mem_nil _
  | cons set sets ih =>
      intro a ha
      rw [Queue.purgeEach, Session.attempts_andThen, List.mem_append] at ha
      rcases ha with ha | ha
      · obtain rfl := List.mem_singleton.mp ha
        refine Attempt.moved_of_not_requeues fun plan hplan => ?_
        cases hplan
        rfl
      · split at ha
        · rw [bind_pure_comp, Session.attempts_mapResult] at ha
          exact ih a ha
        · exact absurd ha List.not_mem_nil

/-- **A purge of some sets fails if and only if one of its calls does**, and else there is one call for each of
    them. -/
theorem cut_purgeEach (q : Queue) (now : Instant) (name : String) {sets : List EventSet}
    (hsets : ∀ set ∈ sets, set.base = q.base) (more : List Attempt) :
    ((Session.attempts (q.purgeEach now name sets).run session ++ more).take sets.length).any Attempt.fails
      = !((Session.converse (q.purgeEach now name sets).run).run session).1.isOk := by
  induction sets generalizing session with
  | nil => rfl
  | cons set sets ih =>
      obtain ⟨hset, hrest⟩ := List.forall_mem_cons.mp hsets
      have hfails := @fails_attempt_execute session name .purge _ (valid_purgePlan q now set hset)
      rw [Queue.purgeEach, Session.attempts_andThen]
      cases hreply : ((Session.converse (runPlan name .purge (q.purgePlan now set)).run).run session).1 with
      | error failure =>
          rw [hreply] at hfails
          rw [Session.converse_andThen_of_error hreply]
          exact List.any_eq_true.mpr ⟨_, List.mem_cons_self, hfails⟩
      | ok selected =>
          rw [hreply] at hfails
          rw [Session.converse_andThen_of_ok hreply]
          dsimp only
          rw [bind_pure_comp, Session.attempts_mapResult, Session.converse_mapResult]
          refine (congrArg₂ Bool.or hfails (ih hrest)).trans ?_
          cases ((Session.converse (q.purgeEach now name sets).run).run _).1 <;> rfl

theorem tallies_purgeEach (name : String) (sets : List EventSet) :
    Tallies queue group (q.purgeEach now name sets).run := by
  induction sets with
  | nil => exact .finish _
  | cons set sets ih => exact .andThen (.runPlan _ _ rfl) fun _ => .andThen ih fun _ => .finish _

/-- What a sweep reports once its plans have been executed. -/
def Queue.reportSweep (queue group : String) (requeued purged : Nat) : Operation SweepReport := do
  if 0 < requeued then
    report (.requeued queue group requeued)
    note (.requeued requeued)
  if 0 < purged then note (.purged purged)
  report (.selected requeued)
  return { requeued, purged }

theorem run_reportSweep (queue' group' : String) (requeued purged : Nat) (session : Session) :
    Session.attempts (Queue.reportSweep queue' group' requeued purged).run session = []
      ∧ ((Session.converse (Queue.reportSweep queue' group' requeued purged).run).run session).2.memory
        = session.memory
      ∧ ((Session.converse (Queue.reportSweep queue' group' requeued purged).run).run session).2.requeued queue
          group
        = session.requeued queue group + if queue' = queue ∧ group' = group then requeued else 0 := by
  unfold Queue.reportSweep
  by_cases hsome : 0 < requeued
  · simp only [if_pos hsome]
    split <;> exact ⟨rfl, rfl, Session.requeued_record_requeued queue' group' requeued⟩
  · obtain rfl : requeued = 0 := Nat.eq_zero_of_not_pos hsome
    simp only [if_neg hsome, ite_self]
    split <;> exact ⟨rfl, rfl, rfl⟩

/-- Once events have been requeued, they are counted, unless a purge fails. -/
theorem tallied_purge_report (hsound : session.memory.Sound) (q : Queue) (now : Instant) {queue' group' : String}
    {sets : List EventSet} (hsets : ∀ set ∈ sets, set.base = q.base) (hthree : sets.length = 3)
    {requeue : Attempt} {requeued : Nat}
    (hmoved : requeue.moved queue group = if queue' = queue ∧ group' = group then requeued else 0) :
    let rest := q.purgeEach now queue' sets >>= fun purged => Queue.reportSweep queue' group' requeued purged
    Tallied queue group session (requeue :: Session.attempts rest.run session)
      ((Session.converse rest.run).run session).2 := by
  intro rest
  let purged := ((Session.converse (q.purgeEach now queue' sets).run).run session).2
  have hstill := @still_purgeEach queue group session q now queue' sets
  have hpurged : Tallied queue group session (Session.attempts (q.purgeEach now queue' sets).run session) purged :=
    (tallies_purgeEach queue' sets).tallied session hsound
  have hcounted : purged.requeued queue group = session.requeued queue group := by
    have h := hpurged.counted
    rwa [Attempt.cutShortIn_of_still hstill, Attempt.movedIn_of_still hstill] at h
  have hcut := @cut_purgeEach session q now queue' sets hsets
  rw [hthree] at hcut
  rw [Session.attempts_andThen]
  -- with a failure the conversation is over, and else nothing is left but the report
  cases hreply : ((Session.converse (q.purgeEach now queue' sets).run).run session).1 with
  | error failure =>
      rw [Session.converse_andThen_of_error hreply]
      dsimp only
      rw [List.append_nil]
      exact .of_first false hpurged.sound hstill (fun more => by rw [hcut, hreply]; rfl) hcounted
  | ok count =>
      rw [Session.converse_andThen_of_ok hreply]
      obtain ⟨hnone, hmemory, hreported⟩ := @run_reportSweep queue group queue' group' requeued count purged
      dsimp only
      rw [hnone, List.append_nil]
      refine .of_first true ?_ hstill (fun more => by rw [hcut, hreply]; rfl) ?_
      · rw [hmemory]
        exact hpurged.sound
      · rw [hreported, hcounted, if_pos rfl, hmoved]

/-- **A sweep counts what it has moved, unless it is cut short.** -/
theorem tallies_sweep (q : Queue) (now : Instant) (queue' group' : String) :
    Tallies queue group (q.sweep now queue' group').run := by
  unfold Queue.sweep
  refine .requireName fun hq => .requireName fun hg => .within _ ⟨fun session hsound => ?_⟩
  have hqueue := colonFree_of_checkName hq
  have hgroup := colonFree_of_checkName hg
  let requeue := runPlan queue' .sweep (q.requeuePlan now (q.groupSets queue' group'))
  let sets := [(q.groupSets queue' group').available, (q.groupSets queue' group').redo,
    (q.groupSets queue' group').done]
  let body : Operation SweepReport := requeue >>= fun moved =>
    q.purgeEach now queue' sets >>= fun purged => Queue.reportSweep queue' group' moved.length purged
  show Tallied queue group session (Session.attempts body.run session) ((Session.converse body.run).run session).2
  let between := ((Session.converse requeue.run).run session).2
  -- the execution is reported, but that is not yet the report of what has been moved
  have hsound' : between.memory.Sound := Session.sound_answerStore hsound _
  have hcounted : between.requeued queue group = session.requeued queue group :=
    (Session.requeued_record rfl).trans (Session.requeued_answerStore _)
  have hattempts := Session.attempts_andThen requeue (fun moved =>
    q.purgeEach now queue' sets >>= fun purged => Queue.reportSweep queue' group' moved.length purged) session
  cases hreply : ((Session.converse requeue.run).run session).1 with
  | error failure =>
      have hfails := @fails_attempt_execute session queue' .sweep _ (valid_requeuePlan q now queue' group')
      rw [hreply] at hfails hattempts
      rw [hattempts, Session.converse_andThen_of_error hreply]
      refine .still hsound' (fun a ha => ?_) hcounted
      obtain rfl := List.mem_singleton.mp ha
      exact Attempt.moved_of_fails hfails
  | ok moved =>
      rw [hreply] at hattempts
      rw [hattempts, Session.converse_andThen_of_ok hreply]
      have hsets : ∀ set ∈ sets, set.base = q.base := by simp [sets, Queue.groupSets, Queue.eventSet]
      have hmoved := @moved_attempt_requeuePlan queue group session hsound q now _ _ hqueue hgroup moved hreply
      exact (tallied_purge_report hsound' q now hsets rfl hmoved).of_counted_eq hcounted

theorem tallies_sweepTargets (q : Queue) (now : Instant) (targets : List SweepTarget) :
    Tallies queue group (q.sweepTargets now targets) := by
  induction targets with
  | nil => exact .pure _
  | cons target targets ih =>
      refine .bind (tallies_sweep q now target.queue target.group) fun result => ?_
      cases result with
      | ok done => exact .bind (.pure _) fun own => .bind ih fun _ => .pure _
      | error failure =>
          exact .bind (.note _) fun _ => .bind (.pure _) fun own => .bind ih fun _ => .pure _

theorem tallies_tick (q : Queue) (now : Instant) (targets : List SweepTarget) :
    Tallies queue group (q.tick now targets) := by
  refine .bind (tallies_sweepTargets q now targets) fun swept => .bind (.ask nofun) fun reply => ?_
  cases reply with
  | ok count => exact .pure _
  | error failure => exact .bind (.note _) fun _ => .pure _

/-- The sweeper, by induction on the number of its rounds. -/
theorem tallies_runRounds (q : Queue) (now : Instant) (targets : List SweepTarget) (rounds : Nat) :
    Tallies queue group (q.runRounds now targets rounds) := by
  induction rounds with
  | zero => exact .note _
  | succ rounds ih =>
      refine .bind (tallies_tick q now targets) fun done => ?_
      split
      · exact ih
      · exact .bind (.note _) fun _ => ih

end Sweeps

/-! ## Requests and runs -/

section Requests

variable {queue group : String}

theorem tallies_add (q : Queue) (now : Instant) (cmd : AddCommand) : Tallies queue group (q.add now cmd).run := by
  unfold Queue.add
  refine .requireName fun _ => .choice (.throwThen _ _) (.within _ ?_)
  refine .andThen (.ask nofun) fun id => .andThen (.ask nofun) fun _ => ?_
  refine .andThen (.runPlan _ _ rfl) fun selected => ?_
  exact .reportThen rfl (.noteThen (.finish _))

theorem tallies_get (q : Queue) (now : Instant) (cmd : GetCommand) : Tallies queue group (q.get now cmd).run := by
  unfold Queue.get
  refine .requireName fun _ => .requireName fun _ => .within _ (.andThen (.runPlan _ _ rfl) fun selected => ?_)
  refine .reportThen rfl ?_
  cases selected.head? with
  | none => exact .noteThen (.finish _)
  | some id =>
      refine .andThen (.ask nofun) fun stored => ?_
      cases stored with
      | none => exact .throw _
      | some event => exact .noteThen (.finish _)

theorem tallies_ack (q : Queue) (now : Instant) (cmd : AckCommand) : Tallies queue group (q.ack now cmd).run := by
  unfold Queue.ack
  refine .requireName fun _ => .requireName fun _ => .within _ (.andThen (.runPlan _ _ rfl) fun selected => ?_)
  exact .reportThen rfl (.noteThen (.finish _))

theorem tallies_len (q : Queue) (now : Instant) (queue' : String) (role : Role) (group' : String) :
    Tallies queue group (q.len now queue' role group').run := by
  unfold Queue.len
  refine .requireName fun _ => ?_
  have hrest : Tallies queue group (do
      let selected ← runPlan queue' .len (q.lenPlan now queue' role group')
      return selected.length : Operation Nat).run := .andThen (.runPlan _ _ rfl) fun _ => .finish _
  exact .choice (.requireName fun _ => hrest) hrest

theorem tallies_request (q : Queue) (now : Instant) {request : Request} (hop : request.isOperation = true) :
    Tallies queue group (request.perform q now).run := by
  cases request with
  | add cmd => exact (tallies_add q now cmd).mapResult _
  | get cmd => exact (tallies_get q now cmd).mapResult _
  | ack cmd => exact (tallies_ack q now cmd).mapResult _
  | sweep queue' group' => exact (tallies_sweep q now queue' group').mapResult _
  | len queue' role group' => exact (tallies_len q now queue' role group').mapResult _
  | eventSet queue' role group' => exact .finish _
  | tick targets => exact ((tallies_tick q now targets).map _).map _
  | run targets interval rounds =>
      exact .map (.bind (.bind (.note _) fun _ => tallies_runRounds q now targets rounds) fun _ => .pure _) _
  | store call => contradiction

/-- A turn sets the clock and the calls that are to fail, and counts as its request does. -/
theorem tallied_turn {session : Session} (hsound : session.memory.Sound) {t : Turn}
    (hop : t.request.isOperation = true) :
    Tallied queue group session (session.turnAttempts t) (session.turn t).2 :=
  ((tallies_request t.queue t.now hop).tallied
    { session with now := t.now, faults := session.faults ++ t.faults } hsound).of_counted_eq rfl

/-- **So does a run**, by induction on its turns. -/
theorem tallied_run {session : Session} (hsound : session.memory.Sound) {turns : List Turn}
    (hop : ∀ t ∈ turns, t.request.isOperation = true) :
    Tallied queue group session (session.allAttempts turns)
      (turns.foldl (fun session t => (session.turn t).2) session) := by
  induction turns generalizing session with
  | nil => exact .none hsound rfl
  | cons t turns ih =>
      obtain ⟨ht, hturns⟩ := List.forall_mem_cons.mp hop
      have hturn : Tallied queue group session (session.turnAttempts t) (session.turn t).2 := tallied_turn hsound ht
      exact hturn.append (ih hturn.sound hturns)

end Requests

/-- **The events that are counted as requeued and those that sweeps have moved**, for every group and after every
    run, whichever calls fail. What a sweep has moved is counted once its three purges are over. If one of them
    fails, the sweep is cut short, and what it has moved is never counted. So the two agree if and only if no call
    fails among the next three after one that has moved events. -/
theorem requeued_unless_cut_short (turns : List Turn) (hop : ∀ t ∈ turns, t.request.isOperation = true)
    (queue group : String) :
    let session := Session.after turns
    let attempts := Session.fresh.allAttempts turns
    session.calls = (attempts.map Attempt.call).reverse
      ∧ session.requeued queue group + Attempt.cutShortIn queue group attempts = Attempt.movedIn queue group attempts
      ∧ (session.requeued queue group = Attempt.movedIn queue group attempts
        ↔ ∀ (earlier : List Attempt) (a : Attempt) (later : List Attempt), attempts = earlier ++ a :: later →
            a.moved queue group ≠ 0 → ∀ next ∈ later.take 3, next.fails = false) := by
  intro session attempts
  have htallied : Tallied queue group Session.fresh attempts session := tallied_run Memory.sound_fresh hop
  have hcounted : session.requeued queue group + Attempt.cutShortIn queue group attempts
      = Attempt.movedIn queue group attempts := htallied.counted.trans (Nat.zero_add _)
  refine ⟨Session.calls_after turns, hcounted, ?_⟩
  rw [← Attempt.cutShortIn_eq_zero_iff]
  omega

/-- An event is moved by two sweeps, and the second one is cut short: it is counted once. -/
theorem requeued_unless_cut_short_once :
    let turn (micros : Int) (request : Request) (faults : List PendingFault) : Turn :=
      { queue := {}, now := .ofMicros micros, request, faults }
    let get (micros deadline : Int) :=
      turn micros (.get { queue := "q", group := "g", deadline := some (.ofMicros deadline) }) []
    let turns := [turn 1000 (.add { queue := "q", expire := .ofMicros 5000, contents := "x" }) [], get 1000 2000,
      turn 2500 (.sweep "q" "g") [], get 2500 3000, turn 3500 (.sweep "q" "g") [⟨.execute, 2⟩]]
    let session := Session.after turns
    let attempts := Session.fresh.allAttempts turns
    (∀ t ∈ turns, t.request.isOperation = true)
      ∧ Attempt.movedIn "q" "g" attempts = 2 ∧ Attempt.cutShortIn "q" "g" attempts = 1
      ∧ session.requeued "q" "g" = 1 := by
  intro turn get turns session attempts
  have hop : ∀ t ∈ turns, t.request.isOperation = true := by decide
  have hmoved : Attempt.movedIn "q" "g" attempts = 2 := by decide +kernel
  have hcut : Attempt.cutShortIn "q" "g" attempts = 1 := by decide +kernel
  obtain ⟨-, hcounted, -⟩ := requeued_unless_cut_short turns hop "q" "g"
  rw [show Attempt.cutShortIn "q" "g" (Session.fresh.allAttempts turns) = 1 from hcut,
    show Attempt.movedIn "q" "g" (Session.fresh.allAttempts turns) = 2 from hmoved] at hcounted
  exact ⟨hop, hmoved, hcut, Nat.succ.inj hcounted⟩

/-- **An event that a sweep has moved may not be counted.** -/
theorem requeued_not_counted :
    let turn (micros : Int) (request : Request) (faults : List PendingFault) : Turn :=
      { queue := {}, now := .ofMicros micros, request, faults }
    let turns := [
      turn 1000 (.add { queue := "q", expire := .ofMicros 5000, contents := "x" }) [],
      turn 1000 (.get { queue := "q", group := "g", deadline := some (.ofMicros 2000) }) [],
      turn 3000 (.sweep "q" "g") [⟨.execute, 1⟩]]
    (Session.after turns).requeued "q" "g" = 0
      ∧ Attempt.movedIn "q" "g" (Session.fresh.allAttempts turns) = 1 := by
  decide +kernel

end GroupQueue
