import GroupQueue.Proofs.Plan.Footprint
import GroupQueue.Proofs.Queue.Sweep
import GroupQueue.Proofs.Session.Executions
import GroupQueue.Proofs.Session.Moves
import GroupQueue.Proofs.Store.Tight
import Mathlib.Data.List.Forall2

/-!
# `Proofs.Session.Sweeping` — what a sweep does, what it reports, and that it does it once

A sweep executes four plans: one requeues the overdue events of a group, and one each drops what has expired from
the shared set, from the events to be handed out again, and from those that are done. Plan by plan they do to the
sets of the group what `GroupContents.sweepSteps` says, and they leave everything else alone. So wherever a sweep
ends, the store is known, and so is the report of a sweep that comes to its end.

## Contents
- `Plan.Does`, `Memory.executeAll_does` — what plans do to the sets of a group.
- `Queue.sweepPlans`, `does_sweepPlans`, `executes_sweep` — the plans of a sweep.
- `Memory.eq_of_swept`, `Memory.executeAll_take_sweepPlans` — where sweeps end the same.
- `converse_purgeEach_count`, `converse_sweep_eq`, `converse_sweep` — what a sweep reports.
- `Session.canonical_after`, `Session.reply_of_sweep`, `Session.memory_of_sweep` — a turn that sweeps a group.
- `sweep_of_reachable` — the effect, the report and the idempotence of a sweep; `swept_across_namespaces`.
-/

namespace GroupQueue

/-! ## Plans that work on the sets of a group -/

/-- A plan does something to the sets of a group, and nothing to any other set. -/
def Plan.Does (sets : GroupSets) (plan : Plan) (step : GroupContents → GroupContents) : Prop :=
  ∀ memory : Memory, memory.Sound →
    GroupContents.of (memory.execute plan).2.sets.contents sets = step (.of memory.sets.contents sets)
      ∧ ∀ key ∉ sets.keys, (memory.execute plan).2.sets.contents key = memory.sets.contents key

section Plans

variable {q : Queue} {now : Instant} {queue group : String} {memory : Memory}

theorem Memory.Sound.executeAll (h : memory.Sound) (plans : List Plan) : (memory.executeAll plans).Sound := by
  induction plans generalizing memory with
  | nil => exact h
  | cons plan plans ih => exact ih (h.execute plan)

theorem Memory.Canonical.executeAll (h : memory.Canonical) (plans : List Plan) :
    (memory.executeAll plans).Canonical := by
  induction plans generalizing memory with
  | nil => exact h
  | cons plan plans ih => exact ih (h.execute plan)

/-- What some plans do one by one, they do together. -/
theorem Memory.executeAll_does {sets : GroupSets} {plans : List Plan} {steps : List (GroupContents → GroupContents)}
    (h : List.Forall₂ (Plan.Does sets) plans steps) (hsound : memory.Sound) :
    GroupContents.of (memory.executeAll plans).sets.contents sets
        = steps.foldl (fun g step => step g) (.of memory.sets.contents sets)
      ∧ ∀ key ∉ sets.keys, (memory.executeAll plans).sets.contents key = memory.sets.contents key := by
  induction h generalizing memory with
  | nil => exact ⟨rfl, fun _ _ => rfl⟩
  | cons hplan _ ih =>
      obtain ⟨hcontents, hframe⟩ := hplan memory hsound
      obtain ⟨hcontents', hframe'⟩ := ih (hsound.execute _)
      rw [Memory.executeAll_cons]
      refine ⟨?_, fun key hkey => ?_⟩
      · rw [hcontents', hcontents]
        rfl
      · rw [hframe' key hkey, hframe key hkey]

theorem does_requeuePlan (q : Queue) (now : Instant) (hqueue : ColonFree queue) (hgroup : ColonFree group) :
    (q.requeuePlan now (q.groupSets queue group)).Does (q.groupSets queue group) (·.requeue now) := by
  intro memory hsound
  obtain ⟨executed, after, heq, -, hcontents, hframe⟩ := Memory.execute_requeuePlan hsound q now hqueue hgroup
  rw [heq]
  exact ⟨hcontents, hframe⟩

theorem does_purgePlan (q : Queue) (now : Instant) (hqueue : ColonFree queue) (hgroup : ColonFree group)
    (role : Role) :
    (q.purgePlan now (q.eventSet queue role group)).Does (q.groupSets queue group) (·.purge now role) := by
  intro memory hsound
  obtain ⟨executed, after, heq, hafter⟩ := Memory.execute_purgePlan hsound q now queue role group
  rw [heq]
  constructor
  · -- of the sets of the group, only the one in the role has its key
    simp only [GroupContents.of, Queue.groupSets, hafter,
      key_eventSet_eq_iff_parts hqueue hgroup hqueue hgroup]
    cases role <;> simp [GroupContents.purge]
  · intro key hkey
    rw [hafter, if_neg]
    rintro rfl
    exact hkey ((q.mem_keys_iff hqueue hgroup hqueue hgroup).mpr ⟨rfl, Or.inr rfl⟩)

/-- A purge selects what has expired. -/
theorem acc_purgePlan (q : Queue) (now : Instant) (set : EventSet) (l : Ledger) :
    ((q.purgePlan now set).reference l).acc = ((l.contents set.key).expired now).members := by
  have hread : Position.reads ⟨l, []⟩ (.scoreRange set (ScoreRange.all.atMost now.score))
      = ((l.contents set.key).expired now).members := by
    rw [Position.reads, Position.admits_atMost]
    rfl
  simp only [Plan.reference, Queue.purgePlan, dropExpired, Step.pick, Position.run_select,
    Position.run_removeFrom, Position.run_nil, Position.take, Option.all_none, if_true,
    if_neg Bool.false_ne_true, Position.acc_removeFrom, hread]

/-- So that is what it counts. -/
theorem events_purgePlan (hsound : memory.Sound) (now : Instant) {set : EventSet} (hset : set.base = q.base) :
    ∃ executed, (memory.execute (q.purgePlan now set)).1 = .ok executed
      ∧ executed.events.length = ((memory.sets.contents set.key).expired now).size := by
  obtain ⟨executed, after, heq, -, hevents, -⟩ :=
    Memory.execute_of_valid hsound.sets (valid_purgePlan q now set hset)
  refine ⟨executed, by rw [heq], ?_⟩
  rw [hevents, acc_purgePlan, List.length_map, Contents.length_members, Sets.contents_ledger]

/-! ## The plans of a sweep -/

/-- The plans of a sweep, in order. -/
def Queue.sweepPlans (q : Queue) (now : Instant) (queue group : String) : List Plan :=
  let sets := q.groupSets queue group
  [q.requeuePlan now sets, q.purgePlan now sets.available, q.purgePlan now sets.redo, q.purgePlan now sets.done]

theorem does_sweepPlans (q : Queue) (now : Instant) (hqueue : ColonFree queue) (hgroup : ColonFree group) :
    List.Forall₂ (Plan.Does (q.groupSets queue group)) (q.sweepPlans now queue group)
      (GroupContents.sweepSteps now) :=
  .cons (does_requeuePlan q now hqueue hgroup) <|
    .cons (does_purgePlan q now hqueue hgroup .available) <|
      .cons (does_purgePlan q now hqueue hgroup .redo) <|
        .cons (does_purgePlan q now hqueue hgroup .done) .nil

/-- **Where a sweep has got to after some of its plans.** -/
theorem Memory.executeAll_sweepPlans (hsound : memory.Sound) (q : Queue) (now : Instant) (hqueue : ColonFree queue)
    (hgroup : ColonFree group) (n : Nat) :
    let sets := q.groupSets queue group
    let after := memory.executeAll ((q.sweepPlans now queue group).take n)
    GroupContents.of after.sets.contents sets = (GroupContents.of memory.sets.contents sets).sweptUpTo now n
      ∧ ∀ key ∉ sets.keys, after.sets.contents key = memory.sets.contents key :=
  Memory.executeAll_does (List.forall₂_take n (does_sweepPlans q now hqueue hgroup)) hsound

/-- What the sets of the group hold after a whole sweep, and all other sets. -/
theorem Memory.contents_of_swept (hsound : memory.Sound) (q : Queue) (now : Instant) (hqueue : ColonFree queue)
    (hgroup : ColonFree group) :
    let sets := q.groupSets queue group
    let last := memory.executeAll (q.sweepPlans now queue group)
    GroupContents.of last.sets.contents sets = (GroupContents.of memory.sets.contents sets).sweep now
      ∧ ∀ key ∉ sets.keys, last.sets.contents key = memory.sets.contents key := by
  intro sets last
  obtain ⟨hcontents, hframe⟩ := Memory.executeAll_sweepPlans hsound q now hqueue hgroup 4
  rw [GroupContents.sweptUpTo_of_le _ _ (Nat.le_refl 4)] at hcontents
  exact ⟨hcontents, hframe⟩

/-- **Where sweeps end the same.** Two stores that differ in the sets of one group at most are the same after a
    sweep of the group, if its sets are. -/
theorem Memory.eq_of_swept {a b : Memory} (ha : a.Canonical) (hb : b.Canonical) {q q' : Queue}
    (hbase : q.base = q'.base) (now : Instant) (hqueue : ColonFree queue) (hgroup : ColonFree group)
    (hsweep : (GroupContents.of a.sets.contents (q.groupSets queue group)).sweep now
      = (GroupContents.of b.sets.contents (q.groupSets queue group)).sweep now)
    (hframe : ∀ key ∉ (q.groupSets queue group).keys, a.sets.contents key = b.sets.contents key)
    (hpayloads : a.payloads = b.payloads) (hlast : a.lastId = b.lastId) :
    a.executeAll (q.sweepPlans now queue group) = b.executeAll (q'.sweepPlans now queue group) := by
  obtain ⟨hcontents, hkept⟩ := Memory.contents_of_swept ha.toSound q now hqueue hgroup
  obtain ⟨hcontents', hkept'⟩ := Memory.contents_of_swept hb.toSound q' now hqueue hgroup
  rw [← Queue.groupSets_of_base hbase] at hcontents' hkept'
  refine Memory.eq_of_contents (ha.executeAll _) (hb.executeAll _) (fun key => ?_) ?_ ?_
  · by_cases hkey : key ∈ (q.groupSets queue group).keys
    · refine GroupContents.eq_of_of_eq ?_ key hkey
      rw [hcontents, hcontents', hsweep]
    · rw [hkept key hkey, hkept' key hkey, hframe key hkey]
  · rw [Memory.payloads_executeAll, Memory.payloads_executeAll, hpayloads]
  · rw [Memory.lastId_executeAll, Memory.lastId_executeAll, hlast]

/-- **A sweep makes up for what another one has left undone**, at the same clock reading. -/
theorem Memory.executeAll_take_sweepPlans (hcanonical : memory.Canonical) {q q' : Queue} (hbase : q.base = q'.base)
    (now : Instant) (hqueue : ColonFree queue) (hgroup : ColonFree group) (n : Nat) :
    (memory.executeAll ((q.sweepPlans now queue group).take n)).executeAll (q'.sweepPlans now queue group)
      = memory.executeAll (q.sweepPlans now queue group) := by
  obtain ⟨hcontents, hframe⟩ := Memory.executeAll_sweepPlans hcanonical.toSound q now hqueue hgroup n
  rw [Queue.groupSets_of_base hbase] at hcontents hframe
  refine Memory.eq_of_swept (hcanonical.executeAll _) hcanonical hbase.symm now hqueue hgroup ?_ hframe
    (Memory.payloads_executeAll _) (Memory.lastId_executeAll _)
  rw [hcontents, GroupContents.sweep_sweptUpTo]

theorem executes_purgeEach (queue : String) {sets : List EventSet} (h : ∀ set ∈ sets, set.base = q.base) :
    Executes (sets.map (q.purgePlan now)) (q.purgeEach now queue sets) := by
  induction sets with
  | nil => exact .finish 0
  | cons set sets ih =>
      obtain ⟨hset, hsets⟩ := List.forall_mem_cons.mp h
      refine Executes.andThen (.runPlan queue .purge (valid_purgePlan q now set hset)) fun selected => ?_
      exact (ih hsets).andThenNothing fun purged => .finish (selected.length + purged)

/-- A sweep executes its plans, and makes no other calls. -/
theorem executes_sweep (q : Queue) (now : Instant) (hqueue : checkName "queue" queue = .ok ())
    (hgroup : checkName "group" group = .ok ()) :
    Executes (q.sweepPlans now queue group) (q.sweep now queue group) := by
  unfold Queue.sweep
  refine .requireName hqueue (.requireName hgroup (.within _ ?_))
  refine Executes.andThen (.runPlan _ _ (valid_requeuePlan q now queue group)) fun moved => ?_
  have hbase : ∀ set ∈ [(q.groupSets queue group).available, (q.groupSets queue group).redo,
      (q.groupSets queue group).done], set.base = q.base := by
    simp [Queue.groupSets]
  refine (executes_purgeEach queue hbase).andThenNothing fun purged => ?_
  have hrest : Executes [] (do
      report (.selected moved.length)
      return { requeued := moved.length, purged } : Operation SweepReport) :=
    .reportThen (.finish _)
  have hnoted : Executes [] (do
      if 0 < purged then note (.purged purged)
      report (.selected moved.length)
      return { requeued := moved.length, purged } : Operation SweepReport) :=
    .choice (.noteThen hrest) hrest
  exact .choice (.reportThen (.noteThen hnoted)) hnoted

/-! ## What a sweep reports -/

/-- Purging sets of different keys counts what has expired in each of them. -/
theorem Memory.converse_purgeEach_count (hsound : memory.Sound) (q : Queue) (now : Instant) (queue : String)
    {sets : List EventSet} (hbase : ∀ set ∈ sets, set.base = q.base) (hkeys : (sets.map EventSet.key).Nodup) :
    (memory.converse now (q.purgeEach now queue sets).run).1
      = .ok ((sets.map fun set => ((memory.sets.contents set.key).expired now).size).foldr (· + ·) 0) := by
  induction sets generalizing memory with
  | nil => rfl
  | cons set sets ih =>
      obtain ⟨hset, hsets⟩ := List.forall_mem_cons.mp hbase
      obtain ⟨hnew, hkeys⟩ := List.nodup_cons.mp hkeys
      obtain ⟨executed, hexecuted, hcount⟩ := events_purgePlan hsound now hset
      have hrest := ih (hsound.execute (q.purgePlan now set)) hsets hkeys
      -- the other sets are as they were
      have hother : (sets.map fun x =>
            (((memory.execute (q.purgePlan now set)).2.sets.contents x.key).expired now).size)
          = sets.map fun x => ((memory.sets.contents x.key).expired now).size := by
        refine List.map_congr_left fun x hx => ?_
        have hne : set.key ≠ x.key := fun heq => hnew (heq ▸ List.mem_map_of_mem hx)
        rw [Memory.contents_execute hsound.sets]
        intro written hwritten
        rw [List.mem_singleton.mp (show written ∈ [set] from hwritten)]
        exact hne
      rw [hother] at hrest
      rw [Queue.purgeEach, Memory.converse_andThen, Memory.converse_runPlan, hexecuted]
      dsimp only [Except.map]
      rw [Memory.converse_andThen]
      generalize (memory.execute (q.purgePlan now set)).2.converse now (q.purgeEach now queue sets).run = ended
        at hrest
      obtain ⟨result, last⟩ := ended
      dsimp only at hrest
      rw [hrest, List.map_cons, List.foldr_cons, ← hcount]
      rfl

/-- **What a sweep comes to when no call fails.** -/
theorem Memory.converse_sweep_eq (hsound : memory.Sound) (hqueue : checkName "queue" queue = .ok ())
    (hgroup : checkName "group" group = .ok ()) :
    memory.converse now (q.sweep now queue group).run
      = (.ok ((GroupContents.of memory.sets.contents (q.groupSets queue group)).sweepReport now),
        memory.executeAll (q.sweepPlans now queue group)) := by
  let sets := q.groupSets queue group
  let before := GroupContents.of memory.sets.contents sets
  have hq := colonFree_of_checkName hqueue
  have hg := colonFree_of_checkName hgroup
  -- the store is left as the plans leave it
  obtain ⟨a, hstore, -⟩ := (executes_sweep q now hqueue hgroup).passes { now, memory } fun n hn => by
    cases hn
  have hlast : (memory.converse now (q.sweep now queue group).run).2
      = memory.executeAll (q.sweepPlans now queue group) := congrArg Prod.snd hstore
  refine Prod.ext ?_ hlast
  obtain ⟨executed, requeued, heq, hevents, hcontents, -⟩ := execute_requeuePlan hsound q now hq hg
  have hrequeued : Memory.Sound { memory with sets := requeued } := hsound.of_execute heq
  have hkeys : ([sets.available, sets.redo, sets.done].map EventSet.key).Nodup := by
    have hne {role role' : Role} := @Queue.key_ne_of_role_ne q queue group hq hg role role'
    simp [sets, Queue.groupSets, hne]
  have hbase : ∀ set ∈ [sets.available, sets.redo, sets.done], set.base = q.base := by
    simp [sets, Queue.groupSets]
  have hcount := converse_purgeEach_count hrequeued q now queue hbase hkeys
  have havailable : requeued.contents sets.available.key = before.available :=
    congrArg GroupContents.available hcontents
  have hredo : requeued.contents sets.redo.key = (before.requeue now).redo :=
    congrArg GroupContents.redo hcontents
  have hdone : requeued.contents sets.done.key = before.done := congrArg GroupContents.done hcontents
  simp only [List.map_cons, List.map_nil, List.foldr_cons, List.foldr_nil, havailable, hredo, hdone] at hcount
  rw [Queue.sweep, converse_requireName hqueue, converse_requireName hgroup, converse_within, converse_andThen,
    converse_runPlan, heq]
  dsimp only [Except.map]
  rw [converse_andThen]
  generalize converse now (q.purgeEach now queue [sets.available, sets.redo, sets.done]).run
    { memory with sets := requeued } = ended at hcount ⊢
  obtain ⟨result, last⟩ := ended
  dsimp only at hcount
  rw [hcount, hevents]
  have hsum : (before.available.expired now).size
        + (((before.requeue now).redo.expired now).size + ((before.done.expired now).size + 0))
      = (before.sweepReport now).purged := by
    show _ = _ + _ + _
    omega
  rw [hsum]
  -- what is reported and noted does not matter
  dsimp only
  split <;> split <;> rfl

/-- What is requeued, and what the sets of the group hold then. -/
theorem Memory.converse_sweep (hsound : memory.Sound) (hqueue : checkName "queue" queue = .ok ())
    (hgroup : checkName "group" group = .ok ()) :
    let sets := q.groupSets queue group
    let before := GroupContents.of memory.sets.contents sets
    ∃ purged after, memory.converse now (q.sweep now queue group).run
        = (.ok { requeued := (before.overdue now).length, purged }, { memory with sets := after })
      ∧ GroupContents.of after.contents sets = before.sweep now := by
  intro sets before
  obtain ⟨hcontents, -⟩ := Memory.contents_of_swept hsound q now (colonFree_of_checkName hqueue)
    (colonFree_of_checkName hgroup)
  refine ⟨(before.sweepReport now).purged, (memory.executeAll (q.sweepPlans now queue group)).sets, ?_, hcontents⟩
  rw [Memory.converse_sweep_eq hsound hqueue hgroup, Memory.executeAll_eq]
  rfl

end Plans

/-! ## Turns -/

namespace Session

variable {session : Session} {turns : List Turn} {t : Turn} {queue group : String}

/-- A store is canonical in every state that a run can reach. -/
theorem canonical_after (hop : ∀ x ∈ turns, x.request.isOperation = true) : (after turns).memory.Canonical :=
  after_keeps Memory.canonical_fresh hop fun t _ call _ _ h => h.answer t.now call

theorem executes_of_sweep (hrequest : t.request = .sweep queue group)
    (hqueue : checkName "queue" queue = .ok ()) (hgroup : checkName "group" group = .ok ()) :
    Executes (t.queue.sweepPlans t.now queue group) (t.request.perform t.queue t.now) := by
  rw [hrequest]
  exact (executes_sweep t.queue t.now hqueue hgroup).mapResult _

/-- What the caller of a sweep is told: the report, unless one of the four executions is due to fail. -/
theorem reply_of_sweep (hsound : session.memory.Sound) (hrequest : t.request = .sweep queue group)
    (hqueue : checkName "queue" queue = .ok ()) (hgroup : checkName "group" group = .ok ()) :
    (session.turn t).1
      = if (PendingFault.due? .execute (session.faults ++ t.faults)).any (· < 4) then
          .error (.injected StoreMethod.execute.name)
        else
          .ok (.swept ((GroupContents.of session.memory.sets.contents
            (t.queue.groupSets queue group)).sweepReport t.now)) := by
  rw [reply_of_executes (executes_of_sweep hrequest hqueue hgroup), hrequest, Request.perform,
    Memory.converse_mapResult, Memory.converse_sweep_eq hsound hqueue hgroup]
  rfl

/-- What it leaves: the plans up to the one that fails have been executed. -/
theorem memory_of_sweep (hrequest : t.request = .sweep queue group)
    (hqueue : checkName "queue" queue = .ok ()) (hgroup : checkName "group" group = .ok ()) :
    (session.turn t).2.memory
      = session.memory.executeAll ((t.queue.sweepPlans t.now queue group).take
        ((PendingFault.due? .execute (session.faults ++ t.faults)).getD 4)) :=
  memory_of_executes (executes_of_sweep hrequest hqueue hgroup)

/-- A sweep that comes to its end has at least four executions left. -/
theorem not_due_of_swept (hsound : session.memory.Sound) (hrequest : t.request = .sweep queue group)
    (hqueue : checkName "queue" queue = .ok ()) (hgroup : checkName "group" group = .ok ())
    {report : SweepReport} (hreply : (session.turn t).1 = .ok (.swept report)) :
    ∀ n ∈ PendingFault.due? .execute (session.faults ++ t.faults), 4 ≤ n := by
  intro n hn
  rw [reply_of_sweep hsound hrequest hqueue hgroup] at hreply
  refine Nat.not_lt.mp fun hlt => ?_
  rw [if_pos ((Option.any_eq_true _ _).mpr ⟨n, hn, decide_eq_true hlt⟩)] at hreply
  cases hreply

/-- It has executed all of its plans, and reports what it has done. -/
theorem swept_of_reply (hsound : session.memory.Sound) (hrequest : t.request = .sweep queue group)
    (hqueue : checkName "queue" queue = .ok ()) (hgroup : checkName "group" group = .ok ())
    {report : SweepReport} (hreply : (session.turn t).1 = .ok (.swept report)) :
    report = (GroupContents.of session.memory.sets.contents (t.queue.groupSets queue group)).sweepReport t.now
      ∧ (session.turn t).2.memory = session.memory.executeAll (t.queue.sweepPlans t.now queue group) := by
  have hdue := not_due_of_swept hsound hrequest hqueue hgroup hreply
  constructor
  · rw [reply_of_sweep hsound hrequest hqueue hgroup] at hreply
    split at hreply
    · cases hreply
    · exact (Response.swept.inj (Except.ok.inj hreply)).symm
  · rw [memory_of_sweep hrequest hqueue hgroup]
    refine congrArg session.memory.executeAll (List.take_of_length_le ?_)
    cases hleft : PendingFault.due? .execute (session.faults ++ t.faults) with
    | none => exact Nat.le_refl 4
    | some n => exact hdue n hleft

end Session

/-- **What a sweep does in every state that a run can reach**, whichever services share the store. It succeeds unless
    one of its four executions is due to fail. Then the overdue events have moved from those in progress to those
    that are to be handed out again; what has expired has left the shared set, the events to be handed out again and
    those that are done; and nothing else has changed. It reports how many have moved, and how many have left. Scores
    are those of the events, provided that no namespace is another one with a queue attached, so what leaves is what
    has expired. The next sweep at the same clock reading has nothing to report, and changes nothing. -/
theorem sweep_of_reachable {turns : List Turn} (hop : ∀ x ∈ turns, x.request.isOperation = true) {t : Turn}
    {queue group : String} (hrequest : t.request = .sweep queue group)
    (hqueue : checkName "queue" queue = .ok ()) (hgroup : checkName "group" group = .ok ()) :
    let session := Session.after turns
    let last := (session.turn t).2
    let sets := t.queue.groupSets queue group
    let before := GroupContents.of session.memory.sets.contents sets
    let late := before.overdue t.now
    let redone := Contents.upsert before.redo (late.map Member.natural)
    let report : SweepReport :=
      { requeued := late.length
        purged := (before.available.expired t.now).size + (redone.expired t.now).size
          + (before.done.expired t.now).size
        payloadsPurged := 0 }
    (late.Nodup
      ∧ ∀ id, id ∈ late ↔ ∃ deadline, before.inProgressByAck[id]? = some deadline ∧ deadline < t.now.score)
    ∧ (session.turn t).1
        = (if (PendingFault.due? .execute (session.faults ++ t.faults)).any (· < 4) then
            .error (.injected StoreMethod.execute.name)
          else .ok (.swept report))
    ∧ (∀ told, (session.turn t).1 = .ok (.swept told) →
        GroupContents.of last.memory.sets.contents sets
            = { available := before.available.live t.now
                inProgressById := Contents.without before.inProgressById late
                inProgressByAck := Contents.without before.inProgressByAck late
                redo := redone.live t.now
                done := before.done.live t.now }
        ∧ report.purged + ((before.available.live t.now).size + (redone.live t.now).size
            + (before.done.live t.now).size)
          = before.available.size + redone.size + before.done.size
        ∧ (∀ key ∉ sets.keys, last.memory.sets.contents key = session.memory.sets.contents key)
        ∧ last.memory.payloads = session.memory.payloads ∧ last.memory.lastId = session.memory.lastId
        ∧ ∀ again : Turn, again.queue.base = t.queue.base → again.now = t.now → again.request = t.request →
            (last.turn again).1
                = (if (PendingFault.due? .execute (last.faults ++ again.faults)).any (· < 4) then
                    .error (.injected StoreMethod.execute.name)
                  else .ok (.swept {}))
              ∧ ((last.turn again).1 = .ok (.swept {}) → (last.turn again).2.memory = last.memory))
    ∧ before.redo.Natural ∧ before.done.Natural
    ∧ ((∀ x ∈ turns, x.queue.Apart t.queue) → before.available.Natural) := by
  intro session last sets before late redone report
  have hcanonical : session.memory.Canonical := Session.canonical_after hop
  have hq := colonFree_of_checkName hqueue
  have hg := colonFree_of_checkName hgroup
  have hreply := Session.reply_of_sweep hcanonical.toSound hrequest hqueue hgroup
  refine ⟨⟨Contents.nodup_ids _, fun id => GroupContents.mem_overdue_iff⟩, hreply, fun told hswept => ?_, ?_⟩
  · obtain ⟨-, hlast⟩ := Session.swept_of_reply hcanonical.toSound hrequest hqueue hgroup hswept
    obtain ⟨hcontents, hframe⟩ := Memory.contents_of_swept hcanonical.toSound t.queue t.now hq hg
    have hlate := before.without_overdue t.now
    refine ⟨?_, ?_, ?_, ?_, ?_, fun again hbase hnow hsame => ?_⟩
    · show GroupContents.of (session.turn t).2.memory.sets.contents sets = _
      rw [hlast, hcontents, hlate]
      rfl
    · have havailable := before.available.size_live_add_size_expired t.now
      have hredo := redone.size_live_add_size_expired t.now
      have hdone := before.done.size_live_add_size_expired t.now
      show _ + _ + _ + _ = _
      omega
    · show ∀ key ∉ sets.keys, (session.turn t).2.memory.sets.contents key = _
      rwa [hlast]
    · show (session.turn t).2.memory.payloads = _
      rw [hlast, Memory.payloads_executeAll]
    · show (session.turn t).2.memory.lastId = _
      rw [hlast, Memory.lastId_executeAll]
    · -- the group is swept, so it is left as it is
      have hcanonical' : last.memory.Canonical := by
        show (session.turn t).2.memory.Canonical
        rw [hlast]
        exact hcanonical.executeAll _
      have hagain : again.request = .sweep queue group := hsame.trans hrequest
      refine ⟨?_, fun hreply' => ?_⟩
      · rw [Session.reply_of_sweep hcanonical'.toSound hagain hqueue hgroup, hnow,
          Queue.groupSets_of_base hbase]
        show (if _ then _ else Except.ok (Response.swept ((GroupContents.of (session.turn t).2.memory.sets.contents
          sets).sweepReport t.now))) = _
        rw [hlast, hcontents, GroupContents.sweepReport_sweep]
      · obtain ⟨-, hlast'⟩ := Session.swept_of_reply hcanonical'.toSound hagain hqueue hgroup hreply'
        rw [hlast', hnow]
        show (session.turn t).2.memory.executeAll _ = (session.turn t).2.memory
        rw [hlast]
        exact Memory.executeAll_take_sweepPlans hcanonical hbase.symm t.now hq hg 4
  · exact ⟨Session.natural_own_after hop t.queue hq hg (by decide) (by decide),
      Session.natural_own_after hop t.queue hq hg (by decide) (by decide),
      fun hapart => Session.natural_apart_after hop t.queue hq hg (by decide) fun _ => hapart⟩

/-- Two events are overdue, and one of them has expired. Both are requeued, and the one leaves two sets, so two are
    counted twice over. The next sweep finds nothing to do. -/
theorem sweep_of_reachable_expired :
    let turn (micros : Int) (request : Request) : Turn := { queue := {}, now := .ofMicros micros, request }
    let add (micros : Int) := turn 1000 (.add { queue := "q", expire := .ofMicros micros, contents := "x" })
    let get := turn 1000 (.get { queue := "q", group := "g", deadline := some (.ofMicros 1500) })
    let turns := [add 3000, add 4000, add 9000, get, get]
    let sweep := turn 3500 (.sweep "q" "g")
    (∀ x ∈ turns, x.request.isOperation = true)
      ∧ sweep.request = .sweep "q" "g"
      ∧ checkName "queue" "q" = .ok () ∧ checkName "group" "g" = .ok ()
      ∧ ((Session.after turns).turn sweep).1 = .ok (.swept { requeued := 2, purged := 2 })
      ∧ ((Session.after turns).turn sweep).2.memory.payloads = (Session.after turns).memory.payloads
      ∧ (((Session.after turns).turn sweep).2.turn sweep).1 = .ok (.swept {})
      ∧ (((Session.after turns).turn sweep).2.turn sweep).2.memory
        = ((Session.after turns).turn sweep).2.memory := by
  intro turn add get turns sweep
  have hop : ∀ x ∈ turns, x.request.isOperation = true := by decide
  have hqueue : checkName "queue" "q" = .ok () := by decide
  have hgroup : checkName "group" "g" = .ok () := by decide
  have hreply : ((Session.after turns).turn sweep).1 = .ok (.swept { requeued := 2, purged := 2 }) := by
    decide +kernel
  have hagain : (((Session.after turns).turn sweep).2.turn sweep).1 = .ok (.swept {}) := by decide +kernel
  obtain ⟨-, -, hdone, -⟩ := sweep_of_reachable hop (t := sweep) rfl hqueue hgroup
  obtain ⟨-, -, -, hpayloads, -, hsecond⟩ := hdone _ hreply
  exact ⟨hop, rfl, hqueue, hgroup, hreply, hpayloads, hagain, (hsecond sweep rfl rfl rfl).2 hagain⟩

/-- **Where namespaces overlap, a sweep takes out what has not expired.** The shared set of its queue is also where
    a group in another namespace records until when an event is to be acknowledged. The event expires long after the
    sweep, but its deadline is over, so the sweep takes the event out of that set, and counts it as expired. -/
theorem swept_across_namespaces :
    let q : Queue := { base := "b" }
    let q' : Queue := { base := "b:p" }
    let turn (q : Queue) (micros : Int) (request : Request) : Turn :=
      { queue := q, now := .ofMicros micros, request }
    let turns := [turn q 1000 (.add { queue := "p", expire := .ofMicros 5000, contents := "x" }),
      turn q 1000 (.get { queue := "p", group := "available", deadline := some (.ofMicros 1500) })]
    let sweep := turn q' 2000 (.sweep "inprog_ack" "g")
    let available (turns : List Turn) := (Session.groupAfter q' "inprog_ack" "g" turns).available
    (∀ x ∈ turns, x.request.isOperation = true)
      ∧ checkName "queue" "inprog_ack" = .ok () ∧ checkName "group" "g" = .ok ()
      ∧ ((Session.after turns).turn sweep).1 = .ok (.swept { requeued := 0, purged := 1 })
      ∧ (available turns)[(⟨5000⟩ : EventId)]? = some 1500
      ∧ sweep.now.score < EventId.score ⟨5000⟩
      ∧ (⟨5000⟩ : EventId) ∉ available (turns ++ [sweep]) := by
  intro q q' turn turns sweep available
  exact ⟨by decide, by decide, by decide, by decide +kernel, by decide +kernel, by decide +kernel,
    by decide +kernel⟩

end GroupQueue
