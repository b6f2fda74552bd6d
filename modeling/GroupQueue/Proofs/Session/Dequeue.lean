import GroupQueue.Proofs.Session.Outcomes
import GroupQueue.Proofs.Session.Runs

/-!
# `Proofs.Session.Dequeue` — what a dequeue does in every state that a run can reach

The plan of a dequeue compares the newest event in progress with the newest one done, and takes each
for one event with one score. That is right because these sets hold natural scores only, in every state
that a run of a queue service can reach: the one scored set of a group never shares its key with them.

## Contents
- `Step.isNaturalAt`, `Position.natural_run` — steps that put no given scores under a key.
- `Session.natural_after` — natural scores in every reachable state, whatever handles took part;
  `natural_apart_after`, `natural_own_after`: those of a group.
- `dequeue_of_reachable` — the effect of the plan of a dequeue.
-/

namespace GroupQueue

/-! ## Steps that keep scores natural -/

/-- A step puts no given scores under a key. -/
def Step.isNaturalAt (key : String) : Step → Prop
  | .addTo sets (some _) => ∀ set ∈ sets, set.key ≠ key
  | _ => True

namespace Position

theorem natural_addTo {p : Position} {key : String} {sets : List EventSet} {score : Option Int}
    (hstep : Step.isNaturalAt key (.addTo sets score)) (h : (p.ledger.contents key).Natural) :
    ((p.addTo sets score).ledger.contents key).Natural := by
  obtain ⟨l, acc⟩ := p
  induction sets generalizing l with
  | nil => exact h
  | cons set sets ih =>
      have hput : ((Ledger.put l set.key
          (acc.map fun m => ⟨m.id, score.getD m.id.score⟩)).contents key).Natural := by
        rw [Ledger.contents_put]
        split
        · next hkey =>
          cases score with
          | none =>
              refine h.upsert fun m hm => ?_
              obtain ⟨x, -, rfl⟩ := List.mem_map.mp hm
              rfl
          | some score => exact absurd hkey (hstep set List.mem_cons_self)
        · exact h
      refine ih ?_ _ hput
      cases score with
      | none => trivial
      | some score => exact fun x hx => hstep x (List.mem_cons_of_mem _ hx)

theorem natural_removeFrom {p : Position} {key : String} (sets : List EventSet)
    (h : (p.ledger.contents key).Natural) : ((p.removeFrom sets).ledger.contents key).Natural := by
  obtain ⟨l, acc⟩ := p
  induction sets generalizing l with
  | nil => exact h
  | cons set sets ih =>
      refine ih (Ledger.drop l set.key (acc.map Member.id)) ?_
      show (Ledger.contents (Ledger.drop l set.key (acc.map Member.id)) key).Natural
      rw [Ledger.contents_drop]
      split
      · exact h.without _
      · exact h

theorem natural_run {p : Position} {key : String} {steps : List Step}
    (hsteps : ∀ step ∈ steps, step.isNaturalAt key) (h : (p.ledger.contents key).Natural) :
    ((p.run steps).ledger.contents key).Natural := by
  induction steps generalizing p with
  | nil => exact h
  | cons step rest ih =>
      obtain ⟨hstep, hrest⟩ := List.forall_mem_cons.mp hsteps
      cases step with
      | select choice =>
          rw [run_select]
          refine ih hrest ?_
          unfold take
          split <;> exact h
      | addTo sets score => exact ih hrest (natural_addTo hstep h)
      | removeFrom sets => exact ih hrest (natural_removeFrom sets h)
      | breakIf condition =>
          rw [run_breakIf]
          split
          · exact h
          · exact ih hrest h

end Position

/-- Under a key that no set scored by deadlines has, the plans of a queue put natural scores only. -/
theorem Queue.OwnPlan.isNaturalAt {q : Queue} {now : Instant} {plan : Plan} (h : q.OwnPlan now plan)
    {key : String} (hkey : ∀ queue group, ColonFree queue → ColonFree group →
      (q.eventSet queue .inProgressByAck group).key ≠ key) :
    ∀ step ∈ plan.steps, step.isNaturalAt key := by
  cases h with
  | add hqueue id => simp [Queue.addPlan, Step.pick, Step.isNaturalAt]
  | @get cmd hqueue hgroup =>
      have hack := hkey cmd.queue cmd.group hqueue hgroup
      cases hd : cmd.deadline <;>
        simp [Queue.getPlan, Queue.takeSteps, Queue.groupSets, dropExpired, Step.pick,
          Step.isNaturalAt, hd, hack]
  | ack hqueue hgroup => simp [Queue.ackPlan, Step.pick, Step.isNaturalAt]
  | requeue hqueue hgroup => simp [Queue.requeuePlan, Step.pick, Step.isNaturalAt]
  | purge queue role group => simp [Queue.purgePlan, dropExpired, Step.pick, Step.isNaturalAt]
  | len queue role group => simp [Queue.lenPlan, Step.pick, Step.isNaturalAt]

namespace Memory

theorem natural_execute {memory : Memory} (hsound : memory.Sound) {plan : Plan} {key : String}
    (hsteps : ∀ step ∈ plan.steps, step.isNaturalAt key) (h : (memory.sets.contents key).Natural) :
    ((memory.execute plan).2.sets.contents key).Natural := by
  cases hvalid : plan.validate with
  | error fault =>
      rw [execute_of_invalid hvalid]
      exact h
  | ok u =>
      obtain ⟨executed, sets, heq, -, -, hsets⟩ := execute_of_valid hsound.sets hvalid
      rw [heq]
      show (sets.contents key).Natural
      rw [hsets]
      exact Position.natural_run hsteps (by rwa [Sets.contents_ledger])

end Memory

namespace Session

variable {turns : List Turn}

/-- A store is sound in every state that a run can reach. -/
theorem sound_after (hop : ∀ t ∈ turns, t.request.isOperation = true) :
    (after turns).memory.Sound :=
  after_keeps Memory.sound_fresh hop fun t _ call _ _ h => h.answer t.now call

/-- So a turn keeps what the calls of its request keep of a sound store. -/
theorem turn_keeps_sound {I : Memory → Prop} {t : Turn}
    (hop : ∀ x ∈ turns, x.request.isOperation = true) (ht : t.request.isOperation = true)
    (hcall : ∀ call, t.request.Makes t.queue t.now call → ∀ memory, memory.Sound → I memory →
      I (memory.answer t.now call).2) (h : I (after turns).memory) : I (after (turns ++ [t])).memory := by
  refine (turn_keeps (I := fun memory => memory.Sound ∧ I memory) ht ?_ ⟨sound_after hop, h⟩).2
  rintro call hmakes memory ⟨hsound, hmemory⟩
  exact ⟨hsound.answer t.now call, hcall call hmakes memory hsound hmemory⟩

/-- **Natural scores in every reachable state**, under every key that no set scored by deadlines has in
    the namespaces of the run. -/
theorem natural_after (hop : ∀ t ∈ turns, t.request.isOperation = true) {key : String}
    (hkey : ∀ t ∈ turns, ∀ queue group, ColonFree queue → ColonFree group →
      (t.queue.eventSet queue .inProgressByAck group).key ≠ key) :
    ((after turns).memory.sets.contents key).Natural := by
  refine (after_keeps (I := fun memory => memory.Sound ∧ (memory.sets.contents key).Natural)
    ⟨Memory.sound_fresh, by rw [Sets.contents_fresh]; exact Contents.natural_empty⟩ hop ?_).2
  rintro t ht call hcall memory ⟨hsound, hnatural⟩
  refine ⟨hsound.answer t.now call, ?_⟩
  cases call with
  | execute plan => exact Memory.natural_execute hsound (hcall.isNaturalAt (hkey t ht)) hnatural
  | _ => exact hnatural

/-- The sets of a group that keep no deadlines hold natural scores in every reachable state; the shared
    set does so if no service of the run works in a namespace that overlaps with its own. -/
theorem natural_apart_after (hop : ∀ t ∈ turns, t.request.isOperation = true) (q : Queue)
    {queue group : String} (hqueue : ColonFree queue) (hgroup : ColonFree group) {role : Role}
    (hrole : role ≠ .inProgressByAck) (hapart : role = .available → ∀ t ∈ turns, t.queue.Apart q) :
    ((after turns).memory.sets.contents (q.eventSet queue role group).key).Natural := by
  refine natural_after hop fun t ht queue' group' hqueue' hgroup' hkey => ?_
  refine key_ne_ack hrole hqueue hqueue' hgroup hgroup' (fun hshared => ?_) hkey.symm
  exact (base_eq_of_key_eq (hapart hshared t ht) hqueue' hqueue hgroup' hgroup hkey).symm

/-- So the sets that a group has for itself do, whichever services share the store. -/
theorem natural_own_after (hop : ∀ t ∈ turns, t.request.isOperation = true) (q : Queue)
    {queue group : String} (hqueue : ColonFree queue) (hgroup : ColonFree group) {role : Role}
    (hrole : role ≠ .inProgressByAck) (hown : role ≠ .available) :
    ((after turns).memory.sets.contents (q.eventSet queue role group).key).Natural :=
  natural_apart_after hop q hqueue hgroup hrole fun hshared => absurd hshared hown

end Session

/-! ## The effect of a dequeue -/

/-- **What a dequeue does in every reachable state.** The plan is executed. The expired events leave the
    shared set and the group's sets with natural scores, the event that is next in turn is taken, and
    nothing else changes; the plan selects that event and no other. The next in turn is the least by score,
    which is the least event where scores are natural. In the sets that the group has for itself they always
    are; in the shared set they are if no service of the run works in a namespace that overlaps with this
    one. -/
theorem dequeue_of_reachable {turns : List Turn} (hop : ∀ t ∈ turns, t.request.isOperation = true)
    (q : Queue) (now : Instant) (cmd : GetCommand) (hqueue : checkName "queue" cmd.queue = .ok ())
    (hgroup : checkName "group" cmd.group = .ok ()) :
    let memory := (Session.after turns).memory
    let sets := q.groupSets cmd.queue cmd.group
    let before := GroupContents.of memory.sets.contents sets
    (∃ executed after, memory.execute (q.getPlan now cmd) = (.ok executed, { memory with sets := after })
      ∧ executed.events = (before.dropExpired now).next?.toList
      ∧ GroupContents.of after.contents sets = before.dequeue now cmd.deadline
      ∧ ∀ key ∉ sets.keys, after.contents key = memory.sets.contents key)
    ∧ before.redo.Natural ∧ before.done.Natural ∧ before.inProgressById.Natural
    ∧ ((∀ t ∈ turns, t.queue.Apart q) → before.available.Natural) := by
  intro memory sets before
  have hq := colonFree_of_checkName hqueue
  have hg := colonFree_of_checkName hgroup
  have hprogress : before.inProgressById.Natural := Session.natural_own_after hop q hq hg (by decide) (by decide)
  have hdone : before.done.Natural := Session.natural_own_after hop q hq hg (by decide) (by decide)
  have hredo : before.redo.Natural := Session.natural_own_after hop q hq hg (by decide) (by decide)
  have havailable (hapart : ∀ t ∈ turns, t.queue.Apart q) : before.available.Natural :=
    Session.natural_apart_after hop q hq hg (by decide) fun _ => hapart
  have hsound := Session.sound_after hop
  exact ⟨Memory.execute_getPlan hsound q now hq hg hprogress hdone, hredo, hdone, hprogress, havailable⟩

/-- Of two events, the first in progress, the second is taken next. -/
theorem dequeue_of_reachable_second :
    let q : Queue := {}
    let now := Instant.ofMicros 1000
    let add (micros : Int) : Turn :=
      { queue := q, now, request := .add { queue := "q", expire := .ofMicros micros, contents := "x" } }
    let cmd : GetCommand := { queue := "q", group := "g", deadline := some (.ofMicros 9000) }
    let turns := [add 5000, add 6000, { queue := q, now, request := .get cmd }]
    let memory := (Session.after turns).memory
    let sets := q.groupSets cmd.queue cmd.group
    (∀ t ∈ turns, t.request.isOperation = true) ∧ checkName "queue" cmd.queue = .ok ()
      ∧ checkName "group" cmd.group = .ok ()
      ∧ ∃ executed after, memory.execute (q.getPlan now cmd) = (.ok executed, { memory with sets := after })
        ∧ executed.events = [⟨6000⟩]
        ∧ GroupContents.of after.contents sets
          = (GroupContents.of memory.sets.contents sets).dequeue now cmd.deadline := by
  intro q now add cmd turns memory sets
  have hop : ∀ t ∈ turns, t.request.isOperation = true := by decide
  have hqueue : checkName "queue" cmd.queue = .ok () := by decide +kernel
  have hgroup : checkName "group" cmd.group = .ok () := by decide +kernel
  have hrun : (memory.execute (q.getPlan now cmd)).1.toOption.map Executed.events = some [⟨6000⟩] := by
    decide +kernel
  obtain ⟨⟨executed, after, heq, -, hcontents, -⟩, -⟩ := dequeue_of_reachable hop q now cmd hqueue hgroup
  have hevents : executed.events = [⟨6000⟩] := by
    rw [heq] at hrun
    exact Option.some.inj hrun
  exact ⟨hop, hqueue, hgroup, executed, after, heq, hevents, hcontents⟩

end GroupQueue
