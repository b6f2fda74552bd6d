import GroupQueue.Proofs.Plan.Footprint
import GroupQueue.Proofs.Session.Dequeue

/-!
# `Proofs.Session.Foreign` — what requests do to sets that are not theirs

A request for one group writes to the group's own sets and to the set that its queue shares. Any other set
it leaves alone, under whichever key it is held: the key of a shared set in one namespace may be that of a
group's own set in another. All that a shared set can lose is what has expired. So seen at the clock
reading of the request, a set that is not a group's own has the same live events before and after, unless
an event is added to it.

## Contents
- `Request.concerns` — the groups whose own sets a request is about.
- `Request.Makes.writes`, `Request.Makes.contents` — the sets that the calls of a request write to, and
  those that they leave alone.
- `Request.Makes.live` — what they leave of a set that no group has for its own.
-/

namespace GroupQueue

/-- Whether a request is about the own sets of a group. -/
def Request.concerns (queue group : String) (request : Request) : Prop :=
  request.gets queue group ∨ request.acks queue group ∨ request.sweeps queue group

/-- The own sets of a group: those that it does not share. -/
def GroupSets.own (sets : GroupSets) : List EventSet :=
  [sets.inProgressById, sets.inProgressByAck, sets.redo, sets.done]

theorem Queue.mem_own_iff {q : Queue} {queue group : String} {set : EventSet} :
    set ∈ (q.groupSets queue group).own ↔ ∃ role ≠ .available, set = q.eventSet queue role group := by
  constructor
  · intro h
    simp only [GroupSets.own, groupSets, List.mem_cons, List.not_mem_nil, or_false] at h
    rcases h with rfl | rfl | rfl | rfl
    all_goals exact ⟨_, by decide, rfl⟩
  · rintro ⟨role, hrole, rfl⟩
    cases role <;> simp_all [GroupSets.own, groupSets]

/-- The own sets of two groups have different keys, even if the groups are of different services. -/
theorem Queue.key_ne_of_mem_own {q q' : Queue} {queue group queue' group' : String}
    (hqueue : ColonFree queue) (hgroup : ColonFree group) (hqueue' : ColonFree queue')
    (hgroup' : ColonFree group') (hother : ¬ (q'.base = q.base ∧ queue' = queue ∧ group' = group))
    {role : Role} (hrole : role ≠ .available) :
    ∀ set ∈ (q'.groupSets queue' group').own, set.key ≠ (q.eventSet queue role group).key := by
  intro set hset hkey
  obtain ⟨role', hrole', rfl⟩ := mem_own_iff.mp hset
  obtain ⟨hbase, hq, -, hg⟩ :=
    perGroup_of_key_eq (Role.isPerGroup_iff.mpr hrole') (Role.isPerGroup_iff.mpr hrole) hqueue' hqueue
      hgroup' hgroup hkey
  exact hother ⟨hbase, hq, hg⟩

/-! ## Plans -/

section Plans

variable (q : Queue) (now : Instant)

/-- Once the expired events are dropped, a dequeue writes to the own sets of its group. -/
theorem Queue.writes_chooseSteps (sets : GroupSets) (deadline : Option Instant) :
    ∀ set ∈ (chooseSteps sets now deadline).flatMap Step.writes, set ∈ sets.own := by
  cases deadline <;>
    simp [chooseSteps, nextSteps, firstSteps, takeSteps, Step.pick, Step.writes, GroupSets.own]

/-- A dequeue draws from the sets with natural scores. -/
theorem Queue.draws_getPlan (cmd : GetCommand) :
    ∀ set ∈ (q.getPlan now cmd).draws, ∃ role, set = q.eventSet cmd.queue role cmd.group := by
  have hdraws : ∀ set ∈ (q.getPlan now cmd).draws,
      set ∈ [Role.available, .redo, .done, .inProgressById].map fun role =>
        q.eventSet cmd.queue role cmd.group := by
    rw [Plan.draws, Queue.steps_getPlan]
    cases cmd.deadline <;>
      simp [dropExpired, chooseSteps, nextSteps, firstSteps, takeSteps, Step.pick, Step.draws,
        Selection.set?, Selection.first, Queue.groupSets]
  intro set hset
  obtain ⟨role, -, rfl⟩ := List.mem_map.mp (hdraws set hset)
  exact ⟨role, rfl⟩

/-- It writes to them, to drop what has expired, and to the own sets of its group. -/
theorem Queue.writes_getPlan (cmd : GetCommand) :
    ∀ set ∈ (q.getPlan now cmd).writes, ∃ role, set = q.eventSet cmd.queue role cmd.group := by
  intro set hset
  rw [Plan.writes, Queue.steps_getPlan, List.flatMap_append, List.mem_append] at hset
  rcases hset with hset | hset
  · have hdropped : set ∈ [Role.available, .redo, .done, .inProgressById].map fun role =>
        q.eventSet cmd.queue role cmd.group := hset
    obtain ⟨role, -, rfl⟩ := List.mem_map.mp hdropped
    exact ⟨role, rfl⟩
  · obtain ⟨role, -, rfl⟩ := Queue.mem_own_iff.mp (Queue.writes_chooseSteps now _ _ set hset)
    exact ⟨role, rfl⟩

theorem Queue.writes_ackPlan (cmd : AckCommand) :
    ∀ set ∈ (q.ackPlan now cmd).writes, set ∈ (q.groupSets cmd.queue cmd.group).own := by
  simp [Plan.writes, Queue.ackPlan, Step.pick, Step.writes, GroupSets.own]

theorem Queue.writes_requeuePlan (sets : GroupSets) :
    ∀ set ∈ (q.requeuePlan now sets).writes, set ∈ sets.own := by
  simp [Plan.writes, Queue.requeuePlan, Step.pick, Step.writes, GroupSets.own]

/-- A dequeue leaves the live events of any set that is not its group's own. -/
theorem live_getPlan (l : Ledger) {cmd : GetCommand} {key : String}
    (hkey : ∀ set ∈ (q.groupSets cmd.queue cmd.group).own, set.key ≠ key) :
    (((q.getPlan now cmd).reference l).ledger.contents key).live now = (l.contents key).live now := by
  obtain ⟨p', hdrop, hview⟩ := Position.run_dropExpired ⟨l, []⟩ now
    [(q.groupSets cmd.queue cmd.group).available, (q.groupSets cmd.queue cmd.group).redo,
      (q.groupSets cmd.queue cmd.group).done, (q.groupSets cmd.queue cmd.group).inProgressById]
    (Queue.chooseSteps (q.groupSets cmd.queue cmd.group) now cmd.deadline)
  rw [Plan.reference, Queue.steps_getPlan, hdrop, Position.contents_run, hview]
  · split
    · exact Contents.live_live _ now
    · rfl
  · intro set hset
    exact hkey set (Queue.writes_chooseSteps now _ _ set hset)

end Plans

/-! ## Requests -/

namespace Request.Makes

variable {q : Queue} {now : Instant} {request : Request} {call : StoreCall} {key : String}
  {memory : Memory}

/-- The sets that a plan writes to are sets of one queue, and so are those that it draws from for that. -/
theorem onQueue {plan : Plan} (h : request.Makes q now (.execute plan)) :
    ∃ queue,
      (∀ set ∈ plan.writes, ∃ role group, ColonFree queue ∧ ColonFree group
        ∧ set = q.eventSet queue role group)
      ∧ (plan.writes ≠ [] → ∀ set ∈ plan.draws, ∃ role group, ColonFree group
        ∧ set = q.eventSet queue role group) := by
  -- a plan that works on the sets of a group works on sets of its queue
  have hgroupSets {queue group : String} (hqueue : ColonFree queue) (hgroup : ColonFree group) {plan : Plan}
      (hwrites : ∀ set ∈ plan.writes, ∃ role, set = q.eventSet queue role group)
      (hdraws : ∀ set ∈ plan.draws, ∃ role, set = q.eventSet queue role group) :
      ∃ queue,
        (∀ set ∈ plan.writes, ∃ role group, ColonFree queue ∧ ColonFree group
          ∧ set = q.eventSet queue role group)
        ∧ (plan.writes ≠ [] → ∀ set ∈ plan.draws, ∃ role group, ColonFree group
          ∧ set = q.eventSet queue role group) := by
    refine ⟨queue, fun set hset => ?_, fun _ set hset => ?_⟩
    · obtain ⟨role, rfl⟩ := hwrites set hset
      exact ⟨role, group, hqueue, hgroup, rfl⟩
    · obtain ⟨role, rfl⟩ := hdraws set hset
      exact ⟨role, group, hgroup, rfl⟩
  have hown {queue group : String} {set : EventSet} (hset : set ∈ (q.groupSets queue group).own) :
      ∃ role, set = q.eventSet queue role group := by
    obtain ⟨role, -, rfl⟩ := Queue.mem_own_iff.mp hset
    exact ⟨role, rfl⟩
  cases h with
  | @add cmd hqueue id =>
      refine @hgroupSets _ "" hqueue (by decide) _ (fun set hset => ?_) fun set hset => ?_
      · exact ⟨.available, List.mem_singleton.mp hset⟩
      · exact absurd hset List.not_mem_nil
  | get hqueue hgroup =>
      exact hgroupSets hqueue hgroup (Queue.writes_getPlan q now _) (Queue.draws_getPlan q now _)
  | @ack cmd hqueue hgroup =>
      refine hgroupSets hqueue hgroup (fun set hset => hown (Queue.writes_ackPlan q now _ set hset)) ?_
      exact fun set hset => ⟨.inProgressByAck, List.mem_singleton.mp hset⟩
  | @requeue request queue group hqueue hgroup h =>
      refine hgroupSets hqueue hgroup (fun set hset => hown (Queue.writes_requeuePlan q now _ set hset)) ?_
      exact fun set hset => ⟨.inProgressByAck, List.mem_singleton.mp hset⟩
  | @purge request queue group hqueue hgroup h role =>
      refine hgroupSets hqueue hgroup (fun set hset => ?_) fun set hset => ?_
      all_goals exact ⟨role, List.mem_singleton.mp hset⟩
  | len queue role group =>
      exact ⟨queue, fun set hset => absurd hset List.not_mem_nil, fun hnone => absurd rfl hnone⟩

/-- The sets that a plan writes to are sets of its service. -/
theorem writes {plan : Plan} (h : request.Makes q now (.execute plan)) :
    ∀ set ∈ plan.writes, ∃ queue role group, ColonFree queue ∧ ColonFree group
      ∧ set = q.eventSet queue role group := by
  intro set hset
  obtain ⟨queue, hwrites, -⟩ := h.onQueue
  obtain ⟨role, group, hqueue, hgroup, rfl⟩ := hwrites set hset
  exact ⟨queue, role, group, hqueue, hgroup, rfl⟩

/-- **A call leaves alone what is not a set of its queue.** -/
theorem contents (h : request.Makes q now call)
    (hkey : ∀ queue role group, ColonFree queue → ColonFree group →
      (q.eventSet queue role group).key ≠ key) (hsound : memory.Sound) :
    (memory.answer now call).2.sets.contents key = memory.sets.contents key := by
  cases call with
  | execute plan =>
      refine Memory.contents_execute hsound.sets fun set hset => ?_
      obtain ⟨queue, role, group, hqueue, hgroup, rfl⟩ := h.writes set hset
      exact hkey queue role group hqueue hgroup
  | _ => rfl

/-- **A call leaves the live events of a set that no group which it concerns has for its own**, unless it is
    made to add one. -/
theorem live (h : request.Makes q now call) (hadd : ∀ cmd, request ≠ .add cmd)
    (hkey : ∀ queue group, ColonFree queue → ColonFree group → request.concerns queue group →
      ∀ set ∈ (q.groupSets queue group).own, set.key ≠ key) (hsound : memory.Sound) :
    ((memory.answer now call).2.sets.contents key).live now = (memory.sets.contents key).live now := by
  cases call with
  | execute plan =>
      have hread : ∀ l : Ledger,
          ((plan.reference l).ledger.contents key).live now = (l.contents key).live now := by
        intro l
        cases h with
        | add hqueue id => exact absurd rfl (hadd _)
        | get hqueue hgroup =>
            exact live_getPlan q now l (hkey _ _ hqueue hgroup (Or.inl ⟨rfl, rfl⟩))
        | @ack cmd hqueue hgroup =>
            have hown := hkey cmd.queue cmd.group hqueue hgroup (Or.inr (Or.inl ⟨rfl, rfl⟩))
            rw [Plan.reference, Position.contents_run]
            exact fun set hset => hown set (Queue.writes_ackPlan q now cmd set hset)
        | requeue hqueue hgroup hsweeps =>
            have hown := hkey _ _ hqueue hgroup (Or.inr (Or.inr hsweeps))
            rw [Plan.reference, Position.contents_run]
            exact fun set hset => hown set (Queue.writes_requeuePlan q now _ set hset)
        | purge hqueue hgroup hsweeps role =>
            rw [reference_purgePlan]
            split
            · exact Contents.live_live _ now
            · rfl
        | len queue role group => rw [reference_lenPlan]
      show ((memory.execute plan).2.sets.contents key).live now = _
      rcases Memory.contents_execute_cases hsound.sets plan with heq | hcontents
      · rw [heq]
      · rw [hcontents, hread, Sets.contents_ledger]
  | _ => rfl

end Request.Makes

end GroupQueue
