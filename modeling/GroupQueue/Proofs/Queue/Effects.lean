import GroupQueue.Proofs.Plan.Refinement
import GroupQueue.Proofs.Queue.Dequeue

/-!
# `Proofs.Queue.Effects` — what the plans of a queue do to the sets of a group

Every plan of a queue names sets of its own namespace only, so none is refused (`valid_getPlan` and its
siblings). Read over plain maps, each plan does to the sets of the group it is about what
`GroupContents` says, and leaves every other set alone.

## Contents
- `Plan.validate_of_mentions` — when a plan validates; `valid_addPlan`, `valid_getPlan`, `valid_ackPlan`,
  `valid_requeuePlan`, `valid_purgePlan`, `valid_lenPlan`.
- `reference_addPlan`, `reference_purgePlan`, `reference_ackPlan`, `reference_requeuePlan`,
  `reference_lenPlan` — the readings (for `getPlan` see `reference_getPlan`).
-/

namespace GroupQueue

/-! ## No plan is refused -/

/-- What holds of the sets that each step names holds of the sets of the plan. -/
theorem Plan.forall_sets_of_mentions {plan : Plan} {p : EventSet → Prop}
    (h : ∀ step ∈ plan.steps, ∀ set ∈ step.mentions, p set) : ∀ set ∈ plan.sets, p set := by
  intro set hset
  obtain ⟨step, hstep, hmention⟩ := Plan.mem_sets.mp hset
  exact h step hstep set hmention

/-- A plan validates if each of its steps names sets of the plan's namespace only. -/
theorem Plan.validate_of_mentions {plan : Plan}
    (h : ∀ step ∈ plan.steps, ∀ set ∈ step.mentions, set.base = plan.base) : plan.validate = .ok () :=
  Plan.validate_eq_ok_iff.mpr (Plan.forall_sets_of_mentions h)

section Valid

variable (q : Queue) (now : Instant)

@[simp] theorem Queue.base_eventSet (queue : String) (role : Role) (group : String) :
    (q.eventSet queue role group).base = q.base := rfl

theorem valid_addPlan (queue : String) (id : EventId) : (q.addPlan now queue id).validate = .ok () :=
  Plan.validate_of_mentions (by simp [Queue.addPlan, Step.pick, Step.mentions, Selection.set?])

theorem valid_getPlan (cmd : GetCommand) : (q.getPlan now cmd).validate = .ok () := by
  refine Plan.validate_of_mentions ?_
  cases hd : cmd.deadline <;>
    simp [Queue.getPlan, Queue.takeSteps, dropExpired, Queue.groupSets, hd, Step.pick, Step.mentions,
      Selection.first, Selection.set?, Condition.mentions, Condition.mentionsOfAll]

theorem valid_ackPlan (cmd : AckCommand) : (q.ackPlan now cmd).validate = .ok () :=
  Plan.validate_of_mentions (by
    simp [Queue.ackPlan, Queue.groupSets, Step.pick, Step.mentions, Selection.set?, Condition.mentions])

theorem valid_requeuePlan (queue group : String) :
    (q.requeuePlan now (q.groupSets queue group)).validate = .ok () :=
  Plan.validate_of_mentions (by
    simp [Queue.requeuePlan, Queue.groupSets, Step.pick, Step.mentions, Selection.set?])

theorem valid_purgePlan (set : EventSet) (hset : set.base = q.base) :
    (q.purgePlan now set).validate = .ok () :=
  Plan.validate_of_mentions (by
    simp [Queue.purgePlan, dropExpired, Step.pick, Step.mentions, Selection.set?, hset])

theorem valid_lenPlan (queue : String) (role : Role) (group : String) :
    (q.lenPlan now queue role group).validate = .ok () :=
  Plan.validate_of_mentions (by simp [Queue.lenPlan, Step.pick, Step.mentions, Selection.set?])

end Valid

/-! ## The readings -/

section Readings

variable (q : Queue) (now : Instant) (l : Ledger)

/-- Adding an event puts it into the shared set of its queue. -/
theorem reference_addPlan (queue : String) (id : EventId) (key : String) :
    ((q.addPlan now queue id).reference l).ledger.contents key
      = if (q.eventSet queue .available "").key = key then (l.contents key).insert id id.score
        else l.contents key := by
  rw [Plan.reference, Queue.addPlan]
  simp only [Step.pick, Position.run_select, Position.run_addTo, Position.run_nil, Position.take,
    Option.all_none, if_true, if_neg Bool.false_ne_true]
  rw [Position.contents_addTo]
  rfl

/-- Purging a set leaves its live events. -/
theorem reference_purgePlan (set : EventSet) (key : String) :
    ((q.purgePlan now set).reference l).ledger.contents key
      = if set.key = key then (l.contents key).live now else l.contents key := by
  obtain ⟨p', hrun, hview⟩ := Position.run_dropExpired ⟨l, []⟩ now [set] []
  rw [List.append_nil, Position.run_nil] at hrun
  have hfinal : (q.purgePlan now set).reference l = p' := by
    rw [← hrun]
    simp [Plan.reference, Queue.purgePlan]
  rw [hfinal, hview]
  simp [eq_comm]

/-- Counting selects the live events of a set, and changes nothing. -/
theorem reference_lenPlan (queue : String) (role : Role) (group : String) :
    (q.lenPlan now queue role group).reference l
      = ⟨l, ((l.contents (q.eventSet queue role group).key).live now).members⟩ := by
  have hadmits : Position.admits ⟨l, []⟩ (ScoreRange.above now.score)
      = fun score => decide (now.score < score) := by
    funext score
    simp [Position.admits, ScoreRange.above, Bound.isBelow, Bound.isAbove]
  have hread : Position.reads ⟨l, []⟩
        (.scoreRange (q.eventSet queue role group) (ScoreRange.above now.score))
      = ((l.contents (q.eventSet queue role group).key).live now).members := by
    rw [Position.reads, hadmits]
    rfl
  simp only [Plan.reference, Queue.lenPlan, Step.pick, Position.run_select, Position.run_nil,
    Position.take, Option.all_none, if_true, if_neg Bool.false_ne_true, hread]

/-- **Acknowledging, on plain maps.** The event is selected and counts as done if its deadline has not
    passed, and nothing happens otherwise. -/
theorem reference_ackPlan {cmd : AckCommand} (hqueue : ColonFree cmd.queue) (hgroup : ColonFree cmd.group) :
    let sets := q.groupSets cmd.queue cmd.group
    let before := GroupContents.of l.contents sets
    let final := (q.ackPlan now cmd).reference l
    final.acc.map Member.id = (if before.inTime now cmd.event then [cmd.event] else [])
      ∧ GroupContents.of final.ledger.contents sets = before.settle now cmd.event
      ∧ ∀ key ∉ sets.keys, final.ledger.contents key = l.contents key := by
  intro sets before final
  have hkeys : sets.keys.Nodup := q.nodup_keys hqueue hgroup
  simp only [GroupSets.keys, List.nodup_cons, List.mem_cons, not_or] at hkeys
  have hfinal : final = Position.run ⟨l, Position.reads ⟨l, []⟩
        (.scoreOf sets.inProgressByAck cmd.event (some now.score) none)⟩ [
      .breakIf .ifNoInput,
      .removeFrom [sets.inProgressById, sets.inProgressByAck],
      .addTo [sets.done] none] := by
    simp only [final, Plan.reference, Queue.ackPlan, Step.pick, Position.run_select, Position.take,
      Option.all_none, if_true, if_neg Bool.false_ne_true]
    rfl
  -- the plan goes on beyond its break only for an event in progress with a deadline still to come
  cases hscore : before.inProgressByAck[cmd.event]? with
  | none =>
      have hin : before.inTime now cmd.event = false := by rw [GroupContents.inTime, hscore]; rfl
      have hread : Position.reads ⟨l, []⟩ (.scoreOf sets.inProgressByAck cmd.event (some now.score) none)
          = [] := by
        have hnone : (l.contents sets.inProgressByAck.key)[cmd.event]? = none := hscore
        rw [Position.reads, hnone]
      have hstay : final = ⟨l, []⟩ := by rw [hfinal, hread]; rfl
      rw [hstay, GroupContents.settle, hin]
      exact ⟨rfl, rfl, fun _ _ => rfl⟩
  | some deadline =>
      have hsome : (l.contents sets.inProgressByAck.key)[cmd.event]? = some deadline := hscore
      have hin : before.inTime now cmd.event = decide (now.score ≤ deadline) := by
        rw [GroupContents.inTime, hscore]
        rfl
      rw [Position.reads, hsome] at hfinal
      by_cases hle : now.score ≤ deadline
      · have htaken : final = ((Position.mk l [⟨cmd.event, deadline⟩]).removeFrom
            [sets.inProgressById, sets.inProgressByAck]).addTo [sets.done] none := by
          simp [hfinal, hle, Position.run_breakIf, Position.satisfies, Position.run_removeFrom,
            Position.run_addTo]
        rw [htaken, GroupContents.settle, hin]
        refine ⟨by simp [hle], ?_, fun key hkey => ?_⟩
        · simp [GroupContents.of, Position.contents_addTo, Position.removeFrom_pair,
            Position.contents_removeFrom, hle, hkeys, Contents.upsert, Contents.without, before, eq_comm]
        · simp only [GroupSets.keys, List.mem_cons, not_or] at hkey
          simp [Position.contents_addTo, Position.removeFrom_pair,
            Position.contents_removeFrom, hkey, eq_comm]
      · have hstay : final = ⟨l, []⟩ := by
          simp [hfinal, hle, Position.run_breakIf, Position.satisfies]
        rw [hstay, GroupContents.settle, hin]
        simp [hle, before]

/-- **Requeueing, on plain maps.** -/
theorem reference_requeuePlan {queue group : String} (hqueue : ColonFree queue) (hgroup : ColonFree group) :
    let sets := q.groupSets queue group
    let before := GroupContents.of l.contents sets
    let final := (q.requeuePlan now sets).reference l
    final.acc.map Member.id = before.overdue now
      ∧ GroupContents.of final.ledger.contents sets = before.requeue now
      ∧ ∀ key ∉ sets.keys, final.ledger.contents key = l.contents key := by
  intro sets before final
  have hkeys : sets.keys.Nodup := q.nodup_keys hqueue hgroup
  simp only [GroupSets.keys, List.nodup_cons, List.mem_cons, not_or] at hkeys
  let late : Contents := before.inProgressByAck.filter fun _ deadline => decide (deadline < now.score)
  have hadmits : Position.admits ⟨l, []⟩ (ScoreRange.below now.score)
      = fun score => decide (score < now.score) := by
    funext score
    simp [Position.admits, ScoreRange.below, Bound.isBelow, Bound.isAbove]
  have hfinal : final = ((Position.mk l late.members).removeFrom
      [sets.inProgressById, sets.inProgressByAck]).addTo [sets.redo] none := by
    have hread : Position.reads ⟨l, []⟩ (.scoreRange sets.inProgressByAck (ScoreRange.below now.score))
        = late.members := by
      rw [Position.reads, hadmits]
      rfl
    simp only [final, Plan.reference, Queue.requeuePlan, Step.pick, Position.run_select,
      Position.run_removeFrom, Position.run_addTo, Position.run_nil, Position.take, Option.all_none,
      if_true, if_neg Bool.false_ne_true, hread]
  -- taking out the events that are late leaves those that are not
  have hack : Contents.without before.inProgressByAck (late.members.map Member.id)
      = before.inProgressByAck.filter fun _ deadline => decide (now.score ≤ deadline) := by
    rw [Contents.without_members_filter]
    refine congrArg (Std.ExtTreeMap.filter · _) (funext fun _ => funext fun deadline => ?_)
    rw [← decide_not]
    exact decide_eq_decide.mpr Int.not_lt
  have hredo : (late.members.map fun m => Member.mk m.id (Option.getD none m.id.score))
      = (before.overdue now).map Member.natural := by
    rw [GroupContents.overdue, List.map_map]
    rfl
  rw [hfinal]
  refine ⟨rfl, ?_, fun key hkey => ?_⟩
  · rw [GroupContents.requeue, ← hack, ← hredo]
    simp [GroupContents.of, Position.contents_addTo, Position.removeFrom_pair,
      Position.contents_removeFrom, hkeys, before, eq_comm]
    rfl
  · simp only [GroupSets.keys, List.mem_cons, not_or] at hkey
    simp [Position.contents_addTo, Position.removeFrom_pair, Position.contents_removeFrom,
      hkey, eq_comm]

end Readings

end GroupQueue
