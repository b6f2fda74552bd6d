import GroupQueue.Proofs.Session.Attempts
import GroupQueue.Proofs.Session.Outcomes

/-!
# `Proofs.Session.Requeues` — the events that sweeps move

A sweep begins with the plan that requeues: the events of a group whose deadline has passed leave its leases and are
put among those to be handed out again. How many events that concerns is seen from the store before and after the
execution, whoever asks for it and whatever is reported of it. For a run it is added up over its attempts, and so
are the events that are moved right before one of the next three calls fails.

## Contents
- `Plan.requeues` — the plan that requeues, with `requeues_iff`, `requeues_requeuePlan`.
- `GroupContents.overdue_iff_requeued`, `length_overdue` — which leases end in `redo`.
- `Attempt.moved` — the events that an attempt moves; `moved_requeuePlan`: those that are overdue.
- `Attempt.movedIn`, `Attempt.cutShortIn` — attempts in a row; `cutShortIn_eq_zero_iff`.
-/

namespace GroupQueue

/-! ## Plans that requeue -/

/-- Whether a plan is the one that requeues the overdue events of a group, in any namespace. -/
def Plan.requeues (plan : Plan) (queue group : String) : Bool :=
  let sets := ({ base := plan.base } : Queue).groupSets queue group
  match plan.steps with
  | [.select ⟨.scoreRange source range, false, none⟩, .removeFrom left, .addTo entered none] =>
    source = sets.inProgressByAck ∧ range = ScoreRange.below plan.now.score
      ∧ left = [sets.inProgressById, sets.inProgressByAck] ∧ entered = [sets.redo]
  | _ => false

theorem Plan.requeues_iff {plan : Plan} {queue group : String} :
    plan.requeues queue group = true
      ↔ ∃ (q : Queue) (now : Instant), plan = q.requeuePlan now (q.groupSets queue group) := by
  constructor
  · intro h
    obtain ⟨base, now, steps⟩ := plan
    unfold requeues at h
    dsimp only at h
    split at h
    · obtain ⟨rfl, rfl, rfl, rfl⟩ := of_decide_eq_true h
      exact ⟨{ base }, now, rfl⟩
    · contradiction
  · rintro ⟨q, now, rfl⟩
    exact decide_eq_true ⟨rfl, rfl, rfl, rfl⟩

/-- It requeues the events of one group. -/
theorem Plan.requeues_requeuePlan {q : Queue} {now : Instant} {queue group queue' group' : String} :
    (q.requeuePlan now (q.groupSets queue' group')).requeues queue group = true
      ↔ queue' = queue ∧ group' = group := by
  constructor
  · intro h
    obtain ⟨q', now', heq⟩ := requeues_iff.mp h
    simp only [Queue.requeuePlan, Queue.groupSets, Queue.eventSet, Plan.mk.injEq, List.cons.injEq, Step.addTo.injEq,
      EventSet.mk.injEq] at heq
    simp_all [Role.isPerGroup]
  · rintro ⟨rfl, rfl⟩
    exact requeues_iff.mpr ⟨q, now, rfl⟩

/-! ## Events that are moved -/

namespace GroupContents

variable {g : GroupContents} {now : Instant}

/-- A lease ends in `redo` if and only if it is overdue. -/
theorem overdue_iff_requeued {id : EventId} (hlease : id ∈ g.inProgressByAck) :
    id ∈ g.overdue now ↔ id ∉ (g.requeue now).inProgressByAck ∧ id ∈ (g.requeue now).redo := by
  rw [mem_ack_requeue_iff, mem_redo_requeue]
  constructor
  · exact fun hlate => ⟨fun hstays => hstays.1 hlate, Or.inl hlate⟩
  · rintro ⟨hleaves, -⟩
    by_contra hintime
    exact hleaves ⟨hintime, hlease⟩

/-- So many leases do. -/
theorem length_overdue (g : GroupContents) (now : Instant) :
    (g.inProgressByAck.members.filter fun m =>
      m.id ∉ (g.requeue now).inProgressByAck ∧ m.id ∈ (g.requeue now).redo).length = (g.overdue now).length := by
  rw [overdue, List.length_map, Contents.members_filter]
  refine congrArg List.length (List.filter_congr fun m hm => decide_eq_decide.mpr ?_)
  have hdeadline : g.inProgressByAck[m.id]? = some m.score := Contents.mem_members.mp hm
  rw [← overdue_iff_requeued (Contents.mem_of_mem_members hm), mem_overdue_iff]
  simp [hdeadline]

end GroupContents

/-- The events that an attempt takes from the leases of a group and puts among the events to be handed out again,
    if it is for the plan that requeues. -/
def Attempt.moved (queue group : String) (a : Attempt) : Nat :=
  match a.call with
  | .execute plan =>
    if plan.requeues queue group then
      let sets := ({ base := plan.base } : Queue).groupSets queue group
      let left := a.before.sets.contents sets.inProgressByAck.key
      let stayed := a.after.sets.contents sets.inProgressByAck.key
      let entered := a.after.sets.contents sets.redo.key
      (left.members.filter fun m => m.id ∉ stayed ∧ m.id ∈ entered).length
    else 0
  | _ => 0

namespace Attempt

variable {queue group : String} {a : Attempt}

/-- A call that is made to fail moves nothing. -/
theorem moved_of_fails (h : a.fails = true) : a.moved queue group = 0 := by
  have hafter : a.after = a.before := if_pos h
  unfold moved
  split
  · split
    · rw [hafter, List.length_eq_zero_iff, List.filter_eq_nil_iff]
      intro m hm hmoved
      exact (of_decide_eq_true hmoved).1 (Contents.mem_of_mem_members hm)
    · rfl
  · rfl

/-- Nor does a call for anything but the plan. -/
theorem moved_of_not_requeues (h : ∀ plan, a.call = .execute plan → plan.requeues queue group = false) :
    a.moved queue group = 0 := by
  unfold moved
  split
  · next plan hcall => rw [h plan hcall, if_neg Bool.false_ne_true]
  · rfl

/-- **The plan that requeues moves the overdue events.** -/
theorem moved_requeuePlan {memory : Memory} (hsound : memory.Sound) (q : Queue) (now clock : Instant)
    (hqueue : ColonFree queue) (hgroup : ColonFree group) :
    moved queue group ⟨clock, memory, .execute (q.requeuePlan now (q.groupSets queue group)), false⟩
      = ((GroupContents.of memory.sets.contents (q.groupSets queue group)).overdue now).length := by
  obtain ⟨executed, after, heq, -, hcontents, -⟩ := Memory.execute_requeuePlan hsound q now hqueue hgroup
  have hafter : Attempt.after ⟨clock, memory, .execute (q.requeuePlan now (q.groupSets queue group)), false⟩
      = { memory with sets := after } := congrArg Prod.snd heq
  rw [← GroupContents.length_overdue, ← hcontents]
  unfold moved
  rw [hafter]
  exact if_pos (Plan.requeues_requeuePlan.mpr ⟨rfl, rfl⟩)

/-! ## Attempts in a row -/

/-- The events that some attempts move. -/
def movedIn (queue group : String) : List Attempt → Nat
  | [] => 0
  | a :: later => a.moved queue group + movedIn queue group later

/-- The events that some attempts move right before one of the next three fails. -/
def cutShortIn (queue group : String) : List Attempt → Nat
  | [] => 0
  | a :: later =>
    (if (later.take 3).any Attempt.fails then a.moved queue group else 0) + cutShortIn queue group later

section InARow

variable {attempts : List Attempt}

theorem movedIn_append (attempts more : List Attempt) :
    movedIn queue group (attempts ++ more) = movedIn queue group attempts + movedIn queue group more := by
  induction attempts with
  | nil => rw [List.nil_append, movedIn, Nat.zero_add]
  | cons a attempts ih => rw [List.cons_append, movedIn, movedIn, ih, Nat.add_assoc]

/-- Attempts that move nothing. -/
theorem movedIn_of_still (h : ∀ a ∈ attempts, a.moved queue group = 0) : movedIn queue group attempts = 0 := by
  induction attempts with
  | nil => rfl
  | cons a attempts ih =>
      obtain ⟨ha, hattempts⟩ := List.forall_mem_cons.mp h
      rw [movedIn, ha, ih hattempts]

/-- They make no difference, whatever comes next. -/
theorem cutShortIn_still_append (h : ∀ a ∈ attempts, a.moved queue group = 0) (more : List Attempt) :
    cutShortIn queue group (attempts ++ more) = cutShortIn queue group more := by
  induction attempts with
  | nil => rfl
  | cons a attempts ih =>
      obtain ⟨ha, hattempts⟩ := List.forall_mem_cons.mp h
      rw [List.cons_append, cutShortIn, ha, ite_self, Nat.zero_add, ih hattempts]

theorem cutShortIn_of_still (h : ∀ a ∈ attempts, a.moved queue group = 0) :
    cutShortIn queue group attempts = 0 := by
  have hnone := cutShortIn_still_append h []
  rwa [List.append_nil] at hnone

/-- **Nothing is cut short** if and only if no call fails right after some events have been moved. -/
theorem cutShortIn_eq_zero_iff :
    cutShortIn queue group attempts = 0
      ↔ ∀ (earlier : List Attempt) (a : Attempt) (later : List Attempt), attempts = earlier ++ a :: later →
          a.moved queue group ≠ 0 → ∀ next ∈ later.take 3, next.fails = false := by
  induction attempts with
  | nil => simp [cutShortIn]
  | cons first rest ih =>
      rw [cutShortIn, Nat.add_eq_zero_iff, ih]
      constructor
      · rintro ⟨hfirst, hrest⟩ (_ | ⟨_, earlier⟩) a later heq hmoved next hnext
        · obtain ⟨rfl, rfl⟩ := List.cons.inj heq
          cases hfails : next.fails with
          | false => rfl
          | true =>
              rw [if_pos (List.any_eq_true.mpr ⟨next, hnext, hfails⟩)] at hfirst
              contradiction
        · obtain ⟨-, rfl⟩ := List.cons.inj heq
          exact hrest earlier a later rfl hmoved next hnext
      · intro hall
        refine ⟨?_, fun earlier a later heq => hall (first :: earlier) a later (congrArg (first :: ·) heq)⟩
        by_cases hmoved : first.moved queue group = 0
        · rw [hmoved, ite_self]
        · refine if_neg fun hany => ?_
          obtain ⟨next, hnext, hfails⟩ := List.any_eq_true.mp hany
          rw [hall [] first rest rfl hmoved next hnext] at hfails
          contradiction

end InARow

end Attempt

end GroupQueue
