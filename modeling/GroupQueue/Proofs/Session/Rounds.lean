import GroupQueue.Proofs.Session.Sweeping
import GroupQueue.Queue.Sweeper

/-!
# `Proofs.Session.Rounds` — a round of the sweeper does not depend on the order of its targets

A round sweeps some groups one after another. Groups of one queue share a set, and whichever is swept first
drops what has expired from it, and counts it. For the others there is then nothing left to drop from that set.
So the reports of the single sweeps depend on the order, but what they add up to does not, and neither does the
store that they leave. A target whose names cannot be used counts for nothing, wherever it stands.

## Contents
- `SweepTarget.Valid`; `Memory.sweepTarget` — what sweeping a target comes to; `converse_sweepTargets_cons`.
- `Memory.of_swept_other`, `Memory.of_swept_two` — sweeping a group, seen from another one.
- `Memory.sweepTarget_swap` — two targets in either order; `converse_sweepTargets_perm`: any number of them.
- `Memory.converse_sweepTargets_filter` — without the targets that are not valid.
- `Memory.of_sweepTarget` — sweeping a target, seen from any group; `of_sweepTargets`: what the targets come to.
- `Memory.converse_tick`, `tick_order_irrelevant` — a round.
-/

namespace GroupQueue

/-! ## Reports -/

namespace SweepReport

theorem empty_add (a : SweepReport) : SweepReport.add {} a = a := by
  simp only [SweepReport.add, Nat.zero_add]

theorem add_empty (a : SweepReport) : a.add {} = a := rfl

theorem add_assoc (a b c : SweepReport) : (a.add b).add c = a.add (b.add c) := by
  simp only [SweepReport.add, Nat.add_assoc]

end SweepReport

/-! ## Targets -/

/-- A target whose names can be used. -/
def SweepTarget.Valid (target : SweepTarget) : Prop :=
  checkName "queue" target.queue = .ok () ∧ checkName "group" target.group = .ok ()

/-- Different targets are different groups. -/
theorem SweepTarget.not_same_of_ne {a b : SweepTarget} (h : a ≠ b) :
    ¬ (a.queue = b.queue ∧ a.group = b.group) := by
  rintro ⟨hqueue, hgroup⟩
  cases a
  cases b
  cases hqueue
  cases hgroup
  exact h rfl

instance : DecidablePred SweepTarget.Valid := fun _ => inferInstanceAs (Decidable (_ ∧ _))

namespace Memory

variable {memory : Memory} {q : Queue} {now : Instant} {target : SweepTarget} {targets : List SweepTarget}

/-- What sweeping a target comes to if no call fails: the report, and the store. -/
def sweepTarget (memory : Memory) (q : Queue) (now : Instant) (target : SweepTarget) : SweepReport × Memory :=
  if target.Valid then
    ((GroupContents.of memory.sets.contents (q.groupSets target.queue target.group)).sweepReport now,
      memory.executeAll (q.sweepPlans now target.queue target.group))
  else ({}, memory)

theorem sweepTarget_of_valid (h : target.Valid) :
    memory.sweepTarget q now target
      = ((GroupContents.of memory.sets.contents (q.groupSets target.queue target.group)).sweepReport now,
        memory.executeAll (q.sweepPlans now target.queue target.group)) := if_pos h

theorem sweepTarget_of_invalid (h : ¬ target.Valid) : memory.sweepTarget q now target = ({}, memory) := if_neg h

theorem Canonical.sweepTarget (h : memory.Canonical) (q : Queue) (now : Instant) (target : SweepTarget) :
    (memory.sweepTarget q now target).2.Canonical := by
  unfold Memory.sweepTarget
  split
  · exact h.executeAll _
  · exact h

theorem payloads_sweepTarget : (memory.sweepTarget q now target).2.payloads = memory.payloads := by
  unfold Memory.sweepTarget
  split
  · exact payloads_executeAll _
  · rfl

/-- A target whose names cannot be used is refused. -/
theorem refused_sweep (h : ¬ target.Valid) (q : Queue) (now : Instant) :
    Refused now (q.sweep now target.queue target.group) := by
  unfold Queue.sweep
  exact .requireName fun hqueue => .requireName fun hgroup => absurd ⟨hqueue, hgroup⟩ h

/-- A round sweeps the first target, and then the others. -/
theorem converse_sweepTargets_cons (hsound : memory.Sound) :
    memory.converse now (q.sweepTargets now (target :: targets))
      = ((memory.sweepTarget q now target).1.add
          ((memory.sweepTarget q now target).2.converse now (q.sweepTargets now targets)).1,
        ((memory.sweepTarget q now target).2.converse now (q.sweepTargets now targets)).2) := by
  rw [Queue.sweepTargets, converse_bind]
  by_cases hvalid : target.Valid
  · rw [sweepTarget_of_valid hvalid, converse_sweep_eq hsound hvalid.1 hvalid.2, converse_bind]
    rw [converse_bind]
    rfl
  · obtain ⟨reason, hrefused⟩ := (refused_sweep hvalid q now).converse
    rw [sweepTarget_of_invalid hvalid, hrefused, converse_bind]
    dsimp only
    rw [converse_bind, converse_bind]
    rfl

/-! ## Two groups -/

section Groups

variable {queue group queue' group' : String} (hsound : memory.Sound) (q : Queue) (now : Instant)
  (hqueue : ColonFree queue) (hgroup : ColonFree group) (hqueue' : ColonFree queue') (hgroup' : ColonFree group')

include hsound hqueue hgroup hqueue' hgroup'

/-- Of the sets of another group, a sweep drops what has expired from the shared one if they share it. -/
theorem of_swept_other (hother : ¬ (queue' = queue ∧ group' = group)) :
    let other := GroupContents.of memory.sets.contents (q.groupSets queue' group')
    GroupContents.of (memory.executeAll (q.sweepPlans now queue group)).sets.contents (q.groupSets queue' group')
      = { other with
          available := if queue' = queue then other.available.live now else other.available } := by
  intro other
  obtain ⟨hcontents, hframe⟩ := contents_of_swept hsound q now hqueue hgroup
  rw [GroupContents.of_frame hqueue' hgroup' hqueue hgroup hframe hother, hcontents]
  split
  · next hsame =>
    subst hsame
    rfl
  · rfl

/-- After the sweeps of two groups, the sets of both are as after a sweep of their own. -/
theorem of_swept_two (hother : ¬ (queue' = queue ∧ group' = group)) :
    let last := (memory.executeAll (q.sweepPlans now queue group)).executeAll (q.sweepPlans now queue' group')
    GroupContents.of last.sets.contents (q.groupSets queue group)
        = (GroupContents.of memory.sets.contents (q.groupSets queue group)).sweep now
      ∧ GroupContents.of last.sets.contents (q.groupSets queue' group')
        = (GroupContents.of memory.sets.contents (q.groupSets queue' group')).sweep now
      ∧ ∀ key ∉ (q.groupSets queue group).keys, key ∉ (q.groupSets queue' group').keys →
        last.sets.contents key = memory.sets.contents key := by
  intro last
  have hnext : (memory.executeAll (q.sweepPlans now queue group)).Sound := hsound.executeAll _
  obtain ⟨hfirst, hframe⟩ := contents_of_swept hsound q now hqueue hgroup
  obtain ⟨hsecond, hframe'⟩ := contents_of_swept hnext q now hqueue' hgroup'
  refine ⟨?_, ?_, fun key hkey hkey' => ?_⟩
  · -- the second sweep finds nothing more to drop from the set that they may share
    rw [of_swept_other hnext q now hqueue' hgroup' hqueue hgroup fun h => hother ⟨h.1.symm, h.2.symm⟩, hfirst]
    split
    · simp only [GroupContents.sweep, Contents.live_live]
    · rfl
  · rw [hsecond, of_swept_other hsound q now hqueue hgroup hqueue' hgroup' hother,
      GroupContents.sweep_with_available]
    split
    · simp only [GroupContents.sweep, Contents.live_live]
    · rfl
  · rw [hframe' key hkey', hframe key hkey]

/-- **Two groups can be swept in either order**, and the store is the same in the end. -/
theorem executeAll_sweepPlans_swap (hcanonical : memory.Canonical)
    (hother : ¬ (queue' = queue ∧ group' = group)) :
    (memory.executeAll (q.sweepPlans now queue group)).executeAll (q.sweepPlans now queue' group')
      = (memory.executeAll (q.sweepPlans now queue' group')).executeAll (q.sweepPlans now queue group) := by
  obtain ⟨hown, hother', hframe⟩ := of_swept_two hsound q now hqueue hgroup hqueue' hgroup' hother
  obtain ⟨hother'', hown', hframe'⟩ := of_swept_two hsound q now hqueue' hgroup' hqueue hgroup
    fun h => hother ⟨h.1.symm, h.2.symm⟩
  refine eq_of_contents ((hcanonical.executeAll _).executeAll _) ((hcanonical.executeAll _).executeAll _)
    (fun key => ?_) ?_ ?_
  · by_cases hkey : key ∈ (q.groupSets queue group).keys
    · exact GroupContents.eq_of_of_eq (hown.trans hown'.symm) key hkey
    · by_cases hkey' : key ∈ (q.groupSets queue' group').keys
      · exact GroupContents.eq_of_of_eq (hother'.trans hother''.symm) key hkey'
      · rw [hframe key hkey hkey', hframe' key hkey' hkey]
  · simp only [payloads_executeAll]
  · simp only [lastId_executeAll]

/-- A sweep of the other group has nothing more to count in the set that they may share. -/
theorem sweepReport_swept_other (hother : ¬ (queue' = queue ∧ group' = group)) :
    let other := GroupContents.of memory.sets.contents (q.groupSets queue' group')
    (GroupContents.of (memory.executeAll (q.sweepPlans now queue group)).sets.contents
        (q.groupSets queue' group')).sweepReport now
      = { requeued := (other.overdue now).length
          purged := (if queue' = queue then 0 else (other.available.expired now).size)
            + ((other.requeue now).redo.expired now).size + (other.done.expired now).size } := by
  intro other
  rw [of_swept_other hsound q now hqueue hgroup hqueue' hgroup' hother]
  split
  · refine (GroupContents.sweepReport_with_available other now _).trans ?_
    rw [Contents.size_expired_live]
  · rfl

/-- **What the two sweeps report adds up to the same**, whichever is the first. -/
theorem sweepReport_swap (hother : ¬ (queue' = queue ∧ group' = group)) :
    let own (memory : Memory) := GroupContents.of memory.sets.contents (q.groupSets queue group)
    let other (memory : Memory) := GroupContents.of memory.sets.contents (q.groupSets queue' group')
    ((own memory).sweepReport now).add
        ((other (memory.executeAll (q.sweepPlans now queue group))).sweepReport now)
      = ((other memory).sweepReport now).add
        ((own (memory.executeAll (q.sweepPlans now queue' group'))).sweepReport now) := by
  intro own other
  have hothers := sweepReport_swept_other hsound q now hqueue hgroup hqueue' hgroup' hother
  have howns := sweepReport_swept_other hsound q now hqueue' hgroup' hqueue hgroup
    fun h => hother ⟨h.1.symm, h.2.symm⟩
  dsimp only [own, other]
  rw [hothers, howns]
  by_cases hsame : queue' = queue
  · subst hsame
    -- the set that they share is counted once
    have hshared : (GroupContents.of memory.sets.contents (q.groupSets queue' group')).available
        = (GroupContents.of memory.sets.contents (q.groupSets queue' group)).available := rfl
    rw [if_pos rfl, if_pos rfl]
    simp only [GroupContents.sweepReport, SweepReport.add, SweepReport.mk.injEq, hshared]
    refine ⟨Nat.add_comm _ _, ?_, trivial⟩
    omega
  · rw [if_neg hsame, if_neg (Ne.symm hsame)]
    simp only [GroupContents.sweepReport, SweepReport.add, SweepReport.mk.injEq]
    refine ⟨Nat.add_comm _ _, ?_, trivial⟩
    omega

end Groups

/-! ## Any number of targets -/

/-- **Two targets can be swept in either order.** -/
theorem sweepTarget_swap (hcanonical : memory.Canonical) (q : Queue) (now : Instant) (a b : SweepTarget) :
    ((memory.sweepTarget q now a).2.sweepTarget q now b).2 = ((memory.sweepTarget q now b).2.sweepTarget q now a).2
      ∧ (memory.sweepTarget q now a).1.add ((memory.sweepTarget q now a).2.sweepTarget q now b).1
        = (memory.sweepTarget q now b).1.add ((memory.sweepTarget q now b).2.sweepTarget q now a).1 := by
  by_cases hb : b.Valid
  · by_cases ha : a.Valid
    · obtain ⟨hqueue, hgroup⟩ := ha
      obtain ⟨hqueue', hgroup'⟩ := hb
      simp only [sweepTarget_of_valid ⟨hqueue, hgroup⟩, sweepTarget_of_valid ⟨hqueue', hgroup'⟩]
      by_cases hsame : b = a
      · subst hsame
        exact ⟨rfl, rfl⟩
      · have hother := SweepTarget.not_same_of_ne hsame
        have hq := colonFree_of_checkName hqueue
        have hg := colonFree_of_checkName hgroup
        have hq' := colonFree_of_checkName hqueue'
        have hg' := colonFree_of_checkName hgroup'
        exact ⟨executeAll_sweepPlans_swap hcanonical.toSound q now hq hg hq' hg' hcanonical hother,
          sweepReport_swap hcanonical.toSound q now hq hg hq' hg' hother⟩
    · simp only [sweepTarget_of_invalid ha, SweepReport.empty_add, SweepReport.add_empty, and_self]
  · simp only [sweepTarget_of_invalid hb, SweepReport.empty_add, SweepReport.add_empty, and_self]

/-- **The order of the targets does not matter**, by induction on how they are permuted. -/
theorem converse_sweepTargets_perm {targets targets' : List SweepTarget} (h : targets.Perm targets')
    (hcanonical : memory.Canonical) :
    memory.converse now (q.sweepTargets now targets) = memory.converse now (q.sweepTargets now targets') := by
  induction h generalizing memory with
  | nil => rfl
  | cons target _ ih =>
      rw [converse_sweepTargets_cons hcanonical.toSound, converse_sweepTargets_cons hcanonical.toSound,
        ih (hcanonical.sweepTarget q now target)]
  | swap a b targets =>
      obtain ⟨hlast, hreport⟩ := sweepTarget_swap hcanonical q now a b
      have ha := hcanonical.sweepTarget q now a
      have hb := hcanonical.sweepTarget q now b
      rw [converse_sweepTargets_cons hcanonical.toSound, converse_sweepTargets_cons hb.toSound,
        converse_sweepTargets_cons hcanonical.toSound, converse_sweepTargets_cons ha.toSound]
      rw [← SweepReport.add_assoc, ← SweepReport.add_assoc, hreport, hlast]
  | trans _ _ ih ih' => exact (ih hcanonical).trans (ih' hcanonical)

/-- **A target that is not valid counts for nothing**, by induction on the targets. -/
theorem converse_sweepTargets_filter (hcanonical : memory.Canonical) (targets : List SweepTarget) :
    memory.converse now (q.sweepTargets now (targets.filter fun target => decide target.Valid))
      = memory.converse now (q.sweepTargets now targets) := by
  induction targets generalizing memory with
  | nil => rfl
  | cons target targets ih =>
      rw [@converse_sweepTargets_cons memory q now target targets hcanonical.toSound]
      by_cases hvalid : target.Valid
      · rw [List.filter_cons, if_pos (decide_eq_true hvalid), converse_sweepTargets_cons hcanonical.toSound,
          ih (hcanonical.sweepTarget q now target)]
      · rw [List.filter_cons, if_neg (by simpa using hvalid), ih hcanonical, sweepTarget_of_invalid hvalid,
          SweepReport.empty_add]

/-- **A target seen from a group.** Sweeping it leaves the group as it is, or sweeps the group, or drops what has
    expired from the set that the group shares with it. -/
theorem of_sweepTarget (hsound : memory.Sound) {x : SweepTarget} (hx : x.Valid) (target : SweepTarget) :
    let g := GroupContents.of memory.sets.contents (q.groupSets x.queue x.group)
    let after := GroupContents.of (memory.sweepTarget q now target).2.sets.contents (q.groupSets x.queue x.group)
    after = g ∨ after = g.sweep now ∨ after = { g with available := g.available.live now } := by
  intro g after
  by_cases hvalid : target.Valid
  · have hq := colonFree_of_checkName hvalid.1
    have hg := colonFree_of_checkName hvalid.2
    simp only [after, sweepTarget_of_valid hvalid]
    by_cases hsame : x = target
    · subst hsame
      exact Or.inr (Or.inl (contents_of_swept hsound q now hq hg).1)
    · rw [of_swept_other hsound q now hq hg (colonFree_of_checkName hx.1) (colonFree_of_checkName hx.2)
        (SweepTarget.not_same_of_ne hsame)]
      split
      · exact Or.inr (Or.inr rfl)
      · exact Or.inl rfl
  · simp only [after, sweepTarget_of_invalid hvalid]
    exact Or.inl rfl

/-- A group that has been swept stays as it is, whichever targets are swept next. -/
theorem of_sweepTarget_of_swept (hsound : memory.Sound) {x : SweepTarget} (hx : x.Valid)
    (hswept : (GroupContents.of memory.sets.contents (q.groupSets x.queue x.group)).sweep now
      = .of memory.sets.contents (q.groupSets x.queue x.group)) (target : SweepTarget) :
    GroupContents.of (memory.sweepTarget q now target).2.sets.contents (q.groupSets x.queue x.group)
      = .of memory.sets.contents (q.groupSets x.queue x.group) := by
  rcases of_sweepTarget hsound hx target with hsame | hsweep | hlive
  · exact hsame
  · exact hsweep.trans hswept
  · rw [hlive, show Contents.live _ now = _ from congrArg GroupContents.available hswept]

/-- What a group comes to when it is swept does not depend on the targets that are swept before. -/
theorem sweep_of_sweepTarget (hsound : memory.Sound) {x : SweepTarget} (hx : x.Valid) (target : SweepTarget) :
    (GroupContents.of (memory.sweepTarget q now target).2.sets.contents (q.groupSets x.queue x.group)).sweep now
      = (GroupContents.of memory.sets.contents (q.groupSets x.queue x.group)).sweep now := by
  rcases of_sweepTarget hsound hx target with hsame | hsweep | hlive
  · rw [hsame]
  · rw [hsweep, GroupContents.sweep_sweep]
  · rw [hlive, GroupContents.sweep_with_available, Contents.live_live]
    rfl

/-- **Every target that is valid is swept**, by induction on the targets. -/
theorem of_sweepTargets (hcanonical : memory.Canonical) (targets : List SweepTarget) {x : SweepTarget}
    (hx : x.Valid) :
    let last := (memory.converse now (q.sweepTargets now targets)).2
    let g := GroupContents.of memory.sets.contents (q.groupSets x.queue x.group)
    (x ∈ targets → GroupContents.of last.sets.contents (q.groupSets x.queue x.group) = g.sweep now)
      ∧ (g.sweep now = g → GroupContents.of last.sets.contents (q.groupSets x.queue x.group) = g) := by
  induction targets generalizing memory with
  | nil => exact ⟨fun hmem => absurd hmem List.not_mem_nil, fun _ => rfl⟩
  | cons target targets ih =>
      obtain ⟨hrest, hkept⟩ := ih (hcanonical.sweepTarget q now target)
      intro last g
      have hlast : last = ((memory.sweepTarget q now target).2.converse now (q.sweepTargets now targets)).2 := by
        show (memory.converse now (q.sweepTargets now (target :: targets))).2 = _
        rw [converse_sweepTargets_cons hcanonical.toSound]
      rw [hlast]
      refine ⟨fun hmem => ?_, fun hswept => ?_⟩
      · rcases List.mem_cons.mp hmem with rfl | hmem
        · -- it is swept first, and stays so
          have hown := (contents_of_swept hcanonical.toSound q now (colonFree_of_checkName hx.1)
            (colonFree_of_checkName hx.2)).1
          rw [sweepTarget_of_valid hx] at hkept ⊢
          rw [hown] at hkept
          exact hkept (GroupContents.sweep_sweep g now)
        · rw [hrest hmem]
          exact sweep_of_sweepTarget hcanonical.toSound hx target
      · have hstays := of_sweepTarget_of_swept hcanonical.toSound hx hswept target
        rw [hstays] at hkept
        exact hkept hswept

/-- Sweeping leaves the payloads. -/
theorem payloads_sweepTargets (hcanonical : memory.Canonical) (q : Queue) (now : Instant)
    (targets : List SweepTarget) :
    (memory.converse now (q.sweepTargets now targets)).2.payloads = memory.payloads
      ∧ (memory.converse now (q.sweepTargets now targets)).1.payloadsPurged = 0 := by
  induction targets generalizing memory with
  | nil => exact ⟨rfl, rfl⟩
  | cons target targets ih =>
      obtain ⟨hpayloads, hnone⟩ := ih (hcanonical.sweepTarget q now target)
      rw [converse_sweepTargets_cons hcanonical.toSound]
      refine ⟨hpayloads.trans payloads_sweepTarget, ?_⟩
      show _ + _ = 0
      rw [hnone]
      unfold Memory.sweepTarget
      split <;> rfl

/-! ## Rounds -/

/-- A round sweeps its targets, and then drops the payloads that need not be kept. -/
theorem converse_tick (hcanonical : memory.Canonical) (targets : List SweepTarget) :
    memory.converse now (q.tick now targets)
      = ({ (memory.converse now (q.sweepTargets now targets)).1 with
            payloadsPurged := (memory.payloads.purge now).1 },
          { (memory.converse now (q.sweepTargets now targets)).2 with
            payloads := (memory.payloads.purge now).2 }) := by
  obtain ⟨hpayloads, hnone⟩ := payloads_sweepTargets hcanonical q now targets
  rw [Queue.tick, converse_bind, converse_bind, converse_ask]
  generalize memory.converse now (q.sweepTargets now targets) = swept at hpayloads hnone ⊢
  obtain ⟨report, last⟩ := swept
  dsimp only at hpayloads hnone
  rw [← hpayloads]
  refine Prod.ext ?_ rfl
  show SweepReport.mk (report.requeued + 0) (report.purged + 0) (report.payloadsPurged + _) = _
  rw [hnone, Nat.zero_add]
  rfl

end Memory

/-! ## Turns -/

/-- A turn that is a round without failing calls. -/
theorem Session.turn_of_tick {session : Session} {t : Turn} {targets : List SweepTarget}
    (hrequest : t.request = .tick targets) (hfaults : session.faults = []) (ht : t.faults = []) :
    (session.turn t).1 = .ok (.swept (session.memory.converse t.now (t.queue.tick t.now targets)).1)
      ∧ (session.turn t).2.memory = (session.memory.converse t.now (t.queue.tick t.now targets)).2 := by
  obtain ⟨hreply, hmemory, -⟩ := turn_of_faultless hfaults ht
  have hconverse : session.memory.converse t.now (t.request.perform t.queue t.now).run
      = (.ok (.swept (session.memory.converse t.now (t.queue.tick t.now targets)).1),
        (session.memory.converse t.now (t.queue.tick t.now targets)).2) := by
    rw [hrequest]
    show session.memory.converse t.now
      (Except.ok <$> (Response.swept <$> t.queue.tick t.now targets)) = _
    rw [map_eq_pure_bind, map_eq_pure_bind, Memory.converse_bind, Memory.converse_bind]
    rfl
  rw [hconverse] at hreply hmemory
  exact ⟨hreply, hmemory⟩

/-- **A round does not depend on the order of its targets**, in every state that a run can reach, whichever services
    share the store. If no call fails, a round on a permutation of the targets has the same report, and leaves the
    same store. So does a round on the targets whose names can be used alone: the others change nothing, count for
    nothing and stop nothing. Each of those targets has been swept, and the payloads that need not be kept have been
    dropped and counted. -/
theorem tick_order_irrelevant {turns : List Turn} (hop : ∀ x ∈ turns, x.request.isOperation = true) {t : Turn}
    {targets targets' : List SweepTarget} (hrequest : t.request = .tick targets) (hfaults : t.faults = [])
    (hperm : targets.Perm targets') :
    let session := (Session.after turns).faultless
    let permuted : Turn := { t with request := .tick targets' }
    let valid : Turn := { t with request := .tick (targets.filter fun target => decide target.Valid) }
    let last := (session.turn t).2.memory
    ∃ report : SweepReport,
      (session.turn t).1 = .ok (.swept report)
      ∧ ((session.turn permuted).1 = .ok (.swept report) ∧ (session.turn permuted).2.memory = last)
      ∧ ((session.turn valid).1 = .ok (.swept report) ∧ (session.turn valid).2.memory = last)
      ∧ (∀ target ∈ targets, target.Valid →
        let sets := t.queue.groupSets target.queue target.group
        GroupContents.of last.sets.contents sets = (GroupContents.of session.memory.sets.contents sets).sweep t.now)
      ∧ report.payloadsPurged = (session.memory.payloads.purge t.now).1
      ∧ last.payloads = (session.memory.payloads.purge t.now).2 := by
  intro session permuted valid last
  have hcanonical : session.memory.Canonical := Session.canonical_after hop
  have hnone : session.faults = [] := rfl
  obtain ⟨hreply, hlast⟩ := Session.turn_of_tick hrequest hnone hfaults
  obtain ⟨hreply', hlast'⟩ := Session.turn_of_tick (t := permuted) rfl hnone hfaults
  obtain ⟨hreply'', hlast''⟩ := Session.turn_of_tick (t := valid) rfl hnone hfaults
  rw [Memory.converse_tick hcanonical] at hreply hlast hreply' hlast' hreply'' hlast''
  refine ⟨_, hreply, ⟨?_, ?_⟩, ⟨?_, ?_⟩, fun target hmem htarget => ?_, rfl, ?_⟩
  · rw [hreply', Memory.converse_sweepTargets_perm hperm hcanonical]
  · show _ = (session.turn t).2.memory
    rw [hlast', hlast, Memory.converse_sweepTargets_perm hperm hcanonical]
  · rw [hreply'', Memory.converse_sweepTargets_filter hcanonical targets]
  · show _ = (session.turn t).2.memory
    rw [hlast'', hlast, Memory.converse_sweepTargets_filter hcanonical targets]
  · show GroupContents.of (session.turn t).2.memory.sets.contents _ = _
    rw [hlast]
    exact (Memory.of_sweepTargets hcanonical targets htarget).1 hmem
  · show (session.turn t).2.memory.payloads = _
    rw [hlast]

/-- Two groups have the same event on lease, and it is overdue and has expired. One of them is swept twice, and a name
    cannot be used. Whatever the order, two events are requeued, three leave a set, and one payload is dropped. -/
theorem tick_order_irrelevant_shared :
    let turn (micros : Int) (request : Request) : Turn :=
      { queue := { grace := ⟨0⟩ }, now := .ofMicros micros, request }
    let add (micros : Int) := turn 1000 (.add { queue := "q", expire := .ofMicros micros, contents := "x" })
    let get (group : String) := turn 1000 (.get { queue := "q", group, deadline := some (.ofMicros 1500) })
    let turns := [add 3000, add 9000, get "g", get "h"]
    let targets : List SweepTarget := [⟨"q", "g"⟩, ⟨"q:", "g"⟩, ⟨"q", "h"⟩, ⟨"q", "g"⟩]
    let targets' : List SweepTarget := [⟨"q", "h"⟩, ⟨"q", "g"⟩, ⟨"q", "g"⟩, ⟨"q:", "g"⟩]
    let tick := turn 3500 (.tick targets)
    (∀ x ∈ turns, x.request.isOperation = true)
      ∧ tick.request = .tick targets ∧ tick.faults = [] ∧ targets.Perm targets'
      ∧ ((Session.after turns).faultless.turn tick).1
        = .ok (.swept { requeued := 2, purged := 3, payloadsPurged := 1 })
      ∧ ((Session.after turns).faultless.turn { tick with request := .tick targets' }).1
        = .ok (.swept { requeued := 2, purged := 3, payloadsPurged := 1 })
      ∧ ((Session.after turns).faultless.turn { tick with request := .tick targets' }).2.memory
        = ((Session.after turns).faultless.turn tick).2.memory := by
  intro turn add get turns targets targets' tick
  have hop : ∀ x ∈ turns, x.request.isOperation = true := by decide
  have hperm : targets.Perm targets' := by decide
  have hreply : ((Session.after turns).faultless.turn tick).1
      = .ok (.swept { requeued := 2, purged := 3, payloadsPurged := 1 }) := by
    decide +kernel
  obtain ⟨report, htold, ⟨hsame, hmemory⟩, -⟩ := tick_order_irrelevant hop (t := tick) rfl rfl hperm
  have hreport := hreply.symm.trans htold
  exact ⟨hop, rfl, rfl, hperm, hreply, hsame.trans hreport.symm, hmemory⟩

end GroupQueue
