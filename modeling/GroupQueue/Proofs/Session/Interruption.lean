import GroupQueue.Proofs.Session.Roles
import GroupQueue.Proofs.Session.Sweeping

/-!
# `Proofs.Session.Interruption` — a sweep that is cut short can be made up for

The four executions of a sweep are not one transaction: if one of them fails, what the ones before have done
stays. Wherever that is, the sets of the group still mean what they are to mean, as every execution is a move that
keeps it. No event gets lost on the way, unless it has expired. And whoever sweeps again at the same clock reading
finds the store in the end as if nothing had failed.

## Contents
- `Session.RolesHold` — what the sets of a group mean; `rolesHold_after`: in a run in one namespace.
- `Session.RolesHold.turn` — kept by every request that gets no event.
- `Session.memory_of_interrupted` — what an interrupted sweep leaves.
- `sweep_recoverable` — the interrupted sweep, and the one after it.
-/

namespace GroupQueue

namespace Session

variable {q : Queue} {queue group : String} {id : EventId} {session : Session} {turns : List Turn} {t : Turn}

/-! ## The roles of the sets -/

/-- **The sets of a group mean what they are to mean.** What is in progress has a deadline; a deadline without an
    event in progress belongs to an event that had expired at a get of the group; what is to be handed out again is
    not in progress; scores are natural, and a deadline is that of the latest get that took the event with one; and
    every event was added to the queue of the group. -/
structure RolesHold (q : Queue) (queue group : String) (turns : List Turn) : Prop where
  leased : ∀ id ∈ (groupAfter q queue group turns).inProgressById,
    id ∈ (groupAfter q queue group turns).inProgressByAck
  lapsed : ∀ id ∈ (groupAfter q queue group turns).inProgressByAck,
    id ∉ (groupAfter q queue group turns).inProgressById →
      ∃ t ∈ turns, t.request.gets queue group ∧ id.score ≤ t.now.score
  apart : ∀ id ∈ (groupAfter q queue group turns).redo, id ∉ (groupAfter q queue group turns).inProgressByAck
    ∧ id ∉ (groupAfter q queue group turns).inProgressById
  natural : (groupAfter q queue group turns).Natural
  deadline : ∀ (id : EventId) (score : Int), (groupAfter q queue group turns).inProgressByAck[id]? = some score →
    ∃ deadline, score = deadline.score ∧ LatestDeadline queue group id deadline turns
  added : ∀ id, (groupAfter q queue group turns).Touched id → Added q queue group id turns

/-- So they do in every state that a run in one namespace can reach. -/
theorem rolesHold_after (hqueue : ColonFree queue) (hgroup : ColonFree group)
    (hturns : ∀ x ∈ turns, x.WorksIn q.base) : RolesHold q queue group turns where
  leased := leased_after hqueue hgroup hturns
  lapsed _ hack hout := expired_after hqueue hgroup hturns hack hout
  apart id hid := by
    have hout := (coherent_after hqueue hgroup hturns).apart id hid
    exact ⟨hout, fun hin => hout (leased_after hqueue hgroup hturns id hin)⟩
  natural := (coherent_after hqueue hgroup hturns).natural
  deadline _ _ h := latest_deadline_after hqueue hgroup hturns h
  added _ hid := added_after hqueue hgroup hturns (Or.inr hid)

/-- **A request that gets no event leaves the sets their meaning**, wherever it ends, and whichever services share
    the store. -/
theorem RolesHold.turn (h : RolesHold q queue group turns) (hqueue : ColonFree queue) (hgroup : ColonFree group)
    (hop : ∀ x ∈ turns, x.request.isOperation = true) (ht : t.WorksIn q.base)
    (hget : ∀ cmd, t.request ≠ .get cmd) :
    RolesHold q queue group (turns ++ [t]) := by
  have hmoves := moves_of_own_turn hqueue hgroup hop ht
  have hleased : (groupAfter q queue group (turns ++ [t])).Leased :=
    hmoves.keeps (I := fun s => s.Leased) (fun move s _ _ hs => GroupState.leased_move hs move) h.leased
  have hapart : ∀ id ∈ (groupAfter q queue group (turns ++ [t])).redo,
      id ∉ (groupAfter q queue group (turns ++ [t])).inProgressByAck :=
    hmoves.keeps (I := fun s => ∀ id ∈ s.redo, id ∉ s.inProgressByAck)
      (fun move s _ _ hs => GroupState.apart_move hs move) fun id hid => (h.apart id hid).1
  refine ⟨hleased, ?_, ?_, ?_, ?_, ?_⟩
  · -- no move of the request drops an event in progress whose deadline stays
    intro id hack hout
    let lapsed (s : GroupState) : Prop := id ∈ s.inProgressByAck ∧ id ∉ s.inProgressById
    have hbefore : lapsed (groupAfter q queue group turns) := by
      refine (hmoves.keeps (I := fun s => s.Natural ∧ (lapsed s → lapsed (groupAfter q queue group turns))) ?_
        ⟨h.natural, fun hold => hold⟩).2 ⟨hack, hout⟩
      rintro move s hstems - ⟨hs, hbefore⟩
      refine ⟨hs.move move, fun hmove => ?_⟩
      rcases GroupState.lapsed_move hs hmove.1 hmove.2 with hold | ⟨now, deadline, rfl, -⟩
      · exact hbefore hold
      · obtain ⟨-, cmd, hrequest, -⟩ := hstems
        exact absurd hrequest (hget cmd)
    obtain ⟨x, hx, hexpired⟩ := h.lapsed id hbefore.1 hbefore.2
    exact ⟨x, List.mem_append_left _ hx, hexpired⟩
  · exact fun id hid => ⟨hapart id hid, fun hin => hapart id hid (hleased id hin)⟩
  · exact hmoves.keeps (I := fun s => s.Natural) (fun move s _ _ hs => hs.move move) h.natural
  · intro id score hscore
    rcases deadline_of_turn hqueue hgroup hop ht hscore with ⟨-, -, cmd, hrequest, -⟩ | ⟨hold, hnone⟩
    · exact absurd hrequest (hget cmd)
    · obtain ⟨deadline, heq, hlatest⟩ := h.deadline id score hold
      exact ⟨deadline, heq, hlatest.concat hnone⟩
  · intro id hid
    refine Added.concat (h.added id ?_)
    refine (hmoves.keeps (I := fun s => s.Natural ∧ (s.Touched id → (groupAfter q queue group turns).Touched id))
      ?_ ⟨h.natural, fun hold => hold⟩).2 hid
    rintro move s hstems - ⟨hs, hbefore⟩
    refine ⟨hs.move move, fun hmove => ?_⟩
    rcases GroupState.touched_of_move hs hmove with hold | ⟨now, deadline, rfl, -⟩
    · exact hbefore hold
    · obtain ⟨-, cmd, hrequest, -⟩ := hstems
      exact absurd hrequest (hget cmd)

/-! ## An interrupted sweep -/

/-- What a sweep leaves if one of its executions fails: the plans before that have been executed. -/
theorem memory_of_interrupted (hrequest : t.request = .sweep queue group)
    (hqueue : checkName "queue" queue = .ok ()) (hgroup : checkName "group" group = .ok ()) {k : Nat}
    (hk : PendingFault.due? .execute ((after turns).faults ++ t.faults) = some k) :
    (after (turns ++ [t])).memory
      = (after turns).memory.executeAll ((t.queue.sweepPlans t.now queue group).take k) := by
  rw [after_concat, memory_of_sweep hrequest hqueue hgroup, hk, Option.getD_some]

/-- Without failing calls, a sweep comes to its end. -/
theorem whole_sweep (hsound : session.memory.Sound) (hfaults : session.faults ++ t.faults = [])
    (hrequest : t.request = .sweep queue group) (hqueue : checkName "queue" queue = .ok ())
    (hgroup : checkName "group" group = .ok ()) :
    ∃ report, (session.turn t).1 = .ok (.swept report)
      ∧ (session.turn t).2.memory = session.memory.executeAll (t.queue.sweepPlans t.now queue group) := by
  refine ⟨(GroupContents.of session.memory.sets.contents (t.queue.groupSets queue group)).sweepReport t.now, ?_, ?_⟩
  · rw [reply_of_sweep hsound hrequest hqueue hgroup, hfaults]
    rfl
  · rw [memory_of_sweep hrequest hqueue hgroup, hfaults]
    rfl

end Session

/-- **An interrupted sweep can be made up for**, in every state that a run can reach, whichever services share the
    store. If one of the executions of a sweep fails, the caller is told so. The sets of every group in the namespace
    still mean what they mean, and no event has left what the group has been handed, unless it has expired. And the
    next sweep of the group at the same clock reading that comes to its end leaves the store as the sweep would have
    left it without the failure. -/
theorem sweep_recoverable {turns : List Turn} (hop : ∀ x ∈ turns, x.request.isOperation = true) {t : Turn}
    {queue group : String} (hrequest : t.request = .sweep queue group)
    (hqueue : checkName "queue" queue = .ok ()) (hgroup : checkName "group" group = .ok ()) {k : Nat}
    (hk : PendingFault.due? .execute ((Session.after turns).faults ++ t.faults) = some k) (hlt : k < 4) :
    let session := Session.after turns
    let before := Session.groupAfter t.queue queue group turns
    let after := Session.groupAfter t.queue queue group (turns ++ [t])
    (session.turn t).1 = .error (.injected StoreMethod.execute.name)
    ∧ (∀ queue' group', ColonFree queue' → ColonFree group' →
        (Session.RolesHold t.queue queue' group' turns → Session.RolesHold t.queue queue' group' (turns ++ [t]))
        ∧ ((∀ x ∈ turns, x.WorksIn t.queue.base) → Session.RolesHold t.queue queue' group' (turns ++ [t])))
    ∧ (∀ id, id ∈ before.inProgressById ∨ id ∈ before.redo ∨ id ∈ before.done →
        (id ∈ after.inProgressById ∨ id ∈ after.redo ∨ id ∈ after.done) ∨ id.score ≤ t.now.score)
    ∧ ∀ again : Turn, again.queue.base = t.queue.base → again.now = t.now → again.request = t.request →
        ∀ report, ((Session.after (turns ++ [t])).turn again).1 = .ok (.swept report) →
          ∃ whole, (session.faultless.turn { t with faults := [] }).1 = .ok (.swept whole)
            ∧ ((Session.after (turns ++ [t])).turn again).2.memory
              = (session.faultless.turn { t with faults := [] }).2.memory := by
  intro session before after
  have hcanonical : session.memory.Canonical := Session.canonical_after hop
  have hq := colonFree_of_checkName hqueue
  have hg := colonFree_of_checkName hgroup
  have ht : t.WorksIn t.queue.base := ⟨by rw [hrequest]; rfl, rfl⟩
  have hlast := Session.memory_of_interrupted hrequest hqueue hgroup hk
  refine ⟨?_, ?_, ?_, ?_⟩
  · rw [Session.reply_of_sweep hcanonical.toSound hrequest hqueue hgroup, if_pos]
    exact (Option.any_eq_true _ _).mpr ⟨k, hk, decide_eq_true hlt⟩
  · intro queue' group' hqueue' hgroup'
    have hget : ∀ cmd, t.request ≠ .get cmd := by
      intro cmd heq
      rw [hrequest] at heq
      cases heq
    refine ⟨fun h => h.turn hqueue' hgroup' hop ht hget, fun hturns => ?_⟩
    exact (Session.rolesHold_after hqueue' hgroup' hturns).turn hqueue' hgroup' hop ht hget
  · intro id hid
    have hswept : after.toGroupContents = before.toGroupContents.sweptUpTo t.now k := by
      show GroupContents.of (Session.after (turns ++ [t])).memory.sets.contents _ = _
      rw [hlast]
      exact (Memory.executeAll_sweepPlans hcanonical.toSound t.queue t.now hq hg k).1
    have hhanded : (before.toGroupContents.sweptUpTo t.now k).Handed id ∨ id.score ≤ t.now.score :=
      GroupContents.handed_sweptUpTo (Session.natural_own_after hop t.queue hq hg (by decide) (by decide))
        (Session.natural_own_after hop t.queue hq hg (by decide) (by decide)) k hid
    rwa [← hswept] at hhanded
  · intro again hbase hnow hsame report hreply
    have hsound : (Session.after (turns ++ [t])).memory.Sound := by
      rw [hlast]
      exact hcanonical.toSound.executeAll _
    obtain ⟨-, hagain⟩ := Session.swept_of_reply hsound (hsame.trans hrequest) hqueue hgroup hreply
    -- the sweep that does not fail, from the store where this one began
    let unfailing : Turn := { t with faults := [] }
    have hsweep : unfailing.request = .sweep queue group := hrequest
    obtain ⟨whole, htold, hwhole⟩ : ∃ whole, (session.faultless.turn unfailing).1 = .ok (.swept whole)
        ∧ (session.faultless.turn unfailing).2.memory
          = session.memory.executeAll (t.queue.sweepPlans t.now queue group) :=
      Session.whole_sweep hcanonical.toSound rfl hsweep hqueue hgroup
    refine ⟨whole, htold, ?_⟩
    rw [hagain, hlast, hwhole, hnow]
    exact Memory.executeAll_take_sweepPlans hcanonical hbase.symm t.now hq hg k

/-- An event is overdue and has expired. The third execution of the sweep fails: the event has been requeued and has
    left the shared set, and is still to be handed out again. The next sweep does the rest. -/
theorem sweep_recoverable_expired :
    let turn (micros : Int) (request : Request) : Turn := { queue := {}, now := .ofMicros micros, request }
    let add (micros : Int) := turn 1000 (.add { queue := "q", expire := .ofMicros micros, contents := "x" })
    let get := turn 1000 (.get { queue := "q", group := "g", deadline := some (.ofMicros 1500) })
    let turns := [add 3000, add 4000, get, get]
    let sweep := turn 3500 (.sweep "q" "g")
    let failing : Turn := { sweep with faults := [⟨.execute, 2⟩] }
    (∀ x ∈ turns, x.request.isOperation = true)
      ∧ failing.request = .sweep "q" "g"
      ∧ checkName "queue" "q" = .ok () ∧ checkName "group" "g" = .ok ()
      ∧ PendingFault.due? .execute ((Session.after turns).faults ++ failing.faults) = some 2
      ∧ ((Session.after turns).turn failing).1 = .error (.injected "execute")
      ∧ Session.RolesHold {} "q" "g" (turns ++ [failing])
      ∧ (⟨3000⟩ : EventId) ∈ (Session.groupAfter {} "q" "g" (turns ++ [failing])).redo
      ∧ (⟨3000⟩ : EventId) ∉ (Session.groupAfter {} "q" "g" (turns ++ [failing])).available
      ∧ ((Session.after (turns ++ [failing])).turn sweep).1 = .ok (.swept { requeued := 0, purged := 1 })
      ∧ ((Session.after (turns ++ [failing])).turn sweep).2.memory
        = ((Session.after turns).faultless.turn sweep).2.memory := by
  intro turn add get turns sweep failing
  have hop : ∀ x ∈ turns, x.request.isOperation = true := by decide
  have hturns : ∀ x ∈ turns, x.WorksIn failing.queue.base := by decide
  have hqueue : checkName "queue" "q" = .ok () := by decide
  have hgroup : checkName "group" "g" = .ok () := by decide
  have hk : PendingFault.due? .execute ((Session.after turns).faults ++ failing.faults) = some 2 := by
    decide +kernel
  have hreply : ((Session.after (turns ++ [failing])).turn sweep).1
      = .ok (.swept { requeued := 0, purged := 1 }) := by
    decide +kernel
  obtain ⟨hfails, hroles, -, hagain⟩ :=
    sweep_recoverable hop (t := failing) rfl hqueue hgroup hk (by decide)
  obtain ⟨whole, -, hmemory⟩ := hagain sweep rfl rfl rfl _ hreply
  exact ⟨hop, rfl, hqueue, hgroup, hk, hfails, (hroles "q" "g" (by decide) (by decide)).2 hturns,
    by decide +kernel, by decide +kernel, hreply, hmemory⟩

end GroupQueue
