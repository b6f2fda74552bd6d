import GroupQueue.Proofs.Session.Adding
import GroupQueue.Proofs.Session.Availability
import GroupQueue.Proofs.Session.Leases
import GroupQueue.Proofs.Store.Counting

/-!
# `Proofs.Session.LeaseCount` — the leases that are counted and those that can be settled

How many events a group has on lease is asked by a count of its deadlines, and whether a lease can still be settled
is decided by an acknowledgement. Both compare the deadline with the clock, in microseconds, but not in the same
way. A count leaves out what is due at the reading, as it does for events that expire at it; an acknowledgement
at the deadline is in time. So the count falls short of what can be acknowledged by the leases that are due in
the very microsecond of the reading, and by nothing else (`leases_counted`).

## Contents
- `GroupContents.dueAt` — the leases that are due at a reading; `encard_live`, `encard_inTime`: what is counted and
  what is in time.
- `checkNames`, `Session.reply_of_len_refused`, `reply_of_ack_refused` — names that cannot be used.
- `leases_counted` — in every state that requests can lead to; `due_lease_not_counted`: a lease that can be
  acknowledged and is not counted.
-/

namespace GroupQueue

namespace GroupContents

variable (g : GroupContents) (now : Instant)

/-- The events whose deadline is in the microsecond of a clock reading. -/
def dueAt : Set EventId := {id | g.inProgressByAck[id]? = some now.score}

/-- What is counted is in time, and not due. -/
theorem encard_live :
    {id | g.inTime now id = true ∧ id ∉ g.dueAt now}.encard = (g.inProgressByAck.live now).size := by
  rw [Contents.live, ← encard_passing]
  refine congrArg Set.encard (Set.ext fun id => ?_)
  rw [Set.mem_ofPred_eq, Set.mem_ofPred_eq, dueAt, Set.mem_ofPred_eq, inTime]
  cases g.inProgressByAck[id]? with
  | none => simp
  | some deadline =>
      simp only [Option.any_some, decide_eq_true_iff, Option.some.injEq, exists_eq_left']
      omega

/-- What can be settled is counted or due. -/
theorem encard_inTime :
    {id | g.inTime now id = true}.encard = (g.inProgressByAck.live now).size + (g.dueAt now).encard := by
  have hdue : g.dueAt now ⊆ {id | g.inTime now id = true} := by
    intro id hid
    rw [Set.mem_ofPred_eq, inTime, show g.inProgressByAck[id]? = some now.score from hid]
    simp
  rw [← encard_live, ← Set.encard_sdiff_add_encard_of_subset hdue]
  rfl

end GroupContents

/-- Whether the next call fails is whether none passes before one that does. -/
theorem PendingFault.any_due? (method : StoreMethod) (faults : List PendingFault) :
    (due? method faults).any (· < 1) = (next method faults).1 := by
  rw [next_fst]
  cases due? method faults with
  | none => rfl
  | some n => simp

/-! ## Names that cannot be used -/

/-- The names of a queue and a group can be used. -/
def checkNames (queue group : String) : Except Rejection Unit := do
  checkName "queue" queue
  checkName "group" group

theorem checkNames_eq_ok_iff {queue group : String} :
    checkNames queue group = .ok () ↔ checkName "queue" queue = .ok () ∧ checkName "group" group = .ok () := by
  unfold checkNames
  cases hqueue : checkName "queue" queue with
  | error reason => simp [bind, Except.bind]
  | ok u => simp [bind, Except.bind]

/-- All else is asked for after the names have been checked. -/
theorem requireNames_of_error {α : Type} {queue group : String} {reason : Rejection}
    (h : checkNames queue group = .error reason) (rest : Operation α) :
    (do requireName "queue" queue; requireName "group" group; rest : Operation α) = throw (.validation reason) := by
  unfold checkNames at h
  unfold requireName
  cases hqueue : checkName "queue" queue with
  | error other =>
      rw [hqueue] at h
      cases h
      rfl
  | ok u =>
      simp only [hqueue, bind, Except.bind] at h
      rw [h]
      rfl

namespace Session

variable {session : Session} {t : Turn} {queue group : String} {reason : Rejection}

/-- A request that only fails is answered so. -/
theorem reply_of_throw (h : t.request.perform t.queue t.now = throw (.validation reason)) :
    (session.turn t).1 = .error (.validation reason) := by
  let ready : Session := { session with now := t.now, faults := session.faults ++ t.faults }
  show ((converse (t.request.perform t.queue t.now).run).run ready).1 = _
  rw [h]
  rfl

theorem reply_of_len_refused (hrequest : t.request = .len queue .inProgressByAck group)
    (h : checkNames queue group = .error reason) : (session.turn t).1 = .error (.validation reason) := by
  refine reply_of_throw ?_
  rw [hrequest]
  exact congrArg (Response.count <$> ·) (requireNames_of_error h _)

theorem reply_of_ack_refused {cmd : AckCommand} (hrequest : t.request = .ack cmd)
    (h : checkNames cmd.queue cmd.group = .error reason) : (session.turn t).1 = .error (.validation reason) := by
  refine reply_of_throw ?_
  rw [hrequest]
  exact congrArg (Response.acknowledged <$> ·) (requireNames_of_error h _)

end Session

/-- **A count of the leases falls short of what can be acknowledged by the leases that are due at the reading**,
    in every state that any requests lead to, whichever services share the store and whichever calls fail. If the
    names can be used and the execution of a plan is not due to fail, a count and every acknowledgement at the
    reading are answered. What is counted is what would be acknowledged in time, without the events whose deadline
    is in the very microsecond of the reading; so the two agree if and only if there are none. Else a count and
    every acknowledgement fail, and for the same reason. -/
theorem leases_counted (turns : List Turn) (q : Queue) (queue group client : String) (now : Instant)
    (faults : List PendingFault) :
    let session := Session.after turns
    let g := GroupContents.of session.memory.sets.contents (q.groupSets queue group)
    let turn (request : Request) : Turn := { queue := q, now, request, faults }
    let counted := (session.turn (turn (.len queue .inProgressByAck group))).1
    let acked (event : EventId) := (session.turn (turn (.ack { queue, group, event, client }))).1
    let passes := checkName "queue" queue = .ok () ∧ checkName "group" group = .ok ()
      ∧ (PendingFault.next .execute (session.faults ++ faults)).1 = false
    (passes → ∃ n : Nat, counted = .ok (.count n)
        ∧ (∀ event, ∃ inTime, acked event = .ok (.acknowledged inTime))
        ∧ {event | acked event = .ok (.acknowledged true) ∧ event ∉ g.dueAt now}.encard = n
        ∧ {event | acked event = .ok (.acknowledged true)}.encard = n + (g.dueAt now).encard)
      ∧ (¬ passes → ∃ failure, counted = .error failure ∧ ∀ event, acked event = .error failure) := by
  intro session g turn counted acked passes
  have hsound := Session.sound_after_all turns
  cases hnames : checkNames queue group with
  | error reason =>
      -- the names are checked before the store is asked for anything
      refine ⟨fun ⟨hqueue, hgroup, _⟩ => ?_, fun _ => ⟨.validation reason, ?_, fun event => ?_⟩⟩
      · rw [checkNames_eq_ok_iff.mpr ⟨hqueue, hgroup⟩] at hnames
        contradiction
      · exact Session.reply_of_len_refused rfl hnames
      · exact Session.reply_of_ack_refused rfl hnames
  | ok u =>
      obtain ⟨hqueue, hgroup⟩ := checkNames_eq_ok_iff.mp hnames
      have hcounted : counted
          = if (PendingFault.next .execute (session.faults ++ faults)).1 then
              .error (.injected StoreMethod.execute.name)
            else .ok (.count (g.inProgressByAck.live now).members.length) :=
        Session.reply_of_len hsound rfl hqueue fun _ => hgroup
      have hacked (event : EventId) : acked event
          = if (PendingFault.next .execute (session.faults ++ faults)).1 then
              .error (.injected StoreMethod.execute.name)
            else .ok (.acknowledged (g.inTime now event)) := by
        refine (Session.reply_of_ack (t := turn (.ack { queue, group, event, client })) rfl hqueue hgroup
          hsound).trans ?_
        rw [PendingFault.any_due?]
      constructor
      · intro hall
        have hpasses := hall.2.2
        simp only [hpasses, Bool.false_eq_true, if_false] at hcounted hacked
        have htrue (event : EventId) : acked event = .ok (.acknowledged true) ↔ g.inTime now event = true := by
          rw [hacked, Except.ok.injEq, Response.acknowledged.injEq]
        refine ⟨_, hcounted, fun event => ⟨_, hacked event⟩, ?_, ?_⟩
        · rw [Contents.length_members, ← g.encard_live now]
          exact congrArg Set.encard (Set.ext fun event => and_congr_left' (htrue event))
        · rw [Contents.length_members, ← g.encard_inTime now]
          exact congrArg Set.encard (Set.ext htrue)
      · intro hfails
        have hdue : (PendingFault.next .execute (session.faults ++ faults)).1 = true :=
          Bool.eq_true_of_not_eq_false fun hpasses => hfails ⟨hqueue, hgroup, hpasses⟩
        simp only [hdue, if_true] at hcounted hacked
        exact ⟨_, hcounted, hacked⟩

/-- Two events are on lease, and one of the leases is due at the reading: one is counted, both can be
    acknowledged. -/
theorem leases_counted_one_due :
    let turn (micros : Int) (request : Request) : Turn := { queue := {}, now := .ofMicros micros, request }
    let add (micros : Int) := turn 1000 (.add { queue := "q", expire := .ofMicros micros, contents := "x" })
    let get (deadline : Int) :=
      turn 1000 (.get { queue := "q", group := "g", deadline := some (.ofMicros deadline) })
    let turns := [add 5000, add 6000, get 2000, get 3000]
    let ack (event : EventId) := turn 2000 (.ack { queue := "q", group := "g", event })
    let g := GroupContents.of (Session.after turns).memory.sets.contents (({} : Queue).groupSets "q" "g")
    let acked (event : EventId) := ((Session.after turns).turn (ack event)).1
    acked ⟨5000⟩ = .ok (.acknowledged true) ∧ acked ⟨6000⟩ = .ok (.acknowledged true)
      ∧ ⟨5000⟩ ∈ g.dueAt (.ofMicros 2000)
      ∧ {event | acked event = .ok (.acknowledged true) ∧ event ∉ g.dueAt (.ofMicros 2000)}.encard = 1
      ∧ {event | acked event = .ok (.acknowledged true)}.encard = 1 + (g.dueAt (.ofMicros 2000)).encard := by
  intro turn add get turns ack g acked
  have hpasses : (PendingFault.next .execute ((Session.after turns).faults ++ [])).1 = false := by decide +kernel
  have hone : ((Session.after turns).turn (turn 2000 (.len "q" .inProgressByAck "g"))).1 = .ok (.count 1) := by
    decide +kernel
  have hdue : g.inProgressByAck[(⟨5000⟩ : EventId)]? = some (Instant.ofMicros 2000).score := by decide +kernel
  obtain ⟨n, hcounted, -, hlive, hacked⟩ :=
    (leases_counted turns {} "q" "g" "" (.ofMicros 2000) []).1 ⟨by decide, by decide, hpasses⟩
  cases hone.symm.trans hcounted
  rw [Nat.cast_one] at hlive hacked
  exact ⟨by decide +kernel, by decide +kernel, hdue, hlive, hacked⟩

/-- **A lease that is due at the reading can be acknowledged and is not counted.** -/
theorem due_lease_not_counted :
    let turn (micros : Int) (request : Request) : Turn := { queue := {}, now := .ofMicros micros, request }
    let session := Session.after [
      turn 1000 (.add { queue := "q", expire := .ofMicros 5000, contents := "x" }),
      turn 1000 (.get { queue := "q", group := "g", deadline := some (.ofMicros 2000) })]
    (session.turn (turn 2000 (.len "q" .inProgressByAck "g"))).1 = .ok (.count 0)
      ∧ (session.turn (turn 2000 (.ack { queue := "q", group := "g", event := ⟨5000⟩ }))).1
        = .ok (.acknowledged true) := by
  decide +kernel

end GroupQueue
