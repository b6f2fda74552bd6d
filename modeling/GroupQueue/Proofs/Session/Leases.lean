import GroupQueue.Proofs.Session.Backing
import GroupQueue.Proofs.Session.Delivery
import GroupQueue.Proofs.Session.Namespaces
import GroupQueue.Proofs.Session.Redelivery
import GroupQueue.Proofs.Session.Roles
import GroupQueue.Proofs.Session.Sweeping

/-!
# `Proofs.Session.Leases` — an event in progress is acknowledged or requeued, and never both

A group that takes an event with a deadline has it on lease. Until the deadline has passed the lease can be
settled, by an acknowledgement; from then on it can be revoked, by a sweep. What the one can do at some clock
reading is exactly what the other cannot. An acknowledgement that comes too late changes nothing at all.

A lease is settled once. To settle it again the event has to be on lease again, and nothing but a get with a
deadline puts it there: not even an event that is added in an overlapping namespace, as its identifier is new.

## Contents
- `GroupContents.mem_overdue_iff_not_inTime` — what a sweep revokes and what an acknowledgement can settle.
- `executes_ack`, `Session.reply_of_ack`, `Session.acknowledged_of_reply`, `Session.unchanged_of_reply` — a turn
  that acknowledges an event; `Session.mem_overdue_iff_refused`: a sweep in its place.
- `Session.issued_after`, `Session.issued_turn` — what is in any set has an identifier that was issued.
- `Session.takes_of_leased`, `Session.taken_or_unleased` — how an event comes to be on lease.
- `Session.delivers_of_takes`, `Session.delivers_of_faultless` — when an event that is taken is handed out.
- `Turn.Acknowledges` — an acknowledgement in time; `Session.taken_between`: two of them.
- `leases_split` — all of this in every state that a run can reach.
-/

namespace GroupQueue

/-- **What an acknowledgement cannot settle a sweep revokes**, and nothing else. -/
theorem GroupContents.mem_overdue_iff_not_inTime {g : GroupContents} {now : Instant} {id : EventId} :
    id ∈ g.overdue now ↔ id ∈ g.inProgressByAck ∧ g.inTime now id = false := by
  rw [GroupContents.mem_overdue_iff, Contents.mem_iff, GroupContents.inTime]
  cases hdeadline : g.inProgressByAck[id]? with
  | none => simp
  | some deadline => simp

/-! ## Acknowledging -/

/-- Acknowledging an event executes one plan, and makes no other calls. -/
theorem executes_ack (q : Queue) (now : Instant) {cmd : AckCommand}
    (hqueue : checkName "queue" cmd.queue = .ok ()) (hgroup : checkName "group" cmd.group = .ok ()) :
    Executes [q.ackPlan now cmd] (q.ack now cmd) := by
  unfold Queue.ack
  refine .requireName hqueue (.requireName hgroup (.within _ ?_))
  refine (Executes.runPlan _ _ (valid_ackPlan q now cmd)).andThenNothing fun selected => ?_
  exact .reportThen (.noteThen (.finish _))

/-- The plan of an acknowledgement that comes too late changes nothing. -/
theorem Memory.execute_ackPlan_of_late {memory : Memory} (h : memory.Canonical) (q : Queue) (now : Instant)
    {cmd : AckCommand} (hqueue : ColonFree cmd.queue) (hgroup : ColonFree cmd.group)
    (hlate : (GroupContents.of memory.sets.contents (q.groupSets cmd.queue cmd.group)).inTime now cmd.event
      = false) :
    (memory.execute (q.ackPlan now cmd)).2 = memory := by
  have hcanonical := h.execute (q.ackPlan now cmd)
  obtain ⟨executed, after, heq, -, hcontents, hframe⟩ := execute_ackPlan h.toSound q now hqueue hgroup
  rw [GroupContents.settle, if_neg (Bool.eq_false_iff.mp hlate)] at hcontents
  rw [heq] at hcanonical ⊢
  refine eq_of_contents hcanonical h (fun key => ?_) rfl rfl
  by_cases hkey : key ∈ (q.groupSets cmd.queue cmd.group).keys
  · exact GroupContents.eq_of_of_eq hcontents key hkey
  · exact hframe key hkey

namespace Session

variable {session : Session} {q : Queue} {queue group : String} {id : EventId} {turns : List Turn} {t : Turn}
  {cmd : AckCommand}

section Ack

variable (hrequest : t.request = .ack cmd) (hqueue : checkName "queue" cmd.queue = .ok ())
  (hgroup : checkName "group" cmd.group = .ok ())

include hrequest hqueue hgroup

theorem executes_of_ack : Executes [t.queue.ackPlan t.now cmd] (t.request.perform t.queue t.now) := by
  rw [hrequest]
  exact (executes_ack t.queue t.now hqueue hgroup).mapResult _

/-- What the caller is told: whether the event is in progress and in time, unless the execution is due to fail. -/
theorem reply_of_ack (hsound : session.memory.Sound) :
    (session.turn t).1
      = if (PendingFault.due? .execute (session.faults ++ t.faults)).any (· < 1) then
          .error (.injected StoreMethod.execute.name)
        else
          .ok (.acknowledged ((GroupContents.of session.memory.sets.contents
            (t.queue.groupSets cmd.queue cmd.group)).inTime t.now cmd.event)) := by
  obtain ⟨after, hconverse, -⟩ := @Memory.converse_ack _ t.queue t.now hsound cmd hqueue hgroup
  rw [reply_of_executes (executes_of_ack hrequest hqueue hgroup), hrequest, Request.perform,
    Memory.converse_mapResult, hconverse]
  rfl

/-- An event that is acknowledged in time is done, and that is all that changes. -/
theorem acknowledged_of_reply (hsound : session.memory.Sound)
    (hreply : (session.turn t).1 = .ok (.acknowledged true)) :
    let sets := t.queue.groupSets cmd.queue cmd.group
    let g := GroupContents.of session.memory.sets.contents sets
    let last := (session.turn t).2.memory
    g.inTime t.now cmd.event = true
      ∧ GroupContents.of last.sets.contents sets
        = { g with
            inProgressById := g.inProgressById.erase cmd.event
            inProgressByAck := g.inProgressByAck.erase cmd.event
            done := g.done.insert cmd.event cmd.event.score }
      ∧ (∀ key ∉ sets.keys, last.sets.contents key = session.memory.sets.contents key)
      ∧ last.payloads = session.memory.payloads ∧ last.lastId = session.memory.lastId := by
  intro sets g last
  have hexecutes := executes_of_ack hrequest hqueue hgroup
  obtain ⟨executed, after, heq, -, hcontents, hframe⟩ :=
    Memory.execute_ackPlan hsound t.queue t.now (colonFree_of_checkName hqueue) (colonFree_of_checkName hgroup)
  rw [reply_of_ack hrequest hqueue hgroup hsound] at hreply
  split at hreply
  · cases hreply
  · next hdue =>
    have hin : g.inTime t.now cmd.event = true := Response.acknowledged.inj (Except.ok.inj hreply)
    -- the execution has not failed, so the plan has been executed
    have hlast : last = { session.memory with sets := after } := by
      show (session.turn t).2.memory = _
      rw [memory_of_executes hexecutes, List.take_of_length_le, Memory.executeAll_cons, heq]
      · rfl
      · cases hleft : PendingFault.due? .execute (session.faults ++ t.faults) with
        | none => exact Nat.le_refl 1
        | some n =>
            rw [hleft] at hdue
            exact Nat.not_lt.mp fun hlt => hdue (decide_eq_true hlt)
    rw [GroupContents.settle, if_pos hin] at hcontents
    rw [hlast]
    exact ⟨hin, hcontents, hframe, rfl, rfl⟩

/-- Whatever else the caller is told, nothing has changed. -/
theorem unchanged_of_reply (hcanonical : session.memory.Canonical)
    (hreply : (session.turn t).1 ≠ .ok (.acknowledged true)) :
    (session.turn t).2.memory = session.memory := by
  have hexecutes := executes_of_ack hrequest hqueue hgroup
  rw [memory_of_executes hexecutes]
  rw [reply_of_ack hrequest hqueue hgroup hcanonical.toSound] at hreply
  split at hreply
  · next hdue =>
    -- the execution fails before it reaches the store
    obtain ⟨n, hn, hlt⟩ := (Option.any_eq_true _ _).mp hdue
    obtain rfl : n = 0 := Nat.lt_one_iff.mp (of_decide_eq_true hlt)
    rw [hn]
    rfl
  · have hlate : (GroupContents.of session.memory.sets.contents
        (t.queue.groupSets cmd.queue cmd.group)).inTime t.now cmd.event = false := by
      refine Bool.eq_false_iff.mpr fun hin => hreply ?_
      rw [hin]
    have hsame := Memory.execute_ackPlan_of_late hcanonical t.queue t.now (colonFree_of_checkName hqueue)
      (colonFree_of_checkName hgroup) hlate
    cases (PendingFault.due? .execute (session.faults ++ t.faults)).getD _ with
    | zero => rfl
    | succ n =>
        rw [List.take_succ_cons, List.take_nil, Memory.executeAll_cons, hsame]
        rfl

end Ack

/-- **What a sweep requeues** is what is on lease and could not be acknowledged instead of the sweep. -/
theorem mem_overdue_iff_refused (hsound : session.memory.Sound) (hrequest : t.request = .sweep queue group)
    (hqueue : checkName "queue" queue = .ok ()) (hgroup : checkName "group" group = .ok ())
    {report : SweepReport} (hreply : (session.turn t).1 = .ok (.swept report)) (event : EventId)
    (client : String) :
    let g := GroupContents.of session.memory.sets.contents (t.queue.groupSets queue group)
    event ∈ g.overdue t.now ↔ event ∈ g.inProgressByAck
      ∧ (session.turn { t with request := .ack { queue, group, event, client } }).1
        = .ok (.acknowledged false) := by
  intro g
  -- no execution of the sweep fails, so that of the acknowledgement does not either
  have hpasses : ¬ (PendingFault.due? .execute (session.faults ++ t.faults)).any (· < 1) = true := by
    intro hdue
    obtain ⟨n, hn, hlt⟩ := (Option.any_eq_true _ _).mp hdue
    have hle := not_due_of_swept hsound hrequest hqueue hgroup hreply n hn
    exact absurd (of_decide_eq_true hlt) (by omega)
  let ack : Turn := { t with request := .ack { queue, group, event, client } }
  have hack : ack.request = .ack { queue, group, event, client } := rfl
  have hanswer : (session.turn ack).1 = .ok (.acknowledged (g.inTime t.now event)) :=
    (reply_of_ack hack hqueue hgroup hsound).trans (if_neg hpasses)
  rw [hanswer, GroupContents.mem_overdue_iff_not_inTime, Except.ok.injEq, Response.acknowledged.injEq]

/-! ## Identifiers that were issued -/

/-- **What is in any set has an identifier that was issued**, in every state that a run can reach. -/
theorem issued_after (hop : ∀ x ∈ turns, x.request.isOperation = true) {key : String}
    (hid : id ∈ (after turns).memory.sets.contents key) : (groupAfter q queue group turns).Issued id :=
  issued_of_mem hop hid

/-- Identifiers are issued for good. -/
theorem issued_turn (hqueue : ColonFree queue) (hgroup : ColonFree group)
    (hop : ∀ x ∈ turns, x.request.isOperation = true) (ht : t.request.isOperation = true)
    (h : (groupAfter q queue group turns).Issued id) : (groupAfter q queue group (turns ++ [t])).Issued id := by
  refine (moves_of_own_turn (q := t.queue) hqueue hgroup hop ⟨ht, rfl⟩).keeps (I := fun s => s.Issued id) ?_ h
  exact fun move s _ hallowed hs => hs.move hallowed

/-! ## How an event comes to be on lease -/

/-- An event whose identifier was issued does not come into the shared set of a queue. -/
theorem not_mem_available_turn (hqueue : ColonFree queue) (hgroup : ColonFree group)
    (hop : ∀ x ∈ turns, x.request.isOperation = true) (ht : t.request.isOperation = true)
    (hissued : (groupAfter t.queue queue group turns).Issued id)
    (hout : id ∉ (groupAfter t.queue queue group turns).available) :
    id ∉ (groupAfter t.queue queue group (turns ++ [t])).available := by
  refine ((moves_of_own_turn (q := t.queue) hqueue hgroup hop ⟨ht, rfl⟩).keeps
    (I := fun s => s.Issued id ∧ id ∉ s.available) ?_ ⟨hissued, hout⟩).2
  rintro move s - hallowed ⟨hissued, hout⟩
  refine ⟨hissued.move hallowed, fun hin => ?_⟩
  rcases GroupState.mem_available_of_move hin with hin | rfl
  · exact hout hin
  · -- the identifier of an event that is offered is later than all before it
    obtain ⟨last, hlast, hle⟩ := hissued
    exact Int.not_lt.mpr hle (hallowed last hlast)

/-- **Only a get with a deadline puts an event on lease**, whichever services share the store. -/
theorem takes_of_leased (hqueue : ColonFree queue) (hgroup : ColonFree group)
    (hop : ∀ x ∈ turns, x.request.isOperation = true) (ht : t.request.isOperation = true)
    (hissued : (groupAfter q queue group turns).Issued id)
    (hout : id ∉ (groupAfter q queue group turns).inProgressByAck)
    (hin : id ∈ (groupAfter q queue group (turns ++ [t])).inProgressByAck) :
    t.queue.base = q.base ∧ ∃ deadline, t.Takes (after turns) queue group id (some deadline) := by
  by_cases hbase : t.queue.base = q.base
  · obtain ⟨score, hscore⟩ := Contents.mem_iff.mp hin
    rcases deadline_of_turn hqueue hgroup hop ⟨ht, hbase⟩ hscore with ⟨deadline, -, htakes⟩ | ⟨hold, -⟩
    · exact ⟨hbase, deadline, htakes⟩
    · exact absurd (Contents.mem_iff.mpr ⟨score, hold⟩) hout
  · exfalso
    by_cases hshared : ∃ queue' group', ColonFree queue' ∧ ColonFree group'
        ∧ (t.queue.eventSet queue' .available group').key = (q.eventSet queue .inProgressByAck group).key
    · -- the set is the shared one of a queue in the namespace of the turn
      obtain ⟨queue', group', hqueue', hgroup', hkey⟩ := hshared
      have hsame (turns : List Turn) : (groupAfter t.queue queue' group' turns).available
          = (groupAfter q queue group turns).inProgressByAck :=
        congrArg (after turns).memory.sets.contents hkey
      rw [← hsame] at hout hin
      exact not_mem_available_turn hqueue' hgroup' hop ht hissued hout hin
    · -- or it is not a set of that namespace
      refine hout ?_
      have hother : (groupAfter q queue group (turns ++ [t])).inProgressByAck
          = (groupAfter q queue group turns).inProgressByAck := by
        refine contents_of_other hop ht fun queue' role group' hqueue' hgroup' hkey => ?_
        by_cases hrole : role = .available
        · rw [hrole] at hkey
          exact hshared ⟨queue', group', hqueue', hgroup', hkey⟩
        · exact hbase (perGroup_of_key_eq (Role.isPerGroup_iff.mpr hrole) rfl hqueue' hqueue hgroup' hgroup
            hkey).1
      rwa [hother] at hin

/-- **An event that is on lease again has been taken again**, by induction on the turns. -/
theorem taken_or_unleased (hqueue : ColonFree queue) (hgroup : ColonFree group) {start turns : List Turn}
    (hop : ∀ x ∈ start ++ turns, x.request.isOperation = true)
    (hissued : (groupAfter q queue group start).Issued id)
    (hout : id ∉ (groupAfter q queue group start).inProgressByAck) :
    (∃ before t later deadline, turns = before ++ t :: later ∧ t.queue.base = q.base
      ∧ t.Takes (after (start ++ before)) queue group id (some deadline))
    ∨ (groupAfter q queue group (start ++ turns)).Issued id
      ∧ id ∉ (groupAfter q queue group (start ++ turns)).inProgressByAck := by
  induction turns using List.reverseRecOn with
  | nil =>
      rw [List.append_nil]
      exact Or.inr ⟨hissued, hout⟩
  | append_singleton turns t ih =>
      rw [← List.append_assoc, List.forall_mem_append, List.forall_mem_singleton] at hop
      obtain ⟨hbefore, ht⟩ := hop
      rcases ih hbefore with ⟨before, x, later, deadline, rfl, hbase, htakes⟩ | ⟨hissued, hout⟩
      · exact Or.inl ⟨before, x, later ++ [t], deadline, by simp, hbase, htakes⟩
      · rw [← List.append_assoc]
        by_cases hin : id ∈ (groupAfter q queue group (start ++ turns ++ [t])).inProgressByAck
        · obtain ⟨hbase, deadline, htakes⟩ := takes_of_leased hqueue hgroup hbefore ht hissued hout hin
          exact Or.inl ⟨turns, t, [], deadline, rfl, hbase, htakes⟩
        · exact Or.inr ⟨issued_turn hqueue hgroup hbefore ht hissued, hin⟩

/-- What a turn takes it delivers, if it does not fail. -/
theorem delivers_of_takes (hop : ∀ x ∈ turns, x.request.isOperation = true) {deadline : Option Instant}
    (htaken : t.Takes (after turns) queue group id deadline)
    (hfails : ∀ failure, ((after turns).turn t).1 ≠ .error failure) :
    t.Delivers (after turns) queue group id := by
  have hget := htaken
  obtain ⟨cmd, hrequest, rfl, rfl, -⟩ := hget
  have ht : t.WorksIn t.queue.base := ⟨by rw [hrequest]; rfl, rfl⟩
  obtain ⟨result, hresult, -⟩ := getOutcome_of_turn hop hrequest
  cases result with
  | error failure => exact absurd hresult (hfails failure)
  | ok event? =>
      obtain ⟨-, -, hnext, -⟩ := own_get_of_turn hop hrequest hresult
      rcases dequeue_of_turn hop ht hrequest with ⟨-, hnone⟩ | ⟨-, htakes⟩
      · exact absurd htaken (hnone id deadline)
      · rw [((htakes id deadline).mp htaken).2] at hnext
        obtain ⟨event, rfl, hid⟩ := Option.map_eq_some_iff.mp hnext
        exact ⟨cmd, event, hrequest, rfl, rfl, hresult, hid⟩

/-- It does not fail if no call fails, the clock has not gone back and is not at its end, and no other namespace
    overlaps with this one. -/
theorem delivers_of_faultless (hrun : ∀ x ∈ turns ++ [t], x.request.isOperation = true ∧ x.faults = [])
    (hnow : ∀ x ∈ turns, x.now ≤ t.now) (hlast : t.now < Instant.latest)
    (hapart : ∀ x ∈ turns, x.queue.Apart q) (hbase : t.queue.base = q.base)
    (hqueue : checkName "queue" queue = .ok ()) (hgroup : checkName "group" group = .ok ())
    {deadline : Option Instant} (htaken : t.Takes (after turns) queue group id deadline) :
    t.Delivers (after turns) queue group id := by
  have hop : ∀ x ∈ turns, x.request.isOperation = true := fun x hx => (hrun x (List.mem_append_left _ hx)).1
  refine delivers_of_takes hop htaken fun failure hfailure => ?_
  obtain ⟨cmd, hrequest, rfl, rfl, -⟩ := htaken
  obtain ⟨event?, hreply, -⟩ := get_of_faultless hrun hnow hlast hapart hbase hrequest hqueue hgroup
  rw [hreply] at hfailure
  contradiction

end Session

/-- A turn acknowledges an event for a group of a service, in time. -/
def Turn.Acknowledges (t : Turn) (session : Session) (q : Queue) (queue group : String) (id : EventId) : Prop :=
  t.queue.base = q.base ∧ (∃ client, t.request = .ack { queue, group, event := id, client })
    ∧ (session.turn t).1 = .ok (.acknowledged true)

section Run

variable {q : Queue} {queue group : String} {id : EventId} {turns : List Turn} {t : Turn}

/-- What is acknowledged in time is on lease before, and not any more after. -/
theorem Session.leased_of_acknowledges (hop : ∀ x ∈ turns, x.request.isOperation = true)
    (hqueue : checkName "queue" queue = .ok ()) (hgroup : checkName "group" group = .ok ())
    (h : t.Acknowledges (Session.after turns) q queue group id) :
    id ∈ (Session.groupAfter q queue group turns).inProgressByAck
      ∧ id ∉ (Session.groupAfter q queue group (turns ++ [t])).inProgressByAck := by
  obtain ⟨hbase, ⟨client, hrequest⟩, hreply⟩ := h
  obtain ⟨hin, hcontents, -⟩ :=
    Session.acknowledged_of_reply hrequest hqueue hgroup (Session.sound_after hop) hreply
  rw [Queue.groupSets_of_base hbase] at hin hcontents
  refine ⟨GroupContents.mem_ack_of_inTime hin, ?_⟩
  have hafter := congrArg GroupContents.inProgressByAck hcontents
  rw [← Session.after_concat] at hafter
  show id ∉ (GroupContents.of _ (q.groupSets queue group)).inProgressByAck
  rw [hafter]
  exact fun hmem => (Contents.mem_erase_iff.mp hmem).1 rfl

/-- **Between two acknowledgements in time, the event is taken** with a deadline, and handed out unless that fails.
    In a run without failing calls it does not fail, if the clock does not go back and namespaces do not overlap. -/
theorem Session.taken_between {before between : List Turn} {first again : Turn}
    (hop : ∀ x ∈ before ++ first :: between, x.request.isOperation = true)
    (hqueue : checkName "queue" queue = .ok ()) (hgroup : checkName "group" group = .ok ())
    (hfirst : first.Acknowledges (Session.after before) q queue group id)
    (hagain : again.Acknowledges (Session.after (before ++ first :: between)) q queue group id) :
    ∃ earlier x later deadline, between = earlier ++ x :: later ∧ x.queue.base = q.base
      ∧ x.Takes (Session.after (before ++ first :: earlier)) queue group id (some deadline)
      ∧ ((∀ failure, ((Session.after (before ++ first :: earlier)).turn x).1 ≠ .error failure) →
        x.Delivers (Session.after (before ++ first :: earlier)) queue group id)
      ∧ ((∀ y ∈ before ++ first :: between, y.faults = [] ∧ y.queue.Apart q) →
        (before ++ first :: between).Pairwise (fun y z => y.now ≤ z.now) → x.now < Instant.latest →
        x.Delivers (Session.after (before ++ first :: earlier)) queue group id) := by
  have hq := colonFree_of_checkName hqueue
  have hg := colonFree_of_checkName hgroup
  obtain ⟨hbefore, hlater⟩ := List.forall_mem_append.mp hop
  have hop' : ∀ x ∈ before ++ [first] ++ between, x.request.isOperation = true := by
    rwa [← List.append_cons]
  -- the first acknowledgement ends the lease, and the second one finds the event on lease
  obtain ⟨hin, hout⟩ := Session.leased_of_acknowledges hbefore hqueue hgroup hfirst
  obtain ⟨hin', -⟩ := Session.leased_of_acknowledges hop hqueue hgroup hagain
  have hissued : (Session.groupAfter q queue group (before ++ [first])).Issued id :=
    Session.issued_turn hq hg hbefore (hlater first List.mem_cons_self) (Session.issued_after hbefore hin)
  rcases Session.taken_or_unleased hq hg hop' hissued hout with
    ⟨earlier, x, later, deadline, rfl, hbase, htakes⟩ | ⟨-, hout'⟩
  · have hsplit : before ++ first :: (earlier ++ x :: later) = before ++ first :: earlier ++ [x] ++ later := by simp
    rw [← List.append_cons] at htakes
    rw [hsplit] at hop ⊢
    have hreached := (List.forall_mem_append.mp hop).1
    refine ⟨earlier, x, later, deadline, rfl, hbase, htakes, ?_, fun hrun hclock hlast => ?_⟩
    · exact Session.delivers_of_takes (List.forall_mem_append.mp hreached).1 htakes
    · obtain ⟨hrun, -⟩ := List.forall_mem_append.mp hrun
      have hnow : ∀ y ∈ before ++ first :: earlier, y.now ≤ x.now := fun y hy =>
        (List.pairwise_append.mp (List.pairwise_append.mp hclock).1).2.2 y hy x (List.mem_singleton_self x)
      exact Session.delivers_of_faultless (fun y hy => ⟨hreached y hy, (hrun y hy).1⟩) hnow hlast
        (fun y hy => (hrun y (List.mem_append_left _ hy)).2) hbase hqueue hgroup htakes
  · rw [← List.append_cons] at hout'
    exact absurd hin' hout'

end Run

/-- **Acknowledging and sweeping split the events on lease**, in every state that a run can reach, whichever services
    share the store. An acknowledgement is answered with whether the event is on lease and its deadline has not
    passed. If so, the event is done, with its own score, and no longer in progress; if not, or if the acknowledgement
    fails, nothing changes. A sweep at the same clock reading requeues the events on lease for which the answer would
    be no. And between two acknowledgements of an event that are answered yes, a get with a deadline takes the event
    for the group, and hands it out unless the get fails. It does not fail, before the last instant there is, if no
    call of the run fails, the clock does not go back and no other namespace overlaps with this one; the readings
    that a get takes for its plan and for the payload are one. -/
theorem leases_split {turns : List Turn} (hop : ∀ x ∈ turns, x.request.isOperation = true) (q : Queue)
    {queue group : String} (hqueue : checkName "queue" queue = .ok ())
    (hgroup : checkName "group" group = .ok ()) :
    let session := Session.after turns
    let sets := q.groupSets queue group
    let g := GroupContents.of session.memory.sets.contents sets
    (∀ (t : Turn) (event : EventId) (client : String), t.queue.base = q.base →
      t.request = .ack { queue, group, event, client } →
      let last := (session.turn t).2.memory
      ∃ inTime : Bool,
        (inTime = true ↔ ∃ deadline, g.inProgressByAck[event]? = some deadline ∧ t.now.score ≤ deadline)
        ∧ (session.turn t).1
          = (if (PendingFault.due? .execute (session.faults ++ t.faults)).any (· < 1) then
              .error (.injected StoreMethod.execute.name)
            else .ok (.acknowledged inTime))
        ∧ ((session.turn t).1 = .ok (.acknowledged true) →
          GroupContents.of last.sets.contents sets
              = { g with
                  inProgressById := g.inProgressById.erase event
                  inProgressByAck := g.inProgressByAck.erase event
                  done := g.done.insert event event.score }
            ∧ (∀ key ∉ sets.keys, last.sets.contents key = session.memory.sets.contents key)
            ∧ last.payloads = session.memory.payloads ∧ last.lastId = session.memory.lastId)
        ∧ ((session.turn t).1 ≠ .ok (.acknowledged true) → last = session.memory))
    ∧ (∀ (s : Turn) (report : SweepReport), s.queue.base = q.base → s.request = .sweep queue group →
      (session.turn s).1 = .ok (.swept report) →
      let swept := GroupContents.of (session.turn s).2.memory.sets.contents sets
      ∃ moved : List EventId, moved.Nodup ∧ report.requeued = moved.length
        ∧ swept.inProgressById = Contents.without g.inProgressById moved
        ∧ swept.inProgressByAck = Contents.without g.inProgressByAck moved
        ∧ swept.redo = Contents.live (Contents.upsert g.redo (moved.map Member.natural)) s.now
        ∧ ∀ event client, event ∈ moved ↔ event ∈ g.inProgressByAck
          ∧ (session.turn { s with request := .ack { queue, group, event, client } }).1
            = .ok (.acknowledged false))
    ∧ ∀ (before between : List Turn) (first again : Turn) (event : EventId), turns = before ++ first :: between →
        first.Acknowledges (Session.after before) q queue group event →
        again.Acknowledges session q queue group event →
        ∃ earlier x later deadline, between = earlier ++ x :: later ∧ x.queue.base = q.base
          ∧ x.Takes (Session.after (before ++ first :: earlier)) queue group event (some deadline)
          ∧ ((∀ failure, ((Session.after (before ++ first :: earlier)).turn x).1 ≠ .error failure) →
            x.Delivers (Session.after (before ++ first :: earlier)) queue group event)
          ∧ ((∀ y ∈ turns, y.faults = [] ∧ y.queue.Apart q) → turns.Pairwise (fun y z => y.now ≤ z.now) →
            x.now < Instant.latest →
            x.Delivers (Session.after (before ++ first :: earlier)) queue group event) := by
  intro session sets g
  have hcanonical : session.memory.Canonical := Session.canonical_after hop
  have hsound : session.memory.Sound := hcanonical.toSound
  have hq := colonFree_of_checkName hqueue
  have hg := colonFree_of_checkName hgroup
  refine ⟨?_, ?_, ?_⟩
  · intro t event client hbase hrequest last
    have hsets : t.queue.groupSets queue group = sets := Queue.groupSets_of_base hbase queue group
    refine ⟨g.inTime t.now event, ?_, ?_, ?_, ?_⟩
    · simp only [GroupContents.inTime, Option.any_eq_true, decide_eq_true_iff]
    · rw [Session.reply_of_ack hrequest hqueue hgroup hsound, hsets]
    · intro hreply
      obtain ⟨-, heffect⟩ := Session.acknowledged_of_reply hrequest hqueue hgroup hsound hreply
      rwa [hsets] at heffect
    · exact Session.unchanged_of_reply hrequest hqueue hgroup hcanonical
  · intro s report hbase hrequest hreply swept
    have hsets : s.queue.groupSets queue group = sets := Queue.groupSets_of_base hbase queue group
    obtain ⟨hreport, hlast⟩ := Session.swept_of_reply hsound hrequest hqueue hgroup hreply
    obtain ⟨hcontents, -⟩ := Memory.contents_of_swept hsound s.queue s.now hq hg
    rw [hsets] at hreport hcontents
    have hswept : swept = g.sweep s.now := by
      show GroupContents.of (session.turn s).2.memory.sets.contents sets = _
      rw [hlast, hcontents]
    refine ⟨g.overdue s.now, Contents.nodup_ids _, congrArg SweepReport.requeued hreport, ?_, ?_, ?_, ?_⟩
    · rw [hswept]
      rfl
    · rw [hswept, g.without_overdue]
      rfl
    · rw [hswept]
      rfl
    · intro event client
      have hmoved := Session.mem_overdue_iff_refused hsound hrequest hqueue hgroup hreply event client
      rwa [hsets] at hmoved
  · rintro before between first again event rfl hfirst hagain
    exact Session.taken_between hop hqueue hgroup hfirst hagain

/-- A group has three events on lease, acknowledges the last one, and takes it again. At its deadline it can be
    acknowledged once more, as it has been taken in between, and handed out. A microsecond later it cannot. -/
theorem leases_split_at_deadline :
    let turn (micros : Int) (request : Request) : Turn := { queue := {}, now := .ofMicros micros, request }
    let add (micros : Int) := turn 1000 (.add { queue := "q", expire := .ofMicros micros, contents := "x" })
    let get := turn 1000 (.get { queue := "q", group := "g", deadline := some (.ofMicros 2000) })
    let ack (micros : Int) := turn micros (.ack { queue := "q", group := "g", event := ⟨7000⟩ })
    let start := [add 5000, add 6000, add 7000, get, get, get]
    let turns := start ++ ack 1000 :: [get]
    (∀ x ∈ turns, x.request.isOperation = true)
      ∧ checkName "queue" "q" = .ok () ∧ checkName "group" "g" = .ok ()
      ∧ (ack 1000).Acknowledges (Session.after start) {} "q" "g" ⟨7000⟩
      ∧ (ack 2000).Acknowledges (Session.after turns) {} "q" "g" ⟨7000⟩
      ∧ (∃ earlier x later deadline, [get] = earlier ++ x :: later ∧ x.queue.base = "scoreq"
        ∧ x.Takes (Session.after (start ++ ack 1000 :: earlier)) "q" "g" ⟨7000⟩ (some deadline)
        ∧ x.Delivers (Session.after (start ++ ack 1000 :: earlier)) "q" "g" ⟨7000⟩)
      ∧ ((Session.after turns).turn (ack 2001)).1 = .ok (.acknowledged false)
      ∧ ((Session.after turns).turn (ack 2001)).2.memory = (Session.after turns).memory := by
  intro turn add get ack start turns
  have hop : ∀ x ∈ turns, x.request.isOperation = true := by decide
  have hqueue : checkName "queue" "q" = .ok () := by decide
  have hgroup : checkName "group" "g" = .ok () := by decide
  have hfirst : (ack 1000).Acknowledges (Session.after start) {} "q" "g" ⟨7000⟩ :=
    ⟨rfl, ⟨"", rfl⟩, by decide +kernel⟩
  have hagain : (ack 2000).Acknowledges (Session.after turns) {} "q" "g" ⟨7000⟩ :=
    ⟨rfl, ⟨"", rfl⟩, by decide +kernel⟩
  have hlate : ((Session.after turns).turn (ack 2001)).1 = .ok (.acknowledged false) := by decide +kernel
  obtain ⟨hacks, -, hbetween⟩ := leases_split hop {} hqueue hgroup
  obtain ⟨-, -, -, -, hunchanged⟩ := hacks (ack 2001) ⟨7000⟩ "" rfl rfl
  obtain ⟨earlier, x, later, deadline, hsplit, hbase, htakes, -, hdelivers⟩ :=
    hbetween start [get] (ack 1000) (ack 2000) ⟨7000⟩ rfl hfirst hagain
  -- nothing stands in the way of the get
  have hsmooth : ∀ y ∈ turns, y.faults = [] ∧ y.queue.base = "scoreq" := by decide
  have hclock : turns.Pairwise fun y z => y.now ≤ z.now := by decide
  have hx : x ∈ [get] := hsplit ▸ List.mem_append_right _ List.mem_cons_self
  have hnow : x.now < Instant.latest := by
    rw [List.mem_singleton.mp hx]
    decide
  have hdelivered := hdelivers (fun y hy => ⟨(hsmooth y hy).1, Queue.apart_of_base_eq (hsmooth y hy).2⟩) hclock hnow
  refine ⟨hop, hqueue, hgroup, hfirst, hagain,
    ⟨earlier, x, later, deadline, hsplit, hbase, htakes, hdelivered⟩, hlate, hunchanged ?_⟩
  rw [hlate]
  decide

end GroupQueue
