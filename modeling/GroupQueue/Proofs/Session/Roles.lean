import GroupQueue.Proofs.Queue.Roles
import GroupQueue.Proofs.Session.Moves

/-!
# `Proofs.Session.Roles` — what the sets of a group mean in every state that a run can reach

What is on record for a group can be traced back to the turns of the run. A deadline is the one of the
latest get that took the event with a deadline; a deadline without an event in progress tells of a get by
which the event had expired; and whatever is on record for the group was once added to its queue.

A get without a deadline leaves no deadline, and leaves the one that there is. A group that goes back to
the lesser of its two cursors may so take an event in progress again, and have it both done and in
progress, with the deadline of the get before.

## Contents
- `Turn.Takes` — a group takes an event; `dequeue_of_turn`.
- `Session.deadline_of_turn` — how a turn comes to leave a deadline on record.
- `Session.LatestDeadline`, `Session.Added` — where deadlines and events come from.
- `latest_deadline_after`, `expired_after`, `added_after` — by induction on the turns.
- `roles_of_reachable` — the meaning of the sets; `deadline_of_earlier_get`.
-/

namespace GroupQueue

/-- A turn takes an event for a group, with or without a deadline: the plan of a get selects the event,
    and the turn does not fail before the plan has been executed. -/
def Turn.Takes (t : Turn) (session : Session) (queue group : String) (id : EventId)
    (deadline : Option Instant) : Prop :=
  ∃ cmd, t.request = .get cmd ∧ cmd.queue = queue ∧ cmd.group = group ∧ cmd.deadline = deadline
    ∧ (session.memory.execute (t.queue.getPlan t.now cmd)).1.map Executed.events = .ok [id]
    ∧ ∀ failure, (session.turn t).1 = .error failure →
      failure = .payloadMissing id ∨ failure = .injected StoreMethod.getPayload.name

namespace Session

variable {q : Queue} {queue group : String} {id : EventId} {turns : List Turn} {t : Turn}

/-- A get changes nothing and takes nothing, or the group takes what is next in turn, whichever services share the
    store. -/
theorem dequeue_of_turn (hop : ∀ x ∈ turns, x.request.isOperation = true) (ht : t.WorksIn q.base)
    {cmd : GetCommand} (hrequest : t.request = .get cmd) :
    (groupAfter q cmd.queue cmd.group (turns ++ [t]) = groupAfter q cmd.queue cmd.group turns
      ∧ ∀ id deadline, ¬ t.Takes (after turns) cmd.queue cmd.group id deadline)
    ∨ groupAfter q cmd.queue cmd.group (turns ++ [t])
        = (Move.dequeue t.now cmd.deadline).apply (groupAfter q cmd.queue cmd.group turns)
      ∧ ∀ id deadline, t.Takes (after turns) cmd.queue cmd.group id deadline
        ↔ deadline = cmd.deadline
          ∧ ((groupAfter q cmd.queue cmd.group turns).dropExpired t.now).next? = some id := by
  obtain ⟨result, hresult, houtcome⟩ := getOutcome_of_turn hop hrequest
  rw [groupAfter, ← Queue.groupSets_of_base ht.2, groupAfter, ← Queue.groupSets_of_base ht.2]
  generalize (after (turns ++ [t])).memory = last at houtcome ⊢
  cases houtcome with
  | refused failure hrefused =>
      refine Or.inl ⟨rfl, ?_⟩
      rintro id deadline ⟨_, -, -, -, -, -, hfailure⟩
      rcases hfailure failure hresult with rfl | rfl
      · rcases hrefused with ⟨reason, heq⟩ | heq <;> cases heq
      · rcases hrefused with ⟨reason, heq⟩ | heq
        · cases heq
        · exact absurd (Failure.injected.inj heq) (by decide)
  | executed hqueue hgroup hreply hcontents hframe hlast =>
      refine Or.inr ⟨GroupState.of_eq hcontents hlast, fun id deadline => ?_⟩
      obtain ⟨hprogress, hdone⟩ := natural_history_after hop t.queue hqueue hgroup
      obtain ⟨executed, after, heq, hevents, -, -⟩ :=
        Memory.execute_getPlan (sound_after hop) t.queue t.now hqueue hgroup hprogress hdone
      constructor
      · rintro ⟨cmd', hrequest', -, -, rfl, hselected, -⟩
        obtain rfl : cmd = cmd' := Request.get.inj (hrequest.symm.trans hrequest')
        refine ⟨rfl, ?_⟩
        rw [heq] at hselected
        have hone : executed.events = [id] := Except.ok.inj hselected
        rw [hevents] at hone
        exact Option.toList_eq_singleton_iff.mp hone
      · rintro ⟨rfl, hnext⟩
        refine ⟨cmd, hrequest, rfl, rfl, rfl, ?_, fun failure hfailure => ?_⟩
        · rw [heq]
          show Except.ok executed.events = .ok [id]
          rw [hevents]
          exact congrArg Except.ok (Option.toList_eq_singleton_iff.mpr hnext)
        · -- once the event is taken, only its payload can be out of reach
          rw [hresult] at hfailure
          have hreply : GetReply (some id) result := hnext ▸ hreply
          cases hreply with
          | handed event => cases hfailure
          | missing id => exact Or.inl (Except.error.inj hfailure).symm
          | unfetched id => exact Or.inr (Except.error.inj hfailure).symm

/-- What is in progress has a deadline on record. -/
theorem leased_after (hqueue : ColonFree queue) (hgroup : ColonFree group)
    (hturns : ∀ x ∈ turns, x.WorksIn q.base) : (groupAfter q queue group turns).Leased := by
  induction turns using List.reverseRecOn with
  | nil => exact fun id hid => absurd hid Std.ExtTreeMap.not_mem_empty
  | append_singleton turns t ih =>
      obtain ⟨hbefore, ht⟩ := List.forall_mem_append.mp hturns
      exact (moves_of_turn hqueue hgroup hbefore (ht t (List.mem_singleton.mpr rfl))).keeps
        (I := fun s => s.Leased) (fun move s _ _ hs => GroupState.leased_move hs move) (ih hbefore)

/-! ## Deadlines -/

/-- **How a turn comes to leave a deadline on record**: it takes the event with that deadline, or it takes no such
    event and the deadline was there before. -/
theorem deadline_of_turn (hqueue : ColonFree queue) (hgroup : ColonFree group)
    (hop : ∀ x ∈ turns, x.request.isOperation = true) (ht : t.WorksIn q.base) {score : Int}
    (h : (groupAfter q queue group (turns ++ [t])).inProgressByAck[id]? = some score) :
    (∃ deadline, score = deadline.score ∧ t.Takes (after turns) queue group id (some deadline))
    ∨ (groupAfter q queue group turns).inProgressByAck[id]? = some score
      ∧ ∀ other, ¬ t.Takes (after turns) queue group id (some other) := by
  by_cases hgets : t.request.gets queue group
  · cases hrequest : t.request with
    | get cmd =>
        rw [hrequest] at hgets
        obtain ⟨rfl, rfl⟩ := hgets
        rcases dequeue_of_turn hop ht hrequest with ⟨hstay, hnone⟩ | ⟨htaken, htakes⟩
        · rw [hstay] at h
          exact Or.inr ⟨h, fun other => hnone id (some other)⟩
        · rw [htaken, Move.apply, GroupContents.getElem?_ack_dequeue] at h
          split at h
          · next hnext =>
            cases hdeadline : cmd.deadline with
            | none =>
                rw [hdeadline] at h
                exact Or.inr ⟨h, fun other hother => by simp [htakes, hdeadline] at hother⟩
            | some deadline =>
                rw [hdeadline] at h
                refine Or.inl ⟨deadline, (Option.some.inj h).symm, ?_⟩
                exact (htakes id (some deadline)).mpr ⟨hdeadline.symm, hnext⟩
          · next hnext => exact Or.inr ⟨h, fun other hother => hnext ((htakes _ _).mp hother).2⟩
    | _ => simp [hrequest, Request.gets] at hgets
  · -- only a get of the group puts deadlines on record
    refine Or.inr ⟨?_, ?_⟩
    · refine (moves_of_own_turn hqueue hgroup hop ht).keeps
        (I := fun s => s.inProgressByAck[id]? = some score →
          (groupAfter q queue group turns).inProgressByAck[id]? = some score) ?_ (fun hold => hold) h
      intro move s hstems _ hs hmove
      refine hs (GroupState.getElem?_ack_of_move ?_ hmove)
      rintro now deadline rfl
      exact hgets (Move.fits_of_stemsFrom hstems)
    · rintro other ⟨cmd, hrequest, rfl, rfl, -⟩
      exact hgets (by simp [hrequest, Request.gets])

/-- A deadline is the one of the latest turn in which the group took the event with a deadline. -/
def LatestDeadline (queue group : String) (id : EventId) (deadline : Instant) (turns : List Turn) :
    Prop :=
  ∃ before t later, turns = before ++ t :: later
    ∧ t.Takes (after before) queue group id (some deadline)
    ∧ ∀ between x rest, later = between ++ x :: rest →
        ∀ other, ¬ x.Takes (after (before ++ t :: between)) queue group id (some other)

theorem latestDeadline_of_takes {deadline : Instant}
    (h : t.Takes (after turns) queue group id (some deadline)) :
    LatestDeadline queue group id deadline (turns ++ [t]) :=
  ⟨turns, t, [], rfl, h, fun between x rest hnil => by simp at hnil⟩

theorem LatestDeadline.concat {deadline : Instant} (h : LatestDeadline queue group id deadline turns)
    (ht : ∀ other, ¬ t.Takes (after turns) queue group id (some other)) :
    LatestDeadline queue group id deadline (turns ++ [t]) := by
  obtain ⟨before, first, later, rfl, hfirst, hlater⟩ := h
  refine ⟨before, first, later ++ [t], by simp, hfirst, fun between x rest hsplit other => ?_⟩
  rcases List.eq_nil_or_concat rest with rfl | ⟨rest, last, rfl⟩
  · obtain ⟨rfl, hlast⟩ := List.append_inj' hsplit rfl
    rw [← List.singleton_inj.mp hlast]
    exact ht other
  · refine hlater between x rest ?_ other
    rw [List.concat_eq_append, ← List.cons_append, ← List.append_assoc] at hsplit
    exact (List.append_inj' hsplit rfl).1

/-- **Where deadlines come from**, by induction on the turns. -/
theorem latest_deadline_after (hqueue : ColonFree queue) (hgroup : ColonFree group)
    (hturns : ∀ x ∈ turns, x.WorksIn q.base) {score : Int}
    (h : (groupAfter q queue group turns).inProgressByAck[id]? = some score) :
    ∃ deadline, score = deadline.score ∧ LatestDeadline queue group id deadline turns := by
  induction turns using List.reverseRecOn generalizing score with
  | nil =>
      change (∅ : Contents)[id]? = some score at h
      rw [Std.ExtTreeMap.getElem?_empty] at h
      contradiction
  | append_singleton turns t ih =>
      obtain ⟨hbefore, ht⟩ := List.forall_mem_append.mp hturns
      have ht := ht t (List.mem_singleton.mpr rfl)
      have hop : ∀ x ∈ turns, x.request.isOperation = true := fun x hx => (hbefore x hx).1
      rcases deadline_of_turn hqueue hgroup hop ht h with ⟨deadline, hscore, htakes⟩ | ⟨hold, hnone⟩
      · exact ⟨deadline, hscore, latestDeadline_of_takes htakes⟩
      · obtain ⟨deadline, hscore, hlatest⟩ := ih hbefore hold
        exact ⟨deadline, hscore, hlatest.concat hnone⟩

/-- **Where a deadline without an event in progress comes from**: the event had expired by the time of a
    get of the group. -/
theorem expired_after (hqueue : ColonFree queue) (hgroup : ColonFree group)
    (hturns : ∀ x ∈ turns, x.WorksIn q.base) (hack : id ∈ (groupAfter q queue group turns).inProgressByAck)
    (hout : id ∉ (groupAfter q queue group turns).inProgressById) :
    ∃ t ∈ turns, t.request.gets queue group ∧ id.score ≤ t.now.score := by
  induction turns using List.reverseRecOn with
  | nil =>
      change id ∈ (∅ : Contents) at hack
      exact absurd hack Std.ExtTreeMap.not_mem_empty
  | append_singleton turns t ih =>
      obtain ⟨hbefore, ht⟩ := List.forall_mem_append.mp hturns
      have ht := ht t (List.mem_singleton.mpr rfl)
      have hcoherent := coherent_after hqueue hgroup hbefore
      -- the moves of the turn make no such deadline, unless they take the next event after the expiry
      let lapsed (s : GroupState) : Prop := id ∈ s.inProgressByAck ∧ id ∉ s.inProgressById
      have hlapsed : lapsed (groupAfter q queue group turns)
          ∨ t.request.gets queue group ∧ id.score ≤ t.now.score := by
        refine ((moves_of_turn hqueue hgroup hbefore ht).keeps
          (I := fun s => s.Coherent ∧ (lapsed s → lapsed (groupAfter q queue group turns)
            ∨ t.request.gets queue group ∧ id.score ≤ t.now.score)) ?_
          ⟨hcoherent, Or.inl⟩).2 ⟨hack, hout⟩
        rintro move s hstems hallowed ⟨hs, hbefore⟩
        refine ⟨hs.move hallowed, fun hmove => ?_⟩
        rcases GroupState.lapsed_move hs.natural hmove.1 hmove.2 with hold | ⟨now, deadline, rfl, hle⟩
        · exact hbefore hold
        · have hnow : now = t.now := hstems.1
          exact Or.inr ⟨Move.fits_of_stemsFrom hstems, hnow ▸ hle⟩
      rcases hlapsed with ⟨hack, hout⟩ | hnew
      · obtain ⟨x, hx, hexpired⟩ := ih hbefore hack hout
        exact ⟨x, List.mem_append_left _ hx, hexpired⟩
      · exact ⟨t, List.mem_append_right _ (List.mem_singleton.mpr rfl), hnew⟩

/-! ## Events -/

/-- In one of the turns, an event is added to a queue. -/
def Added (q : Queue) (queue group : String) (id : EventId) (turns : List Turn) : Prop :=
  ∃ before t later cmd, turns = before ++ t :: later ∧ t.request = .add cmd ∧ cmd.queue = queue
    ∧ id ∉ (groupAfter q queue group before).available
    ∧ id ∈ (groupAfter q queue group (before ++ [t])).available

theorem Added.concat (h : Added q queue group id turns) : Added q queue group id (turns ++ [t]) := by
  obtain ⟨before, x, later, cmd, rfl, hx⟩ := h
  exact ⟨before, x, later ++ [t], cmd, by simp, hx⟩

/-- **Where events come from**, by induction on the turns. -/
theorem added_after (hqueue : ColonFree queue) (hgroup : ColonFree group)
    (hturns : ∀ x ∈ turns, x.WorksIn q.base)
    (hid : id ∈ (groupAfter q queue group turns).available ∨ (groupAfter q queue group turns).Touched id) :
    Added q queue group id turns := by
  induction turns using List.reverseRecOn with
  | nil =>
      rcases hid with hid | (hid | hid | hid) | hid <;>
      · change id ∈ (∅ : Contents) at hid
        exact absurd hid Std.ExtTreeMap.not_mem_empty
  | append_singleton turns t ih =>
      obtain ⟨hbefore, ht⟩ := List.forall_mem_append.mp hturns
      have ht := ht t (List.mem_singleton.mpr rfl)
      have hcoherent := coherent_after hqueue hgroup hbefore
      have hmoves := moves_of_turn hqueue hgroup hbefore ht
      by_cases hold : id ∈ (groupAfter q queue group turns).available
          ∨ (groupAfter q queue group turns).Touched id
      · exact (ih hbefore hold).concat
      · -- an event that is new to the group has been offered to it, and the turn takes none
        have hnew := hmoves.keeps (I := fun s => s.Coherent ∧ (id ∈ s.available ∨ s.Touched id →
          ∃ cmd, t.request = .add cmd ∧ cmd.queue = queue)) (by
            rintro move s hstems hallowed ⟨hs, hbefore⟩
            refine ⟨hs.move hallowed, fun hmove => ?_⟩
            rcases GroupState.mem_of_move hs.natural hmove with hmem | rfl
            · exact hbefore hmem
            · exact hstems) ⟨hcoherent, fun hmem => absurd hmem hold⟩
        obtain ⟨cmd, hrequest, hcmd⟩ := hnew.2 hid
        have htouched : ¬ (groupAfter q queue group (turns ++ [t])).Touched id := by
          refine (hmoves.keeps (I := fun s => s.Coherent ∧ ¬ s.Touched id) ?_
            ⟨hcoherent, fun htouched => hold (Or.inr htouched)⟩).2
          rintro move s hstems hallowed ⟨hs, hout⟩
          refine ⟨hs.move hallowed, fun hmove => ?_⟩
          rcases GroupState.touched_of_move hs.natural hmove with hmem | ⟨now, deadline, rfl, -⟩
          · exact hout hmem
          · obtain ⟨-, cmd', hget, -⟩ : now = t.now ∧ _ := hstems
            rw [hrequest] at hget
            cases hget
        refine ⟨turns, t, [], cmd, rfl, hrequest, hcmd, fun hmem => hold (Or.inl hmem), ?_⟩
        exact hid.resolve_right htouched

end Session

/-- **What the sets of a group mean.** In every state that a run in one namespace can reach, whichever
    calls fail and whatever the clock reads: what is in progress has a deadline; a deadline without an
    event in progress belongs to an event that had expired at a get of the group; what is to be handed out
    again is not in progress; scores are natural, and a deadline is that of the latest get that took the
    event with one; and every event on record for the group was added to its queue. -/
theorem roles_of_reachable {q : Queue} {turns : List Turn} (hturns : ∀ t ∈ turns, t.WorksIn q.base)
    {queue group : String} (hqueue : ColonFree queue) (hgroup : ColonFree group) :
    let g := Session.groupAfter q queue group turns
    (∀ id ∈ g.inProgressById, id ∈ g.inProgressByAck)
    ∧ (∀ id ∈ g.inProgressByAck, id ∉ g.inProgressById →
        ∃ t ∈ turns, t.request.gets queue group ∧ id.score ≤ t.now.score)
    ∧ (∀ id ∈ g.redo, id ∉ g.inProgressByAck ∧ id ∉ g.inProgressById)
    ∧ ((g.available.Natural ∧ g.inProgressById.Natural ∧ g.redo.Natural ∧ g.done.Natural)
      ∧ ∀ (id : EventId) (score : Int), g.inProgressByAck[id]? = some score →
        ∃ deadline, score = deadline.score ∧ Session.LatestDeadline queue group id deadline turns)
    ∧ ∀ id, id ∈ g.inProgressById ∨ id ∈ g.inProgressByAck ∨ id ∈ g.redo ∨ id ∈ g.done →
        Session.Added q queue group id turns := by
  intro g
  have hcoherent : g.Coherent := Session.coherent_after hqueue hgroup hturns
  obtain ⟨havailable, hprogress, hredo, hdone⟩ := hcoherent.natural
  have hleased : g.Leased := Session.leased_after hqueue hgroup hturns
  refine ⟨hleased, fun id hack hout => Session.expired_after hqueue hgroup hturns hack hout, ?_,
    ⟨⟨havailable, hprogress, hredo, hdone⟩,
      fun id score h => Session.latest_deadline_after hqueue hgroup hturns h⟩, ?_⟩
  · intro id hid
    exact ⟨hcoherent.apart id hid, fun hin => hcoherent.apart id hid (hleased id hin)⟩
  · intro id hid
    refine Session.added_after hqueue hgroup hturns (Or.inr ?_)
    rcases hid with hid | hid | hid | hid
    · exact Or.inl (Or.inl hid)
    · exact Or.inr hid
    · exact Or.inl (Or.inr (Or.inl hid))
    · exact Or.inl (Or.inr (Or.inr hid))

/-- A group has one event done and one in progress. The deadline of the latter is that of the get that took
    it. -/
theorem roles_of_reachable_two :
    let q : Queue := {}
    let turn (request : Request) : Turn := { queue := q, now := .ofMicros 1000, request }
    let add (micros : Int) := turn (.add { queue := "q", expire := .ofMicros micros, contents := "x" })
    let get (deadline : Option Instant) := turn (.get { queue := "q", group := "g", deadline })
    let turns := [add 5000, add 6000, get none, get (some (.ofMicros 9000))]
    let g := Session.groupAfter q "q" "g" turns
    (∀ t ∈ turns, t.WorksIn q.base) ∧ ColonFree "q" ∧ ColonFree "g"
      ∧ ⟨5000⟩ ∈ g.done ∧ ⟨6000⟩ ∈ g.inProgressById ∧ ⟨6000⟩ ∈ g.inProgressByAck
      ∧ (∃ deadline, (9000 : Int) = deadline.score ∧ Session.LatestDeadline "q" "g" ⟨6000⟩ deadline turns)
      ∧ Session.Added q "q" "g" ⟨5000⟩ turns := by
  intro q turn add get turns g
  have hturns : ∀ t ∈ turns, t.WorksIn q.base := by decide
  have hqueue : ColonFree "q" := by decide
  have hgroup : ColonFree "g" := by decide
  have hdone : ⟨5000⟩ ∈ g.done := by decide +kernel
  have hprogress : ⟨6000⟩ ∈ g.inProgressById := by decide +kernel
  have hscore : g.inProgressByAck[(⟨6000⟩ : EventId)]? = some 9000 := by decide +kernel
  obtain ⟨hleased, -, -, ⟨-, hlatest⟩, hadded⟩ := roles_of_reachable hturns hqueue hgroup
  exact ⟨hturns, hqueue, hgroup, hdone, hprogress, hleased _ hprogress, hlatest _ _ hscore,
    hadded _ (Or.inr (Or.inr (Or.inr hdone)))⟩

/-- **A deadline that is not of the latest get.** A group takes one event without a deadline and the next
    one with a deadline, and then takes the latter again, without one. The deadline of the get before stays
    on record, so it is not true that each deadline is that of the latest get that took its event. -/
theorem deadline_of_earlier_get :
    let q : Queue := {}
    let turn (request : Request) : Turn := { queue := q, now := .ofMicros 1000, request }
    let add (micros : Int) := turn (.add { queue := "q", expire := .ofMicros micros, contents := "x" })
    let get (deadline : Option Instant) := turn (.get { queue := "q", group := "g", deadline })
    let turns := [add 5000, add 6000, get none, get (some (.ofMicros 9000)), get none]
    (∀ t ∈ turns, t.WorksIn q.base)
      ∧ (Session.groupAfter q "q" "g" turns).inProgressByAck[(⟨6000⟩ : EventId)]? = some 9000
      ∧ ¬ ∃ before t later deadline, turns = before ++ t :: later
          ∧ t.Takes (Session.after before) "q" "g" ⟨6000⟩ (some deadline) ∧ 9000 = deadline.score
          ∧ ∀ between x rest, later = between ++ x :: rest →
              ∀ other, ¬ x.Takes (Session.after (before ++ t :: between)) "q" "g" ⟨6000⟩ other := by
  intro q turn add get turns
  refine ⟨by decide, by decide +kernel, ?_⟩
  let start := [add 5000, add 6000, get none, get (some (.ofMicros 9000))]
  have hlast : (get none).Takes (Session.after start) "q" "g" ⟨6000⟩ none := by
    have hresponse : ((Session.after start).turn (get none)).1 = .ok (.event (some (.new ⟨6000⟩ "x"))) := by
      decide +kernel
    refine ⟨_, rfl, rfl, rfl, rfl, by decide +kernel, fun failure hfailure => ?_⟩
    rw [hresponse] at hfailure
    cases hfailure
  rintro ⟨before, t, later, deadline, hsplit, htakes, -, hlater⟩
  -- the latest get that took the event is the last turn, and has no deadline
  have hsplit : before ++ t :: later = start ++ [get none] := hsplit.symm
  rcases List.eq_nil_or_concat later with rfl | ⟨between, last, rfl⟩
  · obtain ⟨-, hlast'⟩ := List.append_inj' hsplit rfl
    obtain rfl := List.singleton_inj.mp hlast'
    obtain ⟨cmd, hrequest, -, -, hdeadline, -⟩ := htakes
    cases Request.get.inj hrequest
    cases hdeadline
  · rw [List.concat_eq_append, ← List.cons_append, ← List.append_assoc] at hsplit
    obtain ⟨hbefore, hlast'⟩ := List.append_inj' hsplit rfl
    obtain rfl := List.singleton_inj.mp hlast'
    refine hlater between (get none) [] (by rw [List.concat_eq_append]) none ?_
    rwa [hbefore]

end GroupQueue
