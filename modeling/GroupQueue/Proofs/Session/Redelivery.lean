import GroupQueue.Proofs.Queue.Redelivery
import GroupQueue.Proofs.Session.Moves

/-!
# `Proofs.Session.Redelivery` — when an event is handed to a group again

Events come back to the group that has had them after a sweep. They also come back without one: a group
with events both in progress and done goes back to the lesser of its two cursors, and takes from there
on what it has had before, even what it has acknowledged. Nothing else brings an event back.

## Contents
- `Turn.Delivers`, `Turn.Finishes` — an event is handed to a group, or becomes done for it.
- `Session.Requeued` — a sweep puts an event among those to be handed out again.
- `requeued_or_kept` — what holds of a group throughout a run, or else up to such a sweep.
- `redelivered_only_if` — the two ways in which an event comes back.
- `redelivered_without_sweep` — an acknowledged event comes back without a sweep.
-/

namespace GroupQueue

/-- A turn hands an event to a group. -/
def Turn.Delivers (t : Turn) (session : Session) (queue group : String) (id : EventId) : Prop :=
  ∃ cmd event, t.request = .get cmd ∧ cmd.queue = queue ∧ cmd.group = group
    ∧ (session.turn t).1 = .ok (.event (some event)) ∧ event.id = id

/-- A turn makes an event done for a group: it acknowledges the event in time, or takes it without a
    deadline. -/
def Turn.Finishes (t : Turn) (session : Session) (queue group : String) (id : EventId) : Prop :=
  (∃ cmd, t.request = .ack cmd ∧ cmd.queue = queue ∧ cmd.group = group ∧ cmd.event = id
    ∧ (session.turn t).1 = .ok (.acknowledged true))
  ∨ ∃ cmd event, t.request = .get cmd ∧ cmd.queue = queue ∧ cmd.group = group ∧ cmd.deadline = none
    ∧ (session.turn t).1 = .ok (.event (some event)) ∧ event.id = id

namespace Session

/-- In one of the turns from a start on, a sweep of the group puts an event among those to be handed out
    again. -/
def Requeued (q : Queue) (queue group : String) (id : EventId) (start turns : List Turn) : Prop :=
  ∃ before t later, turns = before ++ t :: later ∧ t.request.sweeps queue group
    ∧ id ∉ (groupAfter q queue group (start ++ before)).redo
    ∧ id ∈ (groupAfter q queue group (start ++ before ++ [t])).redo

variable {q : Queue} {queue group : String} {id : EventId} {start turns : List Turn} {t : Turn}

theorem Requeued.concat (h : Requeued q queue group id start turns) :
    Requeued q queue group id start (turns ++ [t]) := by
  obtain ⟨before, x, later, rfl, hx⟩ := h
  exact ⟨before, x, later ++ [t], by simp, hx⟩

/-- What the moves keep of an event that is not to be handed out again holds throughout a run, unless a
    sweep puts the event among those to be handed out again. -/
theorem requeued_or_kept (hqueue : ColonFree queue) (hgroup : ColonFree group)
    (hturns : ∀ t ∈ start ++ turns, t.WorksIn q.base) {P : GroupState → Prop}
    (hmove : ∀ s : GroupState, ∀ move : Move, s.Natural → move.Allowed s → P s →
      (id ∉ s.redo ∨ ∀ now deadline, move ≠ .dequeue now deadline) → P (move.apply s))
    (hstart : P (groupAfter q queue group start)) (hredo : id ∉ (groupAfter q queue group start).redo) :
    Requeued q queue group id start turns
      ∨ P (groupAfter q queue group (start ++ turns))
        ∧ id ∉ (groupAfter q queue group (start ++ turns)).redo := by
  induction turns using List.reverseRecOn with
  | nil =>
      rw [List.append_nil]
      exact Or.inr ⟨hstart, hredo⟩
  | append_singleton turns t ih =>
      rw [← List.append_assoc, List.forall_mem_append, List.forall_mem_singleton] at hturns
      obtain ⟨hbefore, ht⟩ := hturns
      rcases ih hbefore with hrequeued | ⟨hP, hredo⟩
      · exact Or.inl hrequeued.concat
      · have hcoherent := coherent_after hqueue hgroup hbefore
        have hmoves := moves_turn hqueue hgroup hbefore ht
        rw [← List.append_assoc]
        by_cases hsweeps : t.request.sweeps queue group
        · -- a sweep takes no events, but it may requeue this one
          have hkept : (groupAfter q queue group (start ++ turns ++ [t])).Coherent
              ∧ P (groupAfter q queue group (start ++ turns ++ [t])) := by
            refine hmoves.keeps (I := fun s => s.Coherent ∧ P s) ?_ ⟨hcoherent, hP⟩
            rintro move s hfits hallowed ⟨hs, hPs⟩
            refine ⟨hs.move hallowed, hmove s move hs.natural hallowed hPs (Or.inr ?_)⟩
            rintro now deadline rfl
            exact Request.not_gets_of_sweeps hsweeps hfits
          by_cases hin : id ∈ (groupAfter q queue group (start ++ turns ++ [t])).redo
          · exact Or.inl ⟨turns, t, [], rfl, hsweeps, hredo, hin⟩
          · exact Or.inr ⟨hkept.2, hin⟩
        · -- anything else may take events, but it requeues none
          have hkept : (groupAfter q queue group (start ++ turns ++ [t])).Coherent
              ∧ P (groupAfter q queue group (start ++ turns ++ [t]))
              ∧ id ∉ (groupAfter q queue group (start ++ turns ++ [t])).redo := by
            refine hmoves.keeps (I := fun s => s.Coherent ∧ P s ∧ id ∉ s.redo) ?_ ⟨hcoherent, hP, hredo⟩
            rintro move s hfits hallowed ⟨hs, hPs, hout⟩
            refine ⟨hs.move hallowed, hmove s move hs.natural hallowed hPs (Or.inl hout), ?_⟩
            refine GroupState.not_mem_redo_move ?_ hout
            rintro now rfl
            exact hsweeps hfits
          exact Or.inr hkept.2

/-- An event that a turn hands to a group is the one next in turn, and the group takes it. -/
theorem taken_of_delivers (hturns : ∀ x ∈ turns, x.WorksIn q.base) (ht : t.WorksIn q.base)
    (h : t.Delivers (after turns) queue group id) :
    ColonFree queue ∧ ColonFree group
      ∧ ((groupAfter q queue group turns).dropExpired t.now).next? = some id
      ∧ ∃ deadline, groupAfter q queue group (turns ++ [t])
        = (Move.dequeue t.now deadline).apply (groupAfter q queue group turns) := by
  obtain ⟨cmd, event, hrequest, rfl, rfl, hresponse, rfl⟩ := h
  obtain ⟨hqueue, hgroup, hnext, hafter⟩ := get_of_turn hturns ht hrequest hresponse
  exact ⟨hqueue, hgroup, hnext.symm, cmd.deadline, hafter⟩

/-- What has just been handed out is known, and not to be handed out again. -/
theorem known_of_delivers (hturns : ∀ x ∈ turns ++ [t], x.WorksIn q.base)
    (h : t.Delivers (after turns) queue group id) :
    (groupAfter q queue group (turns ++ [t])).Known id
      ∧ id ∉ (groupAfter q queue group (turns ++ [t])).redo := by
  obtain ⟨hbefore, ht⟩ := List.forall_mem_append.mp hturns
  obtain ⟨hqueue, hgroup, hnext, deadline, hafter⟩ :=
    taken_of_delivers hbefore (ht t (List.mem_singleton.mpr rfl)) h
  have hcoherent := coherent_after hqueue hgroup hturns
  have hhanded : (groupAfter q queue group (turns ++ [t])).Handed id := by
    rw [hafter, Move.apply, GroupContents.dequeue_of_some hnext]
    exact (GroupContents.handed_take deadline).mpr (Or.inl rfl)
  refine ⟨⟨hcoherent.issued id (Or.inr (Or.inl hhanded)), fun _ => hhanded⟩, ?_⟩
  rw [hafter]
  exact GroupContents.not_mem_redo_dequeue hnext

/-- What has just become done is on record as done, and not to be handed out again. -/
theorem finished_of_finishes (hturns : ∀ x ∈ turns ++ [t], x.WorksIn q.base)
    (h : t.Finishes (after turns) queue group id) :
    (groupAfter q queue group (turns ++ [t])).Finished id
      ∧ id ∉ (groupAfter q queue group (turns ++ [t])).redo := by
  obtain ⟨hbefore, ht⟩ := List.forall_mem_append.mp hturns
  have ht := ht t (List.mem_singleton.mpr rfl)
  have hfinished (hqueue : ColonFree queue) (hgroup : ColonFree group)
      (hdone : id ∈ (groupAfter q queue group (turns ++ [t])).done) :
      (groupAfter q queue group (turns ++ [t])).Finished id := by
    have hcoherent := coherent_after hqueue hgroup hturns
    exact ⟨hcoherent.issued id (Or.inr (Or.inl (Or.inr (Or.inr hdone)))), fun _ => Or.inr hdone⟩
  rcases h with ⟨cmd, hrequest, rfl, rfl, rfl, hresponse⟩
    | ⟨cmd, event, hrequest, rfl, rfl, hnone, hresponse, rfl⟩
  · obtain ⟨hqueue, hgroup, hin, hafter⟩ := ack_of_turn hbefore ht hrequest hresponse
    have hapart := (coherent_after hqueue hgroup hbefore).apart
    refine ⟨hfinished hqueue hgroup ?_, ?_⟩
    · rw [hafter, Move.apply, GroupContents.settle, if_pos hin]
      exact Contents.mem_insert_iff.mpr (Or.inl rfl)
    · -- the event was in progress, so it was not to be handed out again
      rw [hafter, Move.apply, GroupContents.redo_settle]
      intro hredo
      exact hapart _ hredo (GroupContents.mem_ack_of_inTime hin)
  · obtain ⟨hqueue, hgroup, hnext, hafter⟩ := get_of_turn hbefore ht hrequest hresponse
    have hnext := hnext.symm
    refine ⟨hfinished hqueue hgroup ?_, ?_⟩
    · rw [hafter, hnone, Move.apply, GroupContents.dequeue_of_some hnext]
      exact Contents.mem_insert_iff.mpr (Or.inl rfl)
    · rw [hafter]
      exact GroupContents.not_mem_redo_dequeue hnext

/-- A known event that is handed out, and not because a sweep has put it back, is one that the group has
    fallen back behind. -/
theorem behind_of_delivers (hturns : ∀ x ∈ turns, x.WorksIn q.base) (ht : t.WorksIn q.base)
    (h : t.Delivers (after turns) queue group id) (hknown : (groupAfter q queue group turns).Known id)
    (hredo : id ∉ (groupAfter q queue group turns).redo) :
    id ∈ ((groupAfter q queue group turns).dropExpired t.now).available
      ∧ ((groupAfter q queue group turns).dropExpired t.now).Behind id := by
  obtain ⟨hqueue, hgroup, hnext, -⟩ := taken_of_delivers hturns ht h
  have hnatural := (coherent_after hqueue hgroup hturns).natural
  have hout : id ∉ ((groupAfter q queue group turns).dropExpired t.now).redo :=
    mt Contents.mem_of_mem_live hredo
  have havailable : id ∈ ((groupAfter q queue group turns).dropExpired t.now).available :=
    ((GroupContents.next?_cases (hnatural.dropExpired t.now) hnext).resolve_left hout).2.1
  obtain ⟨hid, hlive⟩ := hnatural.available.mem_live.mp havailable
  have hhanded := (GroupContents.handed_dropExpired hnatural).mpr ⟨hknown.2 hid, hlive⟩
  exact ⟨havailable, GroupContents.behind_of_next? (hnatural.dropExpired t.now) hnext hout hhanded⟩

end Session

/-- **The two ways in which an event comes back.** In a run in one namespace, whichever calls fail and
    whatever the clock reads: an event that was handed to a group is handed to it again only if a sweep of
    the group has in between put it among those to be handed out again, or if the group has fallen back
    behind it. For an event that was acknowledged in time, or taken without a deadline, the latter means
    that it is done, and that the group has events in progress, all of them smaller. -/
theorem redelivered_only_if {q : Queue} {start turns : List Turn} {first again : Turn}
    (hrun : ∀ t ∈ start ++ [first] ++ turns ++ [again], t.WorksIn q.base) {queue group : String}
    {id : EventId} (hagain : again.Delivers (Session.after (start ++ [first] ++ turns)) queue group id) :
    let g := (Session.groupAfter q queue group (start ++ [first] ++ turns)).dropExpired again.now
    (first.Delivers (Session.after start) queue group id →
      Session.Requeued q queue group id (start ++ [first]) turns ∨ g.Behind id)
    ∧ (first.Finishes (Session.after start) queue group id →
      Session.Requeued q queue group id (start ++ [first]) turns
        ∨ g.redo = ∅ ∧ id ∈ g.done ∧ g.inProgressById ≠ ∅ ∧ ∀ x ∈ g.inProgressById, x < id) := by
  intro g
  obtain ⟨hturns, hlast⟩ := List.forall_mem_append.mp hrun
  have hlast := hlast again (List.mem_singleton.mpr rfl)
  have hfirst := (List.forall_mem_append.mp hturns).1
  obtain ⟨hqueue, hgroup, -⟩ := Session.taken_of_delivers hturns hlast hagain
  refine ⟨?_, ?_⟩
  · intro hdelivers
    obtain ⟨hknown, hredo⟩ := Session.known_of_delivers hfirst hdelivers
    refine (Session.requeued_or_kept (P := fun s => s.Known id) hqueue hgroup hturns
      (fun s move hnatural hallowed hs _ => hs.move hnatural hallowed) hknown hredo).imp_right ?_
    rintro ⟨hknown, hredo⟩
    exact (Session.behind_of_delivers hturns hlast hagain hknown hredo).2
  · intro hfinishes
    obtain ⟨hfinished, hredo⟩ := Session.finished_of_finishes hfirst hfinishes
    refine (Session.requeued_or_kept (P := fun s => s.Finished id) hqueue hgroup hturns
      (fun s move hnatural hallowed hs hmove => hs.move hnatural hallowed hmove) hfinished
      hredo).imp_right ?_
    rintro ⟨hfinished, hredo⟩
    obtain ⟨havailable, hbehind⟩ :=
      Session.behind_of_delivers hturns hlast hagain hfinished.known hredo
    have hnatural := (Session.coherent_after hqueue hgroup hturns).natural
    obtain ⟨hid, hlive⟩ := hnatural.available.mem_live.mp havailable
    have hdone : id ∈ g.done := hnatural.done.mem_live.mpr ⟨(hfinished.2 hid).resolve_left hredo, hlive⟩
    exact ⟨hbehind.1, hdone, hbehind.of_done hdone⟩

/-- A group takes three events and acknowledges the last one. It is handed out again, as it is done while
    all events in progress are smaller. -/
theorem redelivered_only_if_behind :
    let q : Queue := {}
    let turn (request : Request) : Turn := { queue := q, now := .ofMicros 1000, request }
    let add (micros : Int) := turn (.add { queue := "q", expire := .ofMicros micros, contents := "x" })
    let get := turn (.get { queue := "q", group := "g", deadline := some (.ofMicros 9000) })
    let ack := turn (.ack { queue := "q", group := "g", event := ⟨7000⟩ })
    let start := [add 5000, add 6000, add 7000, get, get, get]
    let turns := start ++ [ack] ++ []
    let g := (Session.groupAfter q "q" "g" turns).dropExpired get.now
    (∀ t ∈ turns ++ [get], t.WorksIn q.base)
      ∧ get.Delivers (Session.after turns) "q" "g" ⟨7000⟩
      ∧ ack.Finishes (Session.after start) "q" "g" ⟨7000⟩
      ∧ (Session.Requeued q "q" "g" ⟨7000⟩ (start ++ [ack]) []
        ∨ g.redo = ∅ ∧ ⟨7000⟩ ∈ g.done ∧ g.inProgressById ≠ ∅ ∧ ∀ x ∈ g.inProgressById, x < ⟨7000⟩) := by
  intro q turn add get ack start turns g
  have hrun : ∀ t ∈ turns ++ [get], t.WorksIn q.base := by decide
  have hagain : get.Delivers (Session.after turns) "q" "g" ⟨7000⟩ :=
    ⟨_, .new ⟨7000⟩ "x", rfl, rfl, rfl, by decide +kernel, rfl⟩
  have hfirst : ack.Finishes (Session.after start) "q" "g" ⟨7000⟩ :=
    Or.inl ⟨_, rfl, rfl, rfl, rfl, by decide +kernel⟩
  exact ⟨hrun, hagain, hfirst, (redelivered_only_if hrun hagain).2 hfirst⟩

/-- **Without a sweep, an acknowledged event is handed out again.** The clock stands still and no call
    fails. A group takes three events with a deadline, and acknowledges the last one; what it gets next is
    that event again. -/
theorem redelivered_without_sweep :
    let q : Queue := {}
    let turn (request : Request) : Turn := { queue := q, now := .ofMicros 1000, request }
    let add (micros : Int) := turn (.add { queue := "q", expire := .ofMicros micros, contents := "x" })
    let get := turn (.get { queue := "q", group := "g", deadline := some (.ofMicros 9000) })
    let ack := turn (.ack { queue := "q", group := "g", event := ⟨7000⟩ })
    let start := [add 5000, add 6000, add 7000, get, get]
    (∀ t ∈ start ++ [get, ack, get],
        t.WorksIn q.base ∧ t.now = .ofMicros 1000 ∧ t.faults = [] ∧ ¬ t.request.sweeps "q" "g")
      ∧ get.Delivers (Session.after start) "q" "g" ⟨7000⟩
      ∧ ack.Finishes (Session.after (start ++ [get])) "q" "g" ⟨7000⟩
      ∧ get.Delivers (Session.after (start ++ [get, ack])) "q" "g" ⟨7000⟩
      ∧ ¬ Session.Requeued q "q" "g" ⟨7000⟩ (start ++ [get]) [ack] := by
  intro q turn add get ack start
  have hrun : ∀ t ∈ start ++ [get, ack, get],
      t.WorksIn q.base ∧ t.now = .ofMicros 1000 ∧ t.faults = [] := by decide
  have hsweeps : ∀ t ∈ start ++ [get, ack, get], ¬ t.request.sweeps "q" "g" := by
    simp [start, add, get, ack, turn, Request.sweeps]
  refine ⟨fun t ht => ?_, ⟨_, .new ⟨7000⟩ "x", rfl, rfl, rfl, by decide +kernel, rfl⟩,
    Or.inl ⟨_, rfl, rfl, rfl, rfl, by decide +kernel⟩,
    ⟨_, .new ⟨7000⟩ "x", rfl, rfl, rfl, by decide +kernel, rfl⟩, ?_⟩
  · obtain ⟨hworks, hnow, hfaults⟩ := hrun t ht
    exact ⟨hworks, hnow, hfaults, hsweeps t ht⟩
  · rintro ⟨before, t, later, hturns, hswept, -⟩
    have ht : t ∈ [ack] := by simp [hturns]
    rw [List.mem_singleton.mp ht] at hswept
    exact hsweeps ack (by simp) hswept

end GroupQueue
