import GroupQueue.Proofs.Queue.GroupState

/-!
# `Proofs.Queue.History` — what a group has had

An event has been handed to a group if it is in progress, done, or to be handed out again. A group takes
the events of a queue in order, except that it goes back to the lesser of two cursors, and that events
come back to it. None is skipped all the same: whenever an event has been handed to the group, every
smaller event that is still available has been handed to it too. Every move keeps this, and a move loses
an event from the history only when the event is no longer available.

## Contents
- `cursor?_cases`, `next?_cases`, `next?_none` — where the next event in turn comes from.
- `GroupContents.Handed`, `GroupContents.Touched` — the history; what the operations do to it.
- `GroupContents.Closed` — handed out without a gap; kept by the operations.
- `GroupState.Coherent` — the invariant of all runs; `Coherent.move`, `Coherent.moves`.
-/

namespace GroupQueue
namespace GroupContents

variable {g : GroupContents}

/-! ## The next event in turn -/

/-- The cursor is at the newest event in progress, or at the newest one done. -/
theorem cursor?_cases (h : g.Natural) {cursor : Int} (hcursor : g.cursor? = some cursor) :
    (∃ id ∈ g.inProgressById, id.score = cursor ∧ ∀ x ∈ g.inProgressById, x ≤ id)
      ∨ ∃ id ∈ g.done, id.score = cursor ∧ ∀ x ∈ g.done, x ≤ id := by
  have hmin : ∀ a b : Int, min a b = a ∨ min a b = b := by
    intro a b
    omega
  rcases Option.merge_eq_or_eq hmin (g.inProgressById.last?.map EventId.score)
    (g.done.last?.map EventId.score) with hlast | hlast
  · obtain ⟨id, hid, hscore⟩ := Option.map_eq_some_iff.mp (hlast.symm.trans hcursor)
    refine Or.inl ⟨id, Contents.mem_of_last? hid, hscore, ?_⟩
    intro x hx
    exact h.inProgressById.le_last? hid hx
  · obtain ⟨id, hid, hscore⟩ := Option.map_eq_some_iff.mp (hlast.symm.trans hcursor)
    refine Or.inr ⟨id, Contents.mem_of_last? hid, hscore, ?_⟩
    intro x hx
    exact h.done.le_last? hid hx

/-- The next event is one to be handed out again; or there is none of these, and it is the smallest
    available one beyond the cursor; or there is no history, and it is the smallest available one. -/
theorem next?_cases (h : g.Natural) {id : EventId} (hnext : g.next? = some id) :
    id ∈ g.redo
      ∨ g.redo = ∅ ∧ id ∈ g.available
        ∧ ((∃ cursor, g.cursor? = some cursor ∧ cursor < id.score
            ∧ ∀ x ∈ g.available, cursor < x.score → id ≤ x)
          ∨ g.cursor? = none ∧ ∀ x ∈ g.available, id ≤ x) := by
  rw [next?] at hnext
  cases hredo : g.redo.first? with
  | some first =>
      rw [hredo] at hnext
      cases hnext
      exact Or.inl (Contents.mem_of_first? hredo)
  | none =>
      refine Or.inr ⟨Contents.first?_eq_none_iff.mp hredo, ?_⟩
      rw [hredo] at hnext
      cases hcursor : g.cursor? with
      | none =>
          simp only [hcursor] at hnext
          refine ⟨Contents.mem_of_first? hnext, Or.inr ⟨rfl, ?_⟩⟩
          intro x hx
          exact h.available.first?_le hnext hx
      | some cursor =>
          simp only [hcursor] at hnext
          have habove : (g.available.above cursor).Natural := h.available.filter _
          obtain ⟨hmem, hlt⟩ := h.available.mem_above.mp (Contents.mem_of_first? hnext)
          refine ⟨hmem, Or.inl ⟨cursor, rfl, hlt, ?_⟩⟩
          intro x hx hxlt
          exact habove.first?_le hnext (h.available.mem_above.mpr ⟨hx, hxlt⟩)

/-- Without a next event, nothing is to be handed out again, and nothing available is beyond the cursor. -/
theorem next?_none (h : g.Natural) (hnext : g.next? = none) :
    g.redo = ∅ ∧ ∀ x ∈ g.available, ∃ cursor, g.cursor? = some cursor ∧ x.score ≤ cursor := by
  rw [next?] at hnext
  cases hredo : g.redo.first? with
  | some first => simp [hredo] at hnext
  | none =>
      refine ⟨Contents.first?_eq_none_iff.mp hredo, ?_⟩
      intro x hx
      rw [hredo] at hnext
      cases hcursor : g.cursor? with
      | none =>
          -- without history the first available event would be next, so there is none
          simp only [hcursor] at hnext
          have hempty := Contents.first?_eq_none_iff.mp hnext
          exact absurd hx (Contents.eq_empty_iff.mp hempty x)
      | some cursor =>
          simp only [hcursor] at hnext
          have hempty := Contents.first?_eq_none_iff.mp hnext
          refine ⟨cursor, rfl, Int.not_lt.mp ?_⟩
          intro hlt
          exact Contents.eq_empty_iff.mp hempty x (h.available.mem_above.mpr ⟨hx, hlt⟩)

/-! ## Events that the group has had -/

/-- An event has been handed to the group, and is on record for it. -/
def Handed (g : GroupContents) (id : EventId) : Prop :=
  id ∈ g.inProgressById ∨ id ∈ g.redo ∨ id ∈ g.done

/-- An event has been handed to the group, or its deadline is still on record. -/
def Touched (g : GroupContents) (id : EventId) : Prop := g.Handed id ∨ id ∈ g.inProgressByAck

theorem handed_dropExpired (h : g.Natural) {now : Instant} {x : EventId} :
    (g.dropExpired now).Handed x ↔ g.Handed x ∧ now.score < x.score := by
  simp only [Handed, dropExpired, h.inProgressById.mem_live, h.redo.mem_live, h.done.mem_live]
  rw [← or_and_right, ← or_and_right]

theorem touched_dropExpired (h : g.Natural) {now : Instant} {x : EventId}
    (hx : (g.dropExpired now).Touched x) : g.Touched x := by
  rcases hx with hx | hx
  · exact Or.inl ((handed_dropExpired h).mp hx).1
  · exact Or.inr hx

/-- Taking an event adds it to the history. -/
theorem handed_take (deadline : Option Instant) {id x : EventId} :
    (g.take deadline id).Handed x ↔ x = id ∨ g.Handed x := by
  unfold take record Handed
  cases deadline <;> simp only [Contents.mem_insert_iff, Contents.mem_erase_iff]
  all_goals
    by_cases hx : x = id
    · simp [hx]
    · simp only [hx, ne_eq, not_false_eq_true, true_and, false_or]

theorem touched_take {deadline : Option Instant} {id x : EventId}
    (h : (g.take deadline id).Touched x) : x = id ∨ g.Touched x := by
  rcases h with hx | hx
  · exact ((handed_take deadline).mp hx).imp_right Or.inl
  · cases deadline with
    | none => exact Or.inr (Or.inr hx)
    | some deadline => exact (Contents.mem_insert_iff.mp hx).imp_right Or.inr

theorem touched_dequeue {now : Instant} {deadline : Option Instant} {x : EventId}
    (hx : (g.dequeue now deadline).Touched x) :
    (g.dropExpired now).next? = some x ∨ (g.dropExpired now).Touched x := by
  cases hnext : (g.dropExpired now).next? with
  | none =>
      rw [dequeue_of_none hnext] at hx
      exact Or.inr hx
  | some id =>
      rw [dequeue_of_some hnext] at hx
      rcases touched_take hx with rfl | hx
      · exact Or.inl rfl
      · exact Or.inr hx

/-- A dequeue loses an event from the history only when it is no longer available. -/
theorem handed_dequeue (h : g.Natural) {now : Instant} {deadline : Option Instant} {x : EventId}
    (hx : x ∈ g.available.live now) (hhanded : g.Handed x) : (g.dequeue now deadline).Handed x := by
  have hlive : (g.dropExpired now).Handed x :=
    (handed_dropExpired h).mpr ⟨hhanded, (h.available.mem_live.mp hx).2⟩
  cases hnext : (g.dropExpired now).next? with
  | none => rwa [dequeue_of_none hnext]
  | some id =>
      rw [dequeue_of_some hnext]
      exact (handed_take deadline).mpr (Or.inr hlive)

/-- A dequeue puts nothing among the events to be handed out again. -/
theorem mem_redo_of_dequeue {now : Instant} {deadline : Option Instant} {x : EventId}
    (hx : x ∈ (g.dequeue now deadline).redo) : x ∈ g.redo := by
  cases hnext : (g.dropExpired now).next? with
  | none =>
      rw [dequeue_of_none hnext] at hx
      exact Contents.mem_of_mem_live hx
  | some id =>
      rw [dequeue_of_some hnext] at hx
      have hlive : x ∈ (g.dropExpired now).redo := by
        cases deadline <;> exact (Contents.mem_erase_iff.mp hx).2
      exact Contents.mem_of_mem_live hlive

/-- What a dequeue takes is not, or no longer, to be handed out again. -/
theorem not_mem_redo_dequeue {now : Instant} {deadline : Option Instant} {x : EventId}
    (hnext : (g.dropExpired now).next? = some x) : x ∉ (g.dequeue now deadline).redo := by
  intro hx
  rw [dequeue_of_some hnext] at hx
  cases deadline <;> exact (Contents.mem_erase_iff.mp hx).1 rfl

/-- What is done stays done in a dequeue, unless it has expired. -/
theorem mem_done_dequeue (h : g.Natural) {now : Instant} {deadline : Option Instant} {x : EventId}
    (hx : x ∈ g.done) (hlive : now.score < x.score) : x ∈ (g.dequeue now deadline).done := by
  have hdone : x ∈ (g.dropExpired now).done := h.done.mem_live.mpr ⟨hx, hlive⟩
  cases hnext : (g.dropExpired now).next? with
  | none => rwa [dequeue_of_none hnext]
  | some id =>
      rw [dequeue_of_some hnext]
      cases deadline with
      | some deadline => exact hdone
      | none => exact Contents.mem_insert_iff.mpr (Or.inr hdone)

theorem redo_settle (now : Instant) (event : EventId) : (g.settle now event).redo = g.redo := by
  unfold settle
  split <;> rfl

theorem mem_done_settle (now : Instant) (event : EventId) {x : EventId} (hx : x ∈ g.done) :
    x ∈ (g.settle now event).done := by
  unfold settle
  split
  · exact Contents.mem_insert_iff.mpr (Or.inr hx)
  · exact hx

/-- What an acknowledged event loses in the one set it gains in the other. -/
theorem handed_settle (now : Instant) (event : EventId) {x : EventId} (h : g.Handed x) :
    (g.settle now event).Handed x := by
  unfold settle
  split
  · simp only [Handed, Contents.mem_insert_iff, Contents.mem_erase_iff]
    rcases h with hx | hx | hx
    · by_cases heq : x = event
      · exact Or.inr (Or.inr (Or.inl heq))
      · exact Or.inl ⟨heq, hx⟩
    · exact Or.inr (Or.inl hx)
    · exact Or.inr (Or.inr (Or.inr hx))
  · exact h

theorem touched_settle {now : Instant} {event x : EventId} (h : (g.settle now event).Touched x) :
    g.Touched x := by
  unfold settle at h
  split at h
  · next hin =>
    simp only [Touched, Handed, Contents.mem_insert_iff, Contents.mem_erase_iff] at h
    rcases h with (⟨-, hx⟩ | hx | rfl | hx) | ⟨-, hx⟩
    · exact Or.inl (Or.inl hx)
    · exact Or.inl (Or.inr (Or.inl hx))
    · -- the acknowledged event itself, whose deadline was on record
      exact Or.inr (mem_ack_of_inTime hin)
    · exact Or.inl (Or.inr (Or.inr hx))
    · exact Or.inr hx
  · exact h

/-- An overdue event is no longer in progress, but to be handed out again. -/
theorem handed_requeue (now : Instant) {x : EventId} (h : g.Handed x) : (g.requeue now).Handed x := by
  by_cases hover : x ∈ g.overdue now
  · exact Or.inr (Or.inl (mem_redo_requeue.mpr (Or.inl hover)))
  · rcases h with hx | hx | hx
    · exact Or.inl (mem_inProgressById_requeue.mpr ⟨hover, hx⟩)
    · exact Or.inr (Or.inl (mem_redo_requeue.mpr (Or.inr hx)))
    · exact Or.inr (Or.inr hx)

theorem touched_requeue {now : Instant} {x : EventId} (h : (g.requeue now).Touched x) : g.Touched x := by
  rcases h with (hx | hx | hx) | hx
  · exact Or.inl (Or.inl (mem_inProgressById_requeue.mp hx).2)
  · rcases mem_redo_requeue.mp hx with hx | hx
    · -- an event that is requeued may be missing among those in progress, but not its deadline
      exact Or.inr (mem_ack_of_overdue hx)
    · exact Or.inl (Or.inr (Or.inl hx))
  · exact Or.inl (Or.inr (Or.inr hx))
  · exact Or.inr (Std.ExtTreeMap.mem_of_mem_filter hx)

/-! ## Handed out without a gap -/

/-- **Downward closed**: every available event that is smaller than one that the group has had has been
    handed to the group. -/
def Closed (g : GroupContents) : Prop :=
  ∀ id, g.Touched id → ∀ x ∈ g.available, x < id → g.Handed x

theorem Closed.dropExpired (h : g.Closed) (hnatural : g.Natural) (now : Instant) :
    (g.dropExpired now).Closed := by
  intro id hid x hx hlt
  obtain ⟨hx, hscore⟩ := hnatural.available.mem_live.mp hx
  exact (handed_dropExpired hnatural).mpr
    ⟨h id (touched_dropExpired hnatural hid) x hx hlt, hscore⟩

/-- Every available event up to the cursor has been handed to the group, as the cursor is at an event of
    its history. -/
theorem Closed.handed_of_le_cursor (h : g.Closed) (hnatural : g.Natural) {cursor : Int}
    (hcursor : g.cursor? = some cursor) {x : EventId} (hx : x ∈ g.available) (hle : x.score ≤ cursor) :
    g.Handed x := by
  have hhistory : ∃ c, g.Handed c ∧ c.score = cursor := by
    rcases cursor?_cases hnatural hcursor with ⟨c, hc, hscore, -⟩ | ⟨c, hc, hscore, -⟩
    · exact ⟨c, Or.inl hc, hscore⟩
    · exact ⟨c, Or.inr (Or.inr hc), hscore⟩
  obtain ⟨c, hc, rfl⟩ := hhistory
  rcases Int.lt_or_eq_of_le hle with hlt | heq
  · exact h c (Or.inl hc) x hx hlt
  · rwa [EventId.ext heq]

/-- Every available event before the next one in turn has been handed to the group. -/
theorem Closed.handed_of_lt_next (h : g.Closed) (hnatural : g.Natural) {id x : EventId}
    (hnext : g.next? = some id) (hx : x ∈ g.available) (hlt : x < id) : g.Handed x := by
  rcases next?_cases hnatural hnext with hredo | ⟨-, -, ⟨cursor, hcursor, -, hfirst⟩ | ⟨-, hfirst⟩⟩
  · -- what comes back is part of the history, which is closed
    exact h id (Or.inl (Or.inr (Or.inl hredo))) x hx hlt
  · -- the smaller event is not beyond the cursor
    have hle : x.score ≤ cursor := by
      refine Int.not_lt.mp ?_
      intro hxlt
      exact absurd hlt (Int.not_lt.mpr (hfirst x hx hxlt))
    exact h.handed_of_le_cursor hnatural hcursor hx hle
  · -- without history the next event is the first one available
    exact absurd hlt (Int.not_lt.mpr (hfirst x hx))

/-- Without a next event, every available event is in progress or done. -/
theorem Closed.handed_of_next_none (h : g.Closed) (hnatural : g.Natural) (hnext : g.next? = none)
    {x : EventId} (hx : x ∈ g.available) : x ∈ g.inProgressById ∨ x ∈ g.done := by
  obtain ⟨hredo, hall⟩ := next?_none hnatural hnext
  obtain ⟨cursor, hcursor, hle⟩ := hall x hx
  rcases h.handed_of_le_cursor hnatural hcursor hx hle with hx | hx | hx
  · exact Or.inl hx
  · exact absurd hx (Contents.eq_empty_iff.mp hredo x)
  · exact Or.inr hx

end GroupContents

/-! ## The invariant of all runs -/

namespace GroupState

variable {s : GroupState}

/-- An identifier has been issued. -/
def Issued (s : GroupState) (id : EventId) : Prop := ∃ last ∈ s.lastId, id ≤ last

/-- **The invariant of all runs**: scores are natural, every event has an identifier that was issued, no
    event to be handed out again is still in progress, and events are handed out without a gap. -/
structure Coherent (s : GroupState) : Prop where
  natural : s.Natural
  issued : ∀ id, id ∈ s.available ∨ s.Touched id → s.Issued id
  apart : ∀ id ∈ s.redo, id ∉ s.inProgressByAck
  closed : s.Closed

theorem coherent_fresh : fresh.Coherent where
  natural := natural_fresh
  issued id h := by simp [fresh, GroupContents.Touched, GroupContents.Handed] at h
  apart id h := by simp [fresh] at h
  closed id h := by simp [fresh, GroupContents.Touched, GroupContents.Handed] at h

/-- Identifiers are issued for good. -/
theorem Issued.move {id : EventId} {move : Move} (h : s.Issued id) (hallowed : move.Allowed s) :
    (move.apply s).Issued id := by
  obtain ⟨last, hlast, hle⟩ := h
  cases move with
  | issue new | offer new => exact ⟨new, rfl, Int.le_trans hle (Int.le_of_lt (hallowed last hlast))⟩
  | _ => exact ⟨last, hlast, hle⟩

/-- What is available was so before, unless it has just been offered. -/
theorem mem_available_of_move {move : Move} {x : EventId} (hx : x ∈ (move.apply s).available) :
    x ∈ s.available ∨ move = .offer x := by
  cases move with
  | offer new =>
      rcases Contents.mem_insert_iff.mp hx with rfl | hx
      · exact Or.inr rfl
      · exact Or.inl hx
  | age now => exact Or.inl (Contents.mem_of_mem_live hx)
  | dequeue now deadline =>
      rw [Move.apply, GroupContents.available_dequeue] at hx
      exact Or.inl (Contents.mem_of_mem_live hx)
  | settle now event =>
      rw [Move.apply, GroupContents.available_settle] at hx
      exact Or.inl hx
  | _ => exact Or.inl hx

/-- Once the available events have been purged, what is available has not expired. -/
theorem score_of_purged (hnatural : s.Natural) {now : Instant} (h : s.available.live now = s.available)
    {x : EventId} (hx : x ∈ s.available) : now.score < x.score := by
  rw [← h] at hx
  exact (hnatural.available.mem_live.mp hx).2

/-- **A move loses an event from the history only when the event is no longer available.** -/
theorem handed_move {move : Move} (hnatural : s.Natural) (hallowed : move.Allowed s) {x : EventId}
    (hx : x ∈ (move.apply s).available) (h : s.Handed x) : (move.apply s).Handed x := by
  cases move with
  | dequeue now deadline =>
      rw [Move.apply, GroupContents.available_dequeue] at hx
      exact GroupContents.handed_dequeue hnatural hx h
  | settle now event => exact GroupContents.handed_settle now event h
  | requeue now => exact GroupContents.handed_requeue now h
  | purgeRedo now =>
      -- expired events leave the history, but they are no longer available by then
      have hlive := score_of_purged hnatural hallowed hx
      rcases h with hin | hredo | hdone
      · exact Or.inl hin
      · exact Or.inr (Or.inl (hnatural.redo.mem_live.mpr ⟨hredo, hlive⟩))
      · exact Or.inr (Or.inr hdone)
  | purgeDone now =>
      have hlive := score_of_purged hnatural hallowed hx
      rcases h with hin | hredo | hdone
      · exact Or.inl hin
      · exact Or.inr (Or.inl hredo)
      · exact Or.inr (Or.inr (hnatural.done.mem_live.mpr ⟨hdone, hlive⟩))
  | _ => exact h

/-- What is in the history was there before, unless a dequeue has just taken it. -/
theorem touched_of_move (hnatural : s.Natural) {move : Move} {x : EventId}
    (hx : (move.apply s).Touched x) :
    s.Touched x ∨ ∃ now deadline, move = .dequeue now deadline ∧ (s.dropExpired now).next? = some x := by
  cases move with
  | dequeue now deadline =>
      rcases GroupContents.touched_dequeue hx with hnext | hx
      · exact Or.inr ⟨now, deadline, rfl, hnext⟩
      · exact Or.inl (GroupContents.touched_dropExpired hnatural hx)
  | settle now event => exact Or.inl (GroupContents.touched_settle hx)
  | requeue now => exact Or.inl (GroupContents.touched_requeue hx)
  | purgeRedo now =>
      exact Or.inl (hx.imp_left (Or.imp_right (Or.imp_left Contents.mem_of_mem_live)))
  | purgeDone now =>
      exact Or.inl (hx.imp_left (Or.imp_right (Or.imp_right Contents.mem_of_mem_live)))
  | _ => exact Or.inl hx

/-- No event is put among those to be handed out again while it is in progress. -/
theorem apart_move (h : ∀ id ∈ s.redo, id ∉ s.inProgressByAck) (move : Move) :
    ∀ id ∈ (move.apply s).redo, id ∉ (move.apply s).inProgressByAck := by
  intro id hredo hack
  cases move with
  | dequeue now deadline =>
      have hlive : ∀ x ∈ (s.dropExpired now).redo, x ∉ (s.dropExpired now).inProgressByAck := by
        intro x hx
        exact h x (Contents.mem_of_mem_live hx)
      simp only [Move.apply] at hredo hack
      cases hnext : (s.dropExpired now).next? with
      | none =>
          rw [GroupContents.dequeue_of_none hnext] at hredo hack
          exact hlive id hredo hack
      | some next =>
          rw [GroupContents.dequeue_of_some hnext] at hredo hack
          cases deadline with
          | none => exact hlive id (Contents.mem_erase_iff.mp hredo).2 hack
          | some deadline =>
              -- the event that is taken leaves the one set as it enters the other
              obtain ⟨hne, hredo⟩ := Contents.mem_erase_iff.mp hredo
              exact hlive id hredo ((Contents.mem_insert_iff.mp hack).resolve_left hne)
  | settle now event =>
      simp only [Move.apply, GroupContents.settle] at hredo hack
      split at hredo
      · next hin =>
        rw [if_pos hin] at hack
        exact h id hredo (Contents.mem_erase_iff.mp hack).2
      · next hout =>
        rw [if_neg hout] at hack
        exact h id hredo hack
  | requeue now =>
      obtain ⟨hover, hack⟩ := GroupContents.mem_ack_requeue_iff.mp hack
      exact h id ((GroupContents.mem_redo_requeue.mp hredo).resolve_left hover) hack
  | purgeRedo now => exact h id (Contents.mem_of_mem_live hredo) hack
  | _ => exact h id hredo hack

/-- Every event that a move leaves has an identifier that was issued. -/
theorem issued_move (h : s.Coherent) {move : Move} (hallowed : move.Allowed s) {id : EventId}
    (hid : id ∈ (move.apply s).available ∨ (move.apply s).Touched id) : (move.apply s).Issued id := by
  rcases hid with hid | hid
  · rcases mem_available_of_move hid with hid | rfl
    · exact (h.issued id (Or.inl hid)).move hallowed
    · exact ⟨id, rfl, Int.le_refl _⟩
  · rcases touched_of_move h.natural hid with hid | ⟨now, deadline, rfl, hnext⟩
    · exact (h.issued id (Or.inr hid)).move hallowed
    · refine (h.issued id ?_).move hallowed
      rcases GroupContents.next?_cases (h.natural.dropExpired now) hnext with hredo | ⟨-, hid, -⟩
      · exact Or.inr (Or.inl (Or.inr (Or.inl (Contents.mem_of_mem_live hredo))))
      · exact Or.inl (Contents.mem_of_mem_live hid)

/-- A move leaves no gap. What is available afterwards was so before, and so was what is smaller. -/
theorem closed_move (h : s.Coherent) {move : Move} (hallowed : move.Allowed s) :
    (move.apply s).Closed := by
  intro id hid x hx hlt
  rcases mem_available_of_move hx with hbefore | rfl
  · refine handed_move h.natural hallowed hx ?_
    rcases touched_of_move h.natural hid with hid | ⟨now, deadline, rfl, hnext⟩
    · exact h.closed id hid x hbefore hlt
    · -- the larger event has just been taken, so the smaller one comes before the next in turn
      have hlive : x ∈ (s.dropExpired now).available := by
        rwa [Move.apply, GroupContents.available_dequeue] at hx
      have hhanded := (h.closed.dropExpired h.natural now).handed_of_lt_next
        (h.natural.dropExpired now) hnext hlive hlt
      exact ((GroupContents.handed_dropExpired h.natural).mp hhanded).1
  · -- an event that is offered is later than all that the group has had
    obtain ⟨last, hlast, hle⟩ := h.issued id (Or.inr hid)
    exact absurd (Int.lt_of_le_of_lt hle (hallowed last hlast)) (Int.lt_asymm hlt)

/-- **Every move keeps the state coherent.** -/
theorem Coherent.move (h : s.Coherent) {move : Move} (hallowed : move.Allowed s) :
    (move.apply s).Coherent where
  natural := h.natural.move move
  issued _ hid := issued_move h hallowed hid
  apart := apart_move h.apart move
  closed := closed_move h hallowed

theorem Coherent.moves {kind : Move → Prop} {t : GroupState} (h : s.Coherent) (hmoves : Moves kind s t) :
    t.Coherent := by
  refine hmoves.keeps ?_ h
  intro move s _ hallowed hs
  exact hs.move hallowed

end GroupState
end GroupQueue
