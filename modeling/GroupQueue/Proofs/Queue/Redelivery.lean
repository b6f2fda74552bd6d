import GroupQueue.Proofs.Queue.History

/-!
# `Proofs.Queue.Redelivery` — which events can come back to a group

An event that a group has had can come back to it in two ways. A sweep puts it among those to be handed
out again; or the group goes back to the lesser of its two cursors, and the event lies beyond that. What
keeps all other events from coming back is an invariant of the moves, for each event on its own.

## Contents
- `GroupContents.Behind` — the lesser cursor is behind an event; `behind_of_next?`.
- `GroupState.Known`, `GroupState.Finished` — an event that has been handed out, and one that is done.
- `Known.move`, `Finished.move`, `not_mem_redo_move` — kept by the moves.
-/

namespace GroupQueue

/-! ## Behind an event -/

namespace GroupContents

variable {g : GroupContents} {id : EventId}

/-- The group has fallen back behind an event that it has had. Nothing is to be handed out again, and the
    event is in progress while all that is done is smaller, or done while all in progress is smaller. -/
def Behind (g : GroupContents) (id : EventId) : Prop :=
  g.redo = ∅
    ∧ (id ∈ g.inProgressById ∧ g.done ≠ ∅ ∧ (∀ x ∈ g.done, x < id)
      ∨ id ∈ g.done ∧ g.inProgressById ≠ ∅ ∧ ∀ x ∈ g.inProgressById, x < id)

/-- If an event that the group has had is next in turn, though it is not to be handed out again, then the
    group has fallen back behind it. -/
theorem behind_of_next? (h : g.Natural) (hnext : g.next? = some id) (hredo : id ∉ g.redo)
    (hhanded : g.Handed id) : g.Behind id := by
  obtain hmem | ⟨hempty, -, hturn⟩ := next?_cases h hnext
  · exact absurd hmem hredo
  · refine ⟨hempty, ?_⟩
    have hrecord : id ∈ g.inProgressById ∨ id ∈ g.done := hhanded.imp_right (Or.resolve_left · hredo)
    rcases hturn with ⟨cursor, hcursor, hlt, -⟩ | ⟨hnone, -⟩
    · rcases cursor?_cases h hcursor with ⟨last, hlast, rfl, hle⟩ | ⟨last, hlast, rfl, hle⟩
      · -- the cursor is at the newest event in progress, so the event is done
        have hbefore : ∀ x ∈ g.inProgressById, x < id := by
          intro x hx
          exact Int.lt_of_le_of_lt (hle x hx) hlt
        have hout : id ∉ g.inProgressById := fun hin => Int.lt_irrefl _ (hbefore id hin)
        refine Or.inr ⟨hrecord.resolve_left hout, ?_, hbefore⟩
        intro hempty
        exact Contents.eq_empty_iff.mp hempty last hlast
      · -- the cursor is at the newest event done, so the event is in progress
        have hbefore : ∀ x ∈ g.done, x < id := by
          intro x hx
          exact Int.lt_of_le_of_lt (hle x hx) hlt
        have hout : id ∉ g.done := fun hin => Int.lt_irrefl _ (hbefore id hin)
        refine Or.inl ⟨hrecord.resolve_right hout, ?_, hbefore⟩
        intro hempty
        exact Contents.eq_empty_iff.mp hempty last hlast
    · -- a group that has had the event has a cursor
      obtain ⟨hprogress, hdone⟩ := cursor?_eq_none_iff.mp hnone
      rcases hrecord with hin | hin
      · exact absurd hin (Contents.eq_empty_iff.mp hprogress id)
      · exact absurd hin (Contents.eq_empty_iff.mp hdone id)

/-- Behind an event that is done, all events in progress are smaller. -/
theorem Behind.of_done (h : g.Behind id) (hdone : id ∈ g.done) :
    g.inProgressById ≠ ∅ ∧ ∀ x ∈ g.inProgressById, x < id := by
  rcases h.2 with ⟨-, -, hbefore⟩ | ⟨-, hbefore⟩
  · exact absurd (hbefore id hdone) (Int.lt_irrefl _)
  · exact hbefore

end GroupContents

/-! ## Events that have been handed out -/

namespace GroupState

variable {s : GroupState} {id : EventId}

/-- An event has been handed out: it is on record for the group, or no longer available. -/
def Known (s : GroupState) (id : EventId) : Prop :=
  s.Issued id ∧ (id ∈ s.available → s.Handed id)

/-- An event is done: it is on record as such for the group, or no longer available. -/
def Finished (s : GroupState) (id : EventId) : Prop :=
  s.Issued id ∧ (id ∈ s.available → id ∈ s.redo ∨ id ∈ s.done)

theorem Finished.known (h : s.Finished id) : s.Known id := by
  refine ⟨h.1, ?_⟩
  intro hid
  exact Or.inr (h.2 hid)

/-- An issued event does not become available again. -/
theorem Issued.mem_available_of_move (h : s.Issued id) {move : Move} (hallowed : move.Allowed s)
    (hid : id ∈ (move.apply s).available) : id ∈ s.available := by
  rcases GroupState.mem_available_of_move hid with hid | rfl
  · exact hid
  · obtain ⟨last, hlast, hle⟩ := h
    exact absurd (hallowed last hlast) (Int.not_lt.mpr hle)

/-- What has been handed out stays known. -/
theorem Known.move (h : s.Known id) (hnatural : s.Natural) {move : Move} (hallowed : move.Allowed s) :
    (move.apply s).Known id := by
  refine ⟨h.1.move hallowed, ?_⟩
  intro hid
  exact handed_move hnatural hallowed hid (h.2 (h.1.mem_available_of_move hallowed hid))

/-- Only a requeueing puts an event among those to be handed out again. -/
theorem not_mem_redo_move {move : Move} (hmove : ∀ now, move ≠ .requeue now) (h : id ∉ s.redo) :
    id ∉ (move.apply s).redo := by
  cases move with
  | dequeue now deadline => exact mt GroupContents.mem_redo_of_dequeue h
  | settle now event => rwa [Move.apply, GroupContents.redo_settle]
  | requeue now => exact absurd rfl (hmove now)
  | purgeRedo now => exact mt Contents.mem_of_mem_live h
  | _ => exact h

/-- What is done stays so until it is taken again, having been put among the events to be handed out
    again. -/
theorem Finished.move (h : s.Finished id) (hnatural : s.Natural) {move : Move}
    (hallowed : move.Allowed s) (hmove : id ∉ s.redo ∨ ∀ now deadline, move ≠ .dequeue now deadline) :
    (move.apply s).Finished id := by
  refine ⟨h.1.move hallowed, ?_⟩
  intro hid
  have hbefore := h.2 (h.1.mem_available_of_move hallowed hid)
  cases move with
  | dequeue now deadline =>
      -- the event is not taken from those to be handed out again, as it is not one of them
      rw [Move.apply, GroupContents.available_dequeue] at hid
      have hout : id ∉ s.redo := hmove.resolve_right fun hne => hne now deadline rfl
      have hlive := (hnatural.available.mem_live.mp hid).2
      exact Or.inr (GroupContents.mem_done_dequeue hnatural (hbefore.resolve_left hout) hlive)
  | settle now event =>
      simp only [Move.apply, GroupContents.redo_settle]
      rcases hbefore with hredo | hdone
      · exact Or.inl hredo
      · exact Or.inr (GroupContents.mem_done_settle now event hdone)
  | requeue now =>
      rcases hbefore with hredo | hdone
      · exact Or.inl (GroupContents.mem_redo_requeue.mpr (Or.inr hredo))
      · exact Or.inr hdone
  | purgeRedo now =>
      have hlive := score_of_purged hnatural hallowed hid
      rcases hbefore with hredo | hdone
      · exact Or.inl (hnatural.redo.mem_live.mpr ⟨hredo, hlive⟩)
      · exact Or.inr hdone
  | purgeDone now =>
      have hlive := score_of_purged hnatural hallowed hid
      rcases hbefore with hredo | hdone
      · exact Or.inl hredo
      · exact Or.inr (hnatural.done.mem_live.mpr ⟨hdone, hlive⟩)
  | _ => exact hbefore

end GroupState
end GroupQueue
