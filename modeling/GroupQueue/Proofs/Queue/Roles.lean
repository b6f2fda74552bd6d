import GroupQueue.Proofs.Queue.History

/-!
# `Proofs.Queue.Roles` — what the sets of a group say about each other

An event in progress is on record twice, under its identifier and under its deadline. The two records are
made together and settled together, but only the first one is dropped when the event expires: a deadline
without an event in progress belongs to an event that had expired when the group asked for its next one.
A deadline changes only when the event is taken with a new one.

## Contents
- `GroupContents.Leased` — what is in progress has a deadline; kept by every move (`leased_move`).
- `lapsed_move` — how an event in progress comes to be missing, while its deadline stays.
- `getElem?_ack_dequeue`, `getElem?_ack_of_move` — where a deadline comes from.
- `mem_of_move` — where an event comes from.
-/

namespace GroupQueue

namespace GroupContents

variable {g : GroupContents} {now : Instant} {deadline : Option Instant} {id : EventId}

/-- Every event in progress has a deadline on record. -/
def Leased (g : GroupContents) : Prop := ∀ id ∈ g.inProgressById, id ∈ g.inProgressByAck

theorem Leased.dropExpired (h : g.Leased) (now : Instant) : (g.dropExpired now).Leased :=
  fun id hid => h id (Contents.mem_of_mem_live hid)

theorem Leased.take (h : g.Leased) (deadline : Option Instant) (id : EventId) :
    (g.take deadline id).Leased := by
  intro x hx
  cases deadline with
  | none => exact h x hx
  | some deadline =>
      rcases Contents.mem_insert_iff.mp hx with rfl | hx
      · exact Contents.mem_insert_iff.mpr (Or.inl rfl)
      · exact Contents.mem_insert_iff.mpr (Or.inr (h x hx))

theorem Leased.dequeue (h : g.Leased) (now : Instant) (deadline : Option Instant) :
    (g.dequeue now deadline).Leased := by
  cases hnext : (g.dropExpired now).next? with
  | none =>
      rw [dequeue_of_none hnext]
      exact h.dropExpired now
  | some id =>
      rw [dequeue_of_some hnext]
      exact (h.dropExpired now).take deadline id

theorem Leased.settle (h : g.Leased) (now : Instant) (event : EventId) : (g.settle now event).Leased := by
  unfold GroupContents.settle
  split
  · intro x hx
    obtain ⟨hne, hx⟩ := Contents.mem_erase_iff.mp hx
    exact Contents.mem_erase_iff.mpr ⟨hne, h x hx⟩
  · exact h

theorem Leased.requeue (h : g.Leased) (now : Instant) : (g.requeue now).Leased := by
  intro x hx
  obtain ⟨hover, hx⟩ := mem_inProgressById_requeue.mp hx
  exact mem_ack_requeue_iff.mpr ⟨hover, h x hx⟩

/-! ## Deadlines -/

/-- A dequeue with a deadline puts it on record for the event it takes, and leaves all others alone. -/
theorem getElem?_ack_dequeue (g : GroupContents) (now : Instant) (deadline : Option Instant)
    (id : EventId) : (g.dequeue now deadline).inProgressByAck[id]?
      = if (g.dropExpired now).next? = some id then
          (deadline.map Instant.score).or g.inProgressByAck[id]?
        else g.inProgressByAck[id]? := by
  cases hnext : (g.dropExpired now).next? with
  | none =>
      rw [dequeue_of_none hnext]
      rfl
  | some x =>
      rw [dequeue_of_some hnext]
      cases deadline with
      | none => simp [take, record, dropExpired]
      | some deadline =>
          simp only [take, record, dropExpired, getElem?_insert_ite, Option.some.injEq]
          split <;> rfl

/-- An acknowledgement leaves no new deadline. -/
theorem getElem?_ack_of_settle {event : EventId} {score : Int}
    (h : (g.settle now event).inProgressByAck[id]? = some score) : g.inProgressByAck[id]? = some score := by
  unfold settle at h
  split at h
  · rw [getElem?_erase_ite] at h
    split at h
    · contradiction
    · exact h
  · exact h

/-- A requeueing leaves no new deadline. -/
theorem getElem?_ack_of_requeue {score : Int}
    (h : (g.requeue now).inProgressByAck[id]? = some score) : g.inProgressByAck[id]? = some score := by
  rw [requeue, Std.ExtTreeMap.getElem?_filter', Option.filter_eq_some_iff] at h
  exact h.1

/-! ## Events without a record under their identifier -/

/-- If a dequeue leaves an event with a deadline only, then so it was before, or the event has expired. -/
theorem lapsed_dequeue (h : g.Natural) (hack : id ∈ (g.dequeue now deadline).inProgressByAck)
    (hid : id ∉ (g.dequeue now deadline).inProgressById) :
    (id ∈ g.inProgressByAck ∧ id ∉ g.inProgressById) ∨ id.score ≤ now.score := by
  -- an event that is missing after the expired ones have been dropped
  have hlapsed (hack : id ∈ g.inProgressByAck) (hout : id ∉ g.inProgressById.live now) :
      (id ∈ g.inProgressByAck ∧ id ∉ g.inProgressById) ∨ id.score ≤ now.score := by
    by_cases hin : id ∈ g.inProgressById
    · refine Or.inr (Int.not_lt.mp fun hlt => hout ?_)
      exact h.inProgressById.mem_live.mpr ⟨hin, hlt⟩
    · exact Or.inl ⟨hack, hin⟩
  cases hnext : (g.dropExpired now).next? with
  | none =>
      rw [dequeue_of_none hnext] at hack hid
      exact hlapsed hack hid
  | some x =>
      rw [dequeue_of_some hnext] at hack hid
      cases deadline with
      | none => exact hlapsed hack hid
      | some deadline =>
          obtain ⟨hne, hout⟩ := not_or.mp (mt Contents.mem_insert_iff.mpr hid)
          exact hlapsed ((Contents.mem_insert_iff.mp hack).resolve_left hne) hout

theorem lapsed_settle {event : EventId} (hack : id ∈ (g.settle now event).inProgressByAck)
    (hid : id ∉ (g.settle now event).inProgressById) :
    id ∈ g.inProgressByAck ∧ id ∉ g.inProgressById := by
  unfold settle at hack hid
  split at hack
  · next hin =>
    rw [if_pos hin] at hid
    obtain ⟨hne, hack⟩ := Contents.mem_erase_iff.mp hack
    exact ⟨hack, fun hid' => hid (Contents.mem_erase_iff.mpr ⟨hne, hid'⟩)⟩
  · next hout =>
    rw [if_neg hout] at hid
    exact ⟨hack, hid⟩

theorem lapsed_requeue (hack : id ∈ (g.requeue now).inProgressByAck)
    (hid : id ∉ (g.requeue now).inProgressById) : id ∈ g.inProgressByAck ∧ id ∉ g.inProgressById := by
  obtain ⟨hover, hack⟩ := mem_ack_requeue_iff.mp hack
  exact ⟨hack, fun hid' => hid (mem_inProgressById_requeue.mpr ⟨hover, hid'⟩)⟩

end GroupContents

namespace GroupState

variable {s : GroupState} {id : EventId}

/-- **Every move keeps a deadline on record for what is in progress.** -/
theorem leased_move (h : s.Leased) (move : Move) : (move.apply s).Leased := by
  cases move with
  | dequeue now deadline => exact h.dequeue now deadline
  | settle now event => exact h.settle now event
  | requeue now => exact h.requeue now
  | _ => exact h

/-- An event comes to have a deadline only when it has expired and the group asks for its next event. -/
theorem lapsed_move (hnatural : s.Natural) {move : Move} (hack : id ∈ (move.apply s).inProgressByAck)
    (hid : id ∉ (move.apply s).inProgressById) :
    (id ∈ s.inProgressByAck ∧ id ∉ s.inProgressById)
      ∨ ∃ now deadline, move = .dequeue now deadline ∧ id.score ≤ now.score := by
  cases move with
  | dequeue now deadline =>
      exact (GroupContents.lapsed_dequeue hnatural hack hid).imp_right fun h => ⟨now, deadline, rfl, h⟩
  | settle now event => exact Or.inl (GroupContents.lapsed_settle hack hid)
  | requeue now => exact Or.inl (GroupContents.lapsed_requeue hack hid)
  | _ => exact Or.inl ⟨hack, hid⟩

/-- Only a dequeue puts a new deadline on record. -/
theorem getElem?_ack_of_move {move : Move} (hmove : ∀ now deadline, move ≠ .dequeue now deadline)
    {score : Int} (h : (move.apply s).inProgressByAck[id]? = some score) :
    s.inProgressByAck[id]? = some score := by
  cases move with
  | dequeue now deadline => exact absurd rfl (hmove now deadline)
  | settle now event => exact GroupContents.getElem?_ack_of_settle h
  | requeue now => exact GroupContents.getElem?_ack_of_requeue h
  | _ => exact h

/-- An event is in none of the sets before a move only if the move offers it. -/
theorem mem_of_move (hnatural : s.Natural) {move : Move}
    (hid : id ∈ (move.apply s).available ∨ (move.apply s).Touched id) :
    (id ∈ s.available ∨ s.Touched id) ∨ move = .offer id := by
  rcases hid with hid | hid
  · exact (mem_available_of_move hid).imp_left Or.inl
  · rcases touched_of_move hnatural hid with hid | ⟨now, deadline, rfl, hnext⟩
    · exact Or.inl (Or.inr hid)
    · rcases GroupContents.next?_cases (hnatural.dropExpired now) hnext with hredo | ⟨-, hid, -⟩
      · exact Or.inl (Or.inr (Or.inl (Or.inr (Or.inl (Contents.mem_of_mem_live hredo)))))
      · exact Or.inl (Or.inl (Contents.mem_of_mem_live hid))

end GroupState
end GroupQueue
