import GroupQueue.Proofs.Queue.GroupContents

/-!
# `Proofs.Queue.GroupState` — the moves that a consumer group lives through

Whatever is requested of a queue service, and whichever calls fail, a consumer group sees its sets change
by a handful of **moves**. A move is a function of the state of the group; some are possible only in some
states: an identifier is later than all before it, and a group's history is purged only after the
shared set. What is to hold in every run is shown for each move, and follows for sequences of them.

## Contents
- `GroupState` — the contents of a group with the last identifier issued; `GroupState.fresh`.
- `Move`, `Move.apply`, `Move.Allowed`.
- `Moves` — sequences of moves of a kind; `Moves.keeps`.
- `GroupState.Natural` — natural scores; kept by every move (`Natural.move`).
-/

namespace GroupQueue

/-- The state of a consumer group: what its sets hold, and the last identifier that was issued. -/
structure GroupState extends GroupContents where
  lastId : Option EventId

/-- The state of every group over an empty store. -/
def GroupState.fresh : GroupState := ⟨⟨∅, ∅, ∅, ∅, ∅⟩, none⟩

/-! ## Moves -/

/-- One change to what a consumer group sees. -/
inductive Move where
  /-- An identifier is issued, and no event of the queue gets it. -/
  | issue (id : EventId)
  /-- An identifier is issued, and its event becomes available. -/
  | offer (id : EventId)
  /-- Expired events leave the shared set. -/
  | age (now : Instant)
  /-- The group takes its next event. -/
  | dequeue (now : Instant) (deadline : Option Instant)
  /-- The group acknowledges an event. -/
  | settle (now : Instant) (event : EventId)
  /-- Overdue events of the group are put among those to be handed out again. -/
  | requeue (now : Instant)
  /-- Expired events are no longer to be handed out again. -/
  | purgeRedo (now : Instant)
  /-- Expired events no longer count as done. -/
  | purgeDone (now : Instant)

namespace Move

/-- What a move does. -/
def apply (s : GroupState) : Move → GroupState
  | issue id => { s with lastId := some id }
  | offer id => { s with lastId := some id, available := s.available.insert id id.score }
  | age now => { s with available := s.available.live now }
  | dequeue now deadline => { s with toGroupContents := s.toGroupContents.dequeue now deadline }
  | settle now event => { s with toGroupContents := s.toGroupContents.settle now event }
  | requeue now => { s with toGroupContents := s.toGroupContents.requeue now }
  | purgeRedo now => { s with redo := s.redo.live now }
  | purgeDone now => { s with done := s.done.live now }

/-- When a move can happen. -/
def Allowed (s : GroupState) : Move → Prop
  | issue id | offer id => ∀ last ∈ s.lastId, last < id
  | purgeRedo now | purgeDone now => s.available.live now = s.available
  | age _ | dequeue _ _ | settle _ _ | requeue _ => True

end Move

/-- A sequence of moves of a kind leads from one state to another. -/
inductive Moves (kind : Move → Prop) : GroupState → GroupState → Prop
  | refl (s : GroupState) : Moves kind s s
  | tail {s t : GroupState} (h : Moves kind s t) {move : Move} (hkind : kind move)
      (hallowed : move.Allowed t) : Moves kind s (move.apply t)

namespace Moves

variable {kind : Move → Prop} {s t : GroupState}

/-- One move. -/
theorem single (move : Move) (heq : t = move.apply s) (hkind : kind move) (hallowed : move.Allowed s) :
    Moves kind s t := by
  rw [heq]
  exact (Moves.refl s).tail hkind hallowed

theorem mono {kind' : Move → Prop} (h : Moves kind s t) (hkind : ∀ move, kind move → kind' move) :
    Moves kind' s t := by
  induction h with
  | refl => exact .refl _
  | tail _ hmove hallowed ih => exact ih.tail (hkind _ hmove) hallowed

/-- What every move of the kind keeps, every sequence of them keeps. -/
theorem keeps {I : GroupState → Prop} (h : Moves kind s t)
    (hmove : ∀ move s, kind move → move.Allowed s → I s → I (move.apply s)) (hs : I s) : I t := by
  induction h with
  | refl => exact hs
  | tail _ hkind hallowed ih => exact hmove _ _ hkind hallowed ih

end Moves

/-! ## Natural scores -/

/-- All sets but the one with deadlines hold natural scores. -/
structure GroupContents.Natural (g : GroupContents) : Prop where
  available : g.available.Natural
  inProgressById : g.inProgressById.Natural
  redo : g.redo.Natural
  done : g.done.Natural

namespace GroupContents.Natural

variable {g : GroupContents}

theorem dropExpired (h : g.Natural) (now : Instant) : (g.dropExpired now).Natural :=
  ⟨h.available.live now, h.inProgressById.live now, h.redo.live now, h.done.live now⟩

theorem take (h : g.Natural) (deadline : Option Instant) (id : EventId) : (g.take deadline id).Natural := by
  cases deadline with
  | some deadline => exact ⟨h.available, h.inProgressById.insert id, h.redo.erase id, h.done⟩
  | none => exact ⟨h.available, h.inProgressById, h.redo.erase id, h.done.insert id⟩

theorem dequeue (h : g.Natural) (now : Instant) (deadline : Option Instant) :
    (g.dequeue now deadline).Natural := by
  cases hnext : (g.dropExpired now).next? with
  | none =>
      rw [GroupContents.dequeue_of_none hnext]
      exact h.dropExpired now
  | some id =>
      rw [GroupContents.dequeue_of_some hnext]
      exact (h.dropExpired now).take deadline id

theorem settle (h : g.Natural) (now : Instant) (event : EventId) : (g.settle now event).Natural := by
  unfold GroupContents.settle
  split
  · exact ⟨h.available, h.inProgressById.erase event, h.redo, h.done.insert event⟩
  · exact h

theorem redo_requeue (h : g.redo.Natural) (now : Instant) : (g.requeue now).redo.Natural := by
  refine h.upsert fun m hm => ?_
  obtain ⟨id, -, rfl⟩ := List.mem_map.mp hm
  rfl

theorem requeue (h : g.Natural) (now : Instant) : (g.requeue now).Natural :=
  ⟨h.available, h.inProgressById.without _, redo_requeue h.redo now, h.done⟩

/-- Every move keeps natural scores. -/
theorem move {s : GroupState} (h : s.Natural) (move : Move) : (move.apply s).Natural := by
  cases move with
  | issue id => exact h
  | offer id => exact ⟨h.available.insert id, h.inProgressById, h.redo, h.done⟩
  | age now => exact ⟨h.available.live now, h.inProgressById, h.redo, h.done⟩
  | dequeue now deadline => exact h.dequeue now deadline
  | settle now event => exact h.settle now event
  | requeue now => exact h.requeue now
  | purgeRedo now => exact ⟨h.available, h.inProgressById, h.redo.live now, h.done⟩
  | purgeDone now => exact ⟨h.available, h.inProgressById, h.redo, h.done.live now⟩

end GroupContents.Natural

theorem GroupState.natural_fresh : GroupState.fresh.Natural :=
  ⟨Contents.natural_empty, Contents.natural_empty, Contents.natural_empty, Contents.natural_empty⟩

end GroupQueue
