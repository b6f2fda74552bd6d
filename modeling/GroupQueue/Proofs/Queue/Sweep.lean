import GroupQueue.Proofs.Queue.History
import GroupQueue.Queue.Operations
import Mathlib.Data.List.Basic

/-!
# `Proofs.Queue.Sweep` — what a sweep does to the sets of a group

A sweep changes the sets of a group four times: it requeues the overdue events, and then drops what has expired
from one set after another. It may be cut short between any two changes. Whatever it has left undone, the next
sweep makes up for: a whole sweep after the first few changes comes to the same as a whole sweep without them
(`sweep_sweptUpTo`), and after a whole sweep there is nothing left to do.

## Contents
- `Contents.expired` — the part of a set that has expired; `size_live_add_size_expired`.
- `GroupContents.purge`, `sweepSteps`, `sweptUpTo`, `sweep` — the changes of a sweep.
- `GroupContents.sweepReport` — what a sweep counts.
- `sweep_sweptUpTo`, `sweep_sweep`, `sweepReport_sweep` — sweeping again.
- `handed_sweptUpTo` — what a sweep takes out of the history has expired.
- `sweep_with_available`, `sweepReport_with_available` — sweeping a group whose shared set has been purged.
-/

namespace GroupQueue

namespace Contents

/-- The events that have expired by `now`. -/
def expired (held : Contents) (now : Instant) : Contents :=
  held.filter fun _ score => decide (score ≤ now.score)

theorem getElem?_expired {held : Contents} {now : Instant} {id : EventId} {score : Int} :
    (expired held now)[id]? = some score ↔ held[id]? = some score ∧ score ≤ now.score := by
  rw [expired, Std.ExtTreeMap.getElem?_filter', Option.filter_eq_some_iff, decide_eq_true_iff]

/-- Among the events that are alive, none has expired. -/
theorem expired_live (held : Contents) (now : Instant) : expired (live held now) now = ∅ := by
  refine eq_empty_iff.mpr fun id hid => ?_
  obtain ⟨score, hscore⟩ := mem_iff.mp hid
  obtain ⟨hlive, hle⟩ := getElem?_expired.mp hscore
  exact Int.not_le.mpr (getElem?_live.mp hlive).2 hle

@[simp] theorem size_expired_live (held : Contents) (now : Instant) : (expired (live held now) now).size = 0 := by
  rw [expired_live]
  rfl

/-- Every event of a set is alive or has expired. -/
theorem size_live_add_size_expired (held : Contents) (now : Instant) :
    (live held now).size + (expired held now).size = held.size := by
  have hnot : (fun m : Member => decide (m.score ≤ now.score)) = fun m => !decide (now.score < m.score) := by
    funext m
    rw [← decide_not]
    exact decide_eq_decide.mpr Int.not_lt.symm
  rw [← length_members, ← length_members, ← length_members, live, expired, members_filter, members_filter, hnot]
  exact (List.length_eq_length_filter_add _).symm

end Contents

namespace GroupContents

variable (g : GroupContents) (now : Instant)

/-! ## The changes of a sweep -/

/-- Where the sets of a group hold the same, the same is held under each of their keys. -/
theorem eq_of_of_eq {view view' : String → Contents} {sets : GroupSets} (h : of view sets = of view' sets) :
    ∀ key ∈ sets.keys, view key = view' key := by
  intro key hkey
  simp only [of, GroupContents.mk.injEq] at h
  simp only [GroupSets.keys, List.mem_cons, List.not_mem_nil, or_false] at hkey
  obtain ⟨havailable, hprogress, hack, hredo, hdone⟩ := h
  rcases hkey with rfl | rfl | rfl | rfl | rfl
  · exact havailable
  · exact hprogress
  · exact hack
  · exact hredo
  · exact hdone

/-- Drop what has expired from the set in a role. -/
def purge (role : Role) : GroupContents :=
  match role with
  | .available => { g with available := g.available.live now }
  | .inProgressById => { g with inProgressById := g.inProgressById.live now }
  | .inProgressByAck => { g with inProgressByAck := g.inProgressByAck.live now }
  | .redo => { g with redo := g.redo.live now }
  | .done => { g with done := g.done.live now }

/-- The changes that a sweep makes, in order. -/
def sweepSteps : List (GroupContents → GroupContents) :=
  [(·.requeue now), (·.purge now .available), (·.purge now .redo), (·.purge now .done)]

/-- The sets of a group after the first few changes of a sweep. -/
def sweptUpTo (n : Nat) : GroupContents := ((sweepSteps now).take n).foldl (fun g step => step g) g

/-- The sets of a group after a sweep: overdue events are to be handed out again, and what has expired has left
    the shared set, the events to be handed out again, and those that are done. -/
def sweep : GroupContents :=
  { g.requeue now with
    available := g.available.live now
    redo := (g.requeue now).redo.live now
    done := g.done.live now }

/-- What a sweep counts: the overdue events, and the expired ones. An overdue event that has expired counts
    as both. -/
def sweepReport : SweepReport where
  requeued := (g.overdue now).length
  purged := (g.available.expired now).size + ((g.requeue now).redo.expired now).size + (g.done.expired now).size

theorem sweptUpTo_of_le {n : Nat} (hn : 4 ≤ n) : g.sweptUpTo now n = g.sweep now := by
  rw [sweptUpTo, List.take_of_length_le (show (sweepSteps now).length ≤ n from hn)]
  rfl

/-- Of the events with a deadline, those that are not overdue keep it. -/
theorem without_overdue :
    Contents.without g.inProgressByAck (g.overdue now) = (g.requeue now).inProgressByAck := by
  rw [overdue, Contents.without_members_filter]
  refine congrArg (Std.ExtTreeMap.filter · _) (funext fun _ => funext fun deadline => ?_)
  rw [← decide_not]
  exact decide_eq_decide.mpr Int.not_lt

/-! ## Sweeping again -/

/-- Once the overdue events have been requeued, none is overdue. -/
theorem overdue_requeue : (g.requeue now).overdue now = [] := by
  refine List.eq_nil_iff_forall_not_mem.mpr fun id hid => ?_
  obtain ⟨deadline, hdeadline, hlt⟩ := mem_overdue_iff.mp hid
  rw [requeue, Std.ExtTreeMap.getElem?_filter', Option.filter_eq_some_iff, decide_eq_true_iff] at hdeadline
  exact Int.not_le.mpr hlt hdeadline.2

/-- Where no event is overdue, a sweep drops what has expired, and does nothing else. -/
theorem sweep_of_overdue_eq_nil {g : GroupContents} {now : Instant} (h : g.overdue now = []) :
    g.sweep now
      = { g with available := g.available.live now, redo := g.redo.live now, done := g.done.live now } := by
  rw [sweep, requeue_of_overdue_eq_nil h]

/-- **A sweep makes up for what another one has left undone.** -/
theorem sweep_sweptUpTo (n : Nat) : (g.sweptUpTo now n).sweep now = g.sweep now := by
  -- past the first change no event is overdue, and dropping what has expired twice is dropping it once
  have hnone : (g.requeue now).overdue now = [] := g.overdue_requeue now
  match n with
  | 0 => rfl
  | 1 => exact sweep_of_overdue_eq_nil hnone
  | 2 =>
      show ((g.requeue now).purge now .available).sweep now = _
      rw [sweep_of_overdue_eq_nil (g := (g.requeue now).purge now .available) hnone]
      simp only [purge, sweep, requeue, Contents.live_live]
  | 3 =>
      show (((g.requeue now).purge now .available).purge now .redo).sweep now = _
      rw [sweep_of_overdue_eq_nil (g := ((g.requeue now).purge now .available).purge now .redo) hnone]
      simp only [purge, sweep, requeue, Contents.live_live]
  | n + 4 =>
      rw [g.sweptUpTo_of_le now (Nat.le_add_left 4 n)]
      rw [sweep_of_overdue_eq_nil (g := g.sweep now) hnone]
      simp only [sweep, requeue, Contents.live_live]

theorem sweep_sweep : (g.sweep now).sweep now = g.sweep now := by
  have hwhole := g.sweep_sweptUpTo now 4
  rwa [g.sweptUpTo_of_le now (Nat.le_refl 4)] at hwhole

/-- A second sweep finds nothing to do. -/
theorem sweepReport_sweep : (g.sweep now).sweepReport now = {} := by
  have hnone : (g.sweep now).overdue now = [] := g.overdue_requeue now
  rw [sweepReport, hnone, requeue_of_overdue_eq_nil hnone]
  simp only [sweep, Contents.size_expired_live, List.length_nil]

/-! ## What a sweep keeps -/

/-- **What a sweep takes out of the history has expired**, however far it has got. -/
theorem handed_sweptUpTo {g : GroupContents} (hredo : g.redo.Natural) (hdone : g.done.Natural) {now : Instant}
    (n : Nat) {id : EventId} (h : g.Handed id) : (g.sweptUpTo now n).Handed id ∨ id.score ≤ now.score := by
  by_cases hlive : now.score < id.score
  · refine Or.inl ?_
    have hrequeued : (g.requeue now).Handed id := handed_requeue now h
    have hnatural : (g.requeue now).redo.Natural := Natural.redo_requeue hredo now
    -- a live event stays in the sets from which the expired ones are dropped
    have hredone : id ∈ (g.requeue now).redo → id ∈ (g.requeue now).redo.live now := fun hid =>
      hnatural.mem_live.mpr ⟨hid, hlive⟩
    match n with
    | 0 => exact h
    | 1 | 2 => exact hrequeued
    | 3 => exact hrequeued.imp_right (Or.imp_left hredone)
    | n + 4 =>
        rw [g.sweptUpTo_of_le now (Nat.le_add_left 4 n)]
        refine hrequeued.imp_right (Or.imp hredone fun hid => ?_)
        exact hdone.mem_live.mpr ⟨hid, hlive⟩
  · exact Or.inr (Int.not_lt.mp hlive)

/-! ## A shared set that has been purged before -/

/-- The shared set plays no part in what a sweep does to the other sets. -/
theorem sweep_with_available (held : Contents) :
    ({ g with available := held } : GroupContents).sweep now
      = { g.sweep now with available := held.live now } := rfl

/-- A sweep counts the events of the shared set that have expired on top of what it counts otherwise. -/
theorem sweepReport_with_available (held : Contents) :
    ({ g with available := held } : GroupContents).sweepReport now
      = { requeued := (g.overdue now).length
          purged := (held.expired now).size + ((g.requeue now).redo.expired now).size
            + (g.done.expired now).size } := rfl

end GroupContents

end GroupQueue
