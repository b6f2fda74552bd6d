import GroupQueue.Proofs.Queue.History
import Mathlib.Data.Set.Basic
import Mathlib.Order.Bounds.Defs

/-!
# `Proofs.Queue.Enumeration` — groups that take the events of a queue in order

A group resumes behind the lesser of two cursors, and hands out again whatever a sweep puts back. Neither ever
shows as long as the group is **unmixed**: if it takes all events without a deadline, it has only done ones; if
it takes all with one, and nobody acknowledges or sweeps, it only has ones in progress. Then there is one
cursor, and it is at the last event handed out, or that event has expired and all before it have. Either way,
what is beyond the cursor and still alive is what is beyond everything that was handed out.

The history shrinks: events leave it when they expire, and once it is empty the group starts over with the
first available event. That loses nothing, since what has expired is less than whatever is alive.

## Contents
- `GroupContents.ahead` — the live events beyond all that have been handed out.
- `GroupContents.Unmixed` — traces of one sort of gets; `Unmixed.le_cursor`.
- `GroupContents.Enumerates` — the invariant; `beyond_iff`, `mem_ahead_iff`.
- `Enumerates.isLeast_next`, `ahead_of_next_none` — the next event in turn is the least one ahead.
- `Enumerates.dequeue`, `Move.Bystands`, `Enumerates.move` — what keeps the invariant.
-/

namespace GroupQueue
namespace GroupContents

variable {g : GroupContents} {leased : Bool} {clock now : Instant} {handed : List EventId}

/-- The available events that are alive and later than all that have been handed out. -/
def ahead (g : GroupContents) (now : Instant) (handed : List EventId) : Set EventId :=
  {id | id ∈ g.available ∧ now.score < id.score ∧ ∀ e ∈ handed, e < id}

/-! ## One sort of gets -/

/-- A group shows traces of gets with a deadline only, or of gets without one only. -/
def Unmixed (g : GroupContents) : Bool → Prop
  | true => g.done = ∅
  | false => g.inProgressById = ∅ ∧ g.inProgressByAck = ∅

/-- Without events to be handed out again, none of the history is beyond the cursor. -/
theorem Unmixed.le_cursor (h : g.Unmixed leased) (hnatural : g.Natural) (hredo : g.redo = ∅) {id : EventId}
    (hid : g.Handed id) : ∃ cursor, g.cursor? = some cursor ∧ id.score ≤ cursor := by
  have hredo : id ∉ g.redo := Contents.eq_empty_iff.mp hredo id
  -- a set with an event in it has a last one, at which the cursor is if the other set is empty
  have hlast {held : Contents} (hscores : held.Natural) (hmem : id ∈ held) :
      ∃ last, held.last? = some last ∧ id ≤ last := by
    cases hlast : held.last? with
    | none => exact absurd hmem (Contents.eq_empty_iff.mp (Contents.last?_eq_none_iff.mp hlast) id)
    | some last => exact ⟨last, rfl, hscores.le_last? hlast hmem⟩
  cases leased with
  | true =>
      have hdone : g.done = ∅ := h
      have hmem : id ∈ g.inProgressById :=
        hid.resolve_right fun h => h.elim hredo (Contents.eq_empty_iff.mp hdone id)
      obtain ⟨last, hlast, hle⟩ := hlast hnatural.inProgressById hmem
      refine ⟨last.score, ?_, hle⟩
      rw [cursor?, hlast, Contents.last?_eq_none_iff.mpr hdone]
      rfl
  | false =>
      have hprogress : g.inProgressById = ∅ := h.1
      have hmem : id ∈ g.done :=
        (hid.resolve_left (Contents.eq_empty_iff.mp hprogress id)).resolve_left hredo
      obtain ⟨last, hlast, hle⟩ := hlast hnatural.done hmem
      refine ⟨last.score, ?_, hle⟩
      rw [cursor?, hlast, Contents.last?_eq_none_iff.mpr hprogress]
      rfl

/-- What holds of an unmixed group that has been handed some events, by the time `clock`. -/
structure Enumerates (g : GroupContents) (leased : Bool) (clock : Instant) (handed : List EventId) :
    Prop where
  unmixed : g.Unmixed leased
  /-- Nothing is to be handed out again. -/
  redo : g.redo = ∅
  /-- The history is of events that have been handed out. -/
  recorded : ∀ id, g.Handed id → id ∈ handed
  /-- An event that has been handed out is in the history until it has expired. -/
  passed : ∀ id ∈ handed, g.Handed id ∨ id.score ≤ clock.score
  /-- Events have been handed out in order. -/
  increasing : handed.Pairwise (· < ·)

/-- A group without events has been handed none. -/
theorem enumerates_fresh (leased : Bool) (clock : Instant) :
    GroupState.fresh.Enumerates leased clock [] where
  unmixed := by cases leased <;> simp [Unmixed, GroupState.fresh]
  redo := rfl
  recorded := fun id hid => by
    rcases hid with hid | hid | hid <;> exact absurd hid Std.ExtTreeMap.not_mem_empty
  passed := nofun
  increasing := .nil

namespace Enumerates

theorem later (h : g.Enumerates leased clock handed) (hle : clock ≤ now) :
    g.Enumerates leased now handed :=
  { h with passed := fun id hid =>
      (h.passed id hid).imp_right fun hexpired => Int.le_trans hexpired (Instant.score_mono hle) }

/-- Dropping expired events changes nothing for events that have not expired. -/
theorem dropExpired (h : g.Enumerates leased clock handed) (hnatural : g.Natural) (hle : clock ≤ now) :
    (g.dropExpired now).Enumerates leased now handed where
  unmixed := by
    cases leased with
    | true =>
        show g.done.live now = ∅
        rw [show g.done = ∅ from h.unmixed, Contents.live_empty]
    | false =>
        refine ⟨?_, h.unmixed.2⟩
        show g.inProgressById.live now = ∅
        rw [h.unmixed.1, Contents.live_empty]
  redo := by
    show g.redo.live now = ∅
    rw [h.redo, Contents.live_empty]
  recorded := fun id hid => h.recorded id ((handed_dropExpired hnatural).mp hid).1
  passed := fun id hid => by
    by_cases hlive : now.score < id.score
    · refine Or.inl ((handed_dropExpired hnatural).mpr ⟨(h.passed id hid).resolve_right ?_, hlive⟩)
      have hscore := Instant.score_mono hle
      omega
    · exact Or.inr (Int.not_lt.mp hlive)
  increasing := h.increasing

/-! ## What is next in turn -/

/-- **Beyond the cursor is beyond everything that was handed out**, for an event that has not expired. -/
theorem beyond_iff (h : g.Enumerates leased now handed) (hnatural : g.Natural) {x : EventId}
    (hlive : now.score < x.score) :
    (∀ e ∈ handed, e < x) ↔ ∀ cursor, g.cursor? = some cursor → cursor < x.score := by
  constructor
  · intro hbeyond cursor hcursor
    rcases cursor?_cases hnatural hcursor with ⟨id, hid, rfl, -⟩ | ⟨id, hid, rfl, -⟩
    · exact hbeyond id (h.recorded id (Or.inl hid))
    · exact hbeyond id (h.recorded id (Or.inr (Or.inr hid)))
  · intro hbeyond e he
    rcases h.passed e he with hhanded | hexpired
    · obtain ⟨cursor, hcursor, hle⟩ := h.unmixed.le_cursor hnatural h.redo hhanded
      exact Int.lt_of_le_of_lt hle (hbeyond cursor hcursor)
    · exact Int.lt_of_le_of_lt hexpired hlive

theorem mem_ahead_iff (h : g.Enumerates leased clock handed) (hnatural : g.Natural) (hle : clock ≤ now)
    {x : EventId} :
    x ∈ g.ahead now handed ↔ x ∈ (g.dropExpired now).available
      ∧ ∀ cursor, (g.dropExpired now).cursor? = some cursor → cursor < x.score := by
  have hdropped := h.dropExpired hnatural hle
  rw [show (g.dropExpired now).available = g.available.live now from rfl, hnatural.available.mem_live]
  constructor
  · rintro ⟨hmem, hlive, hbeyond⟩
    exact ⟨⟨hmem, hlive⟩, (hdropped.beyond_iff (hnatural.dropExpired now) hlive).mp hbeyond⟩
  · rintro ⟨⟨hmem, hlive⟩, hbeyond⟩
    exact ⟨hmem, hlive, (hdropped.beyond_iff (hnatural.dropExpired now) hlive).mpr hbeyond⟩

/-- **The next event in turn is the least one ahead.** -/
theorem isLeast_next (h : g.Enumerates leased clock handed) (hnatural : g.Natural) (hle : clock ≤ now)
    {id : EventId} (hnext : (g.dropExpired now).next? = some id) : IsLeast (g.ahead now handed) id := by
  have hahead {x : EventId} := h.mem_ahead_iff hnatural hle (x := x)
  rcases next?_cases (hnatural.dropExpired now) hnext with hredo | ⟨-, havailable, hturn⟩
  · exact absurd hredo (Contents.eq_empty_iff.mp (h.dropExpired hnatural hle).redo id)
  rcases hturn with ⟨cursor, hcursor, hlt, hfirst⟩ | ⟨hnone, hfirst⟩
  · refine ⟨hahead.mpr ⟨havailable, fun c hc => ?_⟩, fun x hx => ?_⟩
    · obtain rfl := Option.some.inj (hcursor.symm.trans hc)
      exact hlt
    · obtain ⟨hmem, hbeyond⟩ := hahead.mp hx
      exact hfirst x hmem (hbeyond cursor hcursor)
  · refine ⟨hahead.mpr ⟨havailable, fun c hc => ?_⟩, fun x hx => hfirst x (hahead.mp hx).1⟩
    rw [hnone] at hc
    cases hc

/-- If there is none, nothing is ahead. -/
theorem ahead_of_next_none (h : g.Enumerates leased clock handed) (hnatural : g.Natural) (hle : clock ≤ now)
    (hnext : (g.dropExpired now).next? = none) : g.ahead now handed = ∅ := by
  obtain ⟨-, hbehind⟩ := next?_none (hnatural.dropExpired now) hnext
  refine Set.eq_empty_iff_forall_notMem.mpr fun x hx => ?_
  obtain ⟨hmem, hbeyond⟩ := (h.mem_ahead_iff hnatural hle).mp hx
  obtain ⟨cursor, hcursor, hscore⟩ := hbehind x hmem
  exact Int.lt_irrefl _ (Int.lt_of_lt_of_le (hbeyond cursor hcursor) hscore)

/-! ## What keeps the invariant -/

/-- Taking an event that is later than all before it, in the same way as these. -/
theorem take (h : g.Enumerates leased clock handed) {id : EventId} (hlater : ∀ e ∈ handed, e < id)
    {deadline : Option Instant} (hleased : deadline.isSome = leased) :
    (g.take deadline id).Enumerates leased clock (handed ++ [id]) where
  unmixed := by
    cases deadline with
    | some deadline =>
        obtain rfl : true = leased := hleased
        exact h.unmixed
    | none =>
        obtain rfl : false = leased := hleased
        exact h.unmixed
  redo := by
    have hredo : (g.take deadline id).redo = g.redo.erase id := by cases deadline <;> rfl
    rw [hredo, h.redo, Contents.erase_of_not_mem Std.ExtTreeMap.not_mem_empty]
  recorded := fun x hx => by
    rcases (handed_take deadline).mp hx with rfl | hx
    · exact List.mem_append_right _ (List.mem_singleton.mpr rfl)
    · exact List.mem_append_left _ (h.recorded x hx)
  passed := fun x hx => by
    rcases List.mem_append.mp hx with hx | hx
    · exact (h.passed x hx).imp_left fun hhanded => (handed_take deadline).mpr (Or.inr hhanded)
    · exact Or.inl ((handed_take deadline).mpr (Or.inl (List.mem_singleton.mp hx)))
  increasing := List.pairwise_append.mpr ⟨h.increasing, List.pairwise_singleton _ _, fun e he x hx => by
    rw [List.mem_singleton.mp hx]
    exact hlater e he⟩

/-- **A get takes the group one event further**, if it is of the same sort as those before. -/
theorem dequeue (h : g.Enumerates leased clock handed) (hnatural : g.Natural) (hle : clock ≤ now)
    {deadline : Option Instant} (hleased : deadline.isSome = leased) :
    (g.dequeue now deadline).Enumerates leased now
      (handed ++ (g.dropExpired now).next?.toList) := by
  have hdropped := h.dropExpired hnatural hle
  cases hnext : (g.dropExpired now).next? with
  | none =>
      rw [dequeue_of_none hnext, Option.toList_none, List.append_nil]
      exact hdropped
  | some id =>
      rw [dequeue_of_some hnext]
      exact hdropped.take (h.isLeast_next hnatural hle hnext).1.2.2 hleased

end Enumerates

end GroupContents

/-- The moves that leave an unmixed group where it is: no gets, and acknowledgements and sweeps only if it takes
    events without a deadline. -/
def Move.Bystands (leased : Bool) (clock : Instant) : Move → Prop
  | .issue _ | .offer _ | .age _ | .purgeRedo _ => True
  | .dequeue _ _ => False
  | .settle _ _ | .requeue _ => leased = false
  | .purgeDone now => leased = false ∧ now ≤ clock

namespace GroupContents.Enumerates

variable {s : GroupState} {leased : Bool} {clock now : Instant} {handed : List EventId}

/-- **Other moves leave the group where it is.** Without events in progress there is nothing to acknowledge
    and nothing to put back. -/
theorem move (h : s.Enumerates leased clock handed) (hnatural : s.Natural) {move : Move}
    (hmove : move.Bystands leased clock) : (move.apply s).Enumerates leased clock handed := by
  cases move with
  | issue id | offer id | age now => exact ⟨h.unmixed, h.redo, h.recorded, h.passed, h.increasing⟩
  | dequeue now deadline => exact hmove.elim
  | settle now event =>
      obtain rfl : leased = false := hmove
      have hack : s.inProgressByAck = ∅ := h.unmixed.2
      have hlate : ¬ s.inTime now event = true := fun hin =>
        Contents.eq_empty_iff.mp hack event (mem_ack_of_inTime hin)
      show (s.settle now event).Enumerates false clock handed
      rw [settle, if_neg hlate]
      exact h
  | requeue now =>
      obtain rfl : leased = false := hmove
      show (s.requeue now).Enumerates false clock handed
      rw [requeue_of_ack_eq_empty h.unmixed.2]
      exact h
  | purgeRedo now =>
      have hredo : s.redo.live now = s.redo := by rw [h.redo, Contents.live_empty]
      rw [Move.apply, hredo]
      exact h
  | purgeDone now =>
      obtain ⟨rfl, hle⟩ := hmove
      refine ⟨h.unmixed, h.redo, fun id hid => ?_, fun id hid => ?_, h.increasing⟩
      · exact h.recorded id (hid.imp_right fun hid => hid.imp_right Contents.mem_of_mem_live)
      · rcases h.passed id hid with (hprogress | hredo | hdone) | hexpired
        · exact Or.inl (Or.inl hprogress)
        · exact Or.inl (Or.inr (Or.inl hredo))
        · -- only what has expired leaves the events done
          by_cases hlive : now.score < id.score
          · exact Or.inl (Or.inr (Or.inr (hnatural.done.mem_live.mpr ⟨hdone, hlive⟩)))
          · exact Or.inr (Int.le_trans (Int.not_lt.mp hlive) (Instant.score_mono hle))
        · exact Or.inr hexpired

end GroupContents.Enumerates

end GroupQueue
