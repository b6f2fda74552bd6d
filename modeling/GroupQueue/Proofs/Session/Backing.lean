import GroupQueue.Proofs.Plan.Footprint
import GroupQueue.Proofs.Session.Dequeue
import GroupQueue.Proofs.Store.Payloads

/-!
# `Proofs.Session.Backing` — what lies behind the events in the sets

An event is put into a set only after its identifier has been issued and its payload has been put, and
payloads are dropped only after their events have expired. So as long as the clock has not gone beyond some
reading, every event in any set has an identifier that was issued, and its payload is still found at that
reading, unless the event has expired by then. This holds whichever calls fail, whichever services share the
store, and however the clock has moved before.

## Contents
- `Memory.Backs`, `Memory.Backed` — the events of which this is true, and the stores where it is of all.
- `lastId_of_makes`, `find?_of_makes` — the last identifier and the payloads that are kept, after a call that is
  not made to add an event.
- `Backed.execute`, `Backed.answer`, `ensures_backed_add` — kept by plans, by calls, and by adding.
- `Session.backed_after`, `Session.issued_of_mem`, `Session.find?_of_mem` — in every state that a run can reach.
-/

namespace GroupQueue

namespace Memory

/-- The identifier of an event has been issued, and its payload is found at `now` unless the event has
    expired by then. -/
def Backs (memory : Memory) (now : Instant) (id : EventId) : Prop :=
  (∃ last ∈ memory.lastId, id ≤ last)
    ∧ (now < id.expiry → (memory.payloads.find? now id).isSome = true)

/-- So it is for every event in any set. -/
def Backed (memory : Memory) (now : Instant) : Prop := AllHeld (memory.Backs now) memory.sets.contents

theorem backed_fresh (now : Instant) : Backed {} now := by
  intro key id hid
  change id ∈ Sets.contents {} key at hid
  rw [Sets.contents_fresh] at hid
  exact absurd hid Std.ExtTreeMap.not_mem_empty

variable {memory : Memory} {now last : Instant}

/-- Executing a plan does not touch what lies behind the events. -/
theorem Backs.of_execute {id : EventId} (h : memory.Backs last id) (plan : Plan) :
    (memory.execute plan).2.Backs last id := by
  rw [execute_eq]
  exact h

/-- A plan keeps every event backed if those are that it names. -/
theorem Backed.execute (h : memory.Backed last) (hsound : memory.Sound) {plan : Plan}
    (hnames : ∀ id ∈ plan.names, memory.Backs last id) :
    (memory.execute plan).2.Backed last := by
  intro key id hid
  exact Backs.of_execute (held_execute hsound.sets hnames h key id hid) plan

/-- Only adding an event names any. -/
theorem names_of_makes {q : Queue} {request : Request} {plan : Plan}
    (h : request.Makes q now (.execute plan)) (hadd : ∀ cmd, request ≠ .add cmd) : plan.names = [] := by
  cases h with
  | add hqueue id => exact absurd rfl (hadd _)
  | @get cmd hqueue hgroup =>
      rw [Plan.names, Queue.steps_getPlan]
      cases cmd.deadline <;> rfl
  | _ => rfl

/-- Only adding an event issues an identifier. -/
theorem lastId_of_makes {q : Queue} {request : Request} {call : StoreCall}
    (hcall : request.Makes q now call) (hadd : ∀ cmd, request ≠ .add cmd) (memory : Memory) :
    (memory.answer now call).2.lastId = memory.lastId := by
  cases call with
  | newEventId expire =>
      cases hcall with
      | issue cmd => exact absurd rfl (hadd cmd)
  | execute plan =>
      show (memory.execute plan).2.lastId = memory.lastId
      rw [execute_eq]
  | putPayload _ _ | getPayload _ | purgePayloads => rfl

/-- What payloads are kept does not depend on the calls that are made for anything but additions. -/
theorem find?_of_makes {q : Queue} {request : Request} {call : StoreCall}
    (hcall : request.Makes q now call) (hadd : ∀ cmd, request ≠ .add cmd) (hnow : now ≤ last)
    (memory : Memory) (id : EventId) :
    (memory.answer now call).2.payloads.find? last id = memory.payloads.find? last id := by
  cases call with
  | newEventId expire => rfl
  | putPayload event grace =>
      cases hcall with
      | keep cmd id => exact absurd rfl (hadd cmd)
  | getPayload x => exact Payloads.find?_get hnow x id
  | execute plan =>
      show (memory.execute plan).2.payloads.find? last id = _
      rw [execute_eq]
  | purgePayloads => exact Payloads.find?_purge hnow id

/-- A call keeps every event backed, if it is not made to add one and the clock has not gone too far. -/
theorem Backed.answer (h : memory.Backed last) (hsound : memory.Sound) {q : Queue} {request : Request}
    (hadd : ∀ cmd, request ≠ .add cmd) (hnow : now ≤ last) {call : StoreCall}
    (hcall : request.Makes q now call) : (memory.answer now call).2.Backed last := by
  have hfind := find?_of_makes hcall hadd hnow memory
  cases call with
  | newEventId expire =>
      cases hcall with
      | issue cmd => exact absurd rfl (hadd cmd)
  | putPayload event grace =>
      cases hcall with
      | keep cmd id => exact absurd rfl (hadd cmd)
  | execute plan =>
      refine h.execute hsound fun id hid => ?_
      rw [names_of_makes hcall hadd] at hid
      exact absurd hid List.not_mem_nil
  | getPayload _ | purgePayloads =>
      intro key id hid
      obtain ⟨hissued, hkept⟩ := h key id hid
      refine ⟨hissued, fun hlive => ?_⟩
      rw [hfind]
      exact hkept hlive

/-! ## Adding -/

/-- An identifier that has been issued stays so when the next one is. -/
theorem le_nextAfter {expire : Instant} {id : EventId} (h : ∃ last ∈ memory.lastId, id ≤ last) :
    id < EventId.nextAfter expire memory.lastId := by
  obtain ⟨last, hlast, hle⟩ := h
  exact Int.lt_of_le_of_lt hle (EventId.lt_nextAfter expire hlast)

/-- With the payload of a new event, all events that were backed are, and the new one is. -/
theorem backs_stored (q : Queue) (cmd : AddCommand) {id : EventId}
    (h : memory.Backs last id ∨ id = EventId.nextAfter cmd.expire memory.lastId) :
    (memory.stored q cmd).Backs last id := by
  rcases h with ⟨hissued, hkept⟩ | rfl
  · have hlt : id < EventId.nextAfter cmd.expire memory.lastId := le_nextAfter hissued
    refine ⟨⟨_, rfl, Int.le_of_lt hlt⟩, fun hlive => ?_⟩
    -- the new event has an identifier of its own, and leaves the other payloads alone
    rw [stored, Payloads.find?_put, if_neg]
    · exact hkept hlive
    · rintro rfl
      exact Int.lt_irrefl _ hlt
  · exact ⟨⟨_, rfl, Int.le_refl _⟩, fun hlive => Payloads.isSome_find?_put _ hlive _ _⟩

theorem ensures_backed_add (h : memory.Backed last) (hsound : memory.Sound) (q : Queue)
    (cmd : AddCommand) :
    Ensures now (q.add now cmd).run memory fun _ after => after.Backed last := by
  have hstored : (memory.stored q cmd).Backed last :=
    fun key id hid => backs_stored q cmd (Or.inl (h key id hid))
  refine ensures_add_of (fun _ => h) (fun _ key id hid => ?_) (fun _ => hstored) fun hqueue => ?_
  · obtain ⟨hissued, hkept⟩ := h key id hid
    exact ⟨⟨_, rfl, Int.le_of_lt (le_nextAfter hissued)⟩, hkept⟩
  · refine hstored.execute ⟨hsound.sets, hsound.payloads.put _ q.grace⟩ fun id hid => ?_
    exact backs_stored q cmd (Or.inr (List.mem_singleton.mp hid))

end Memory

/-- **What lies behind the events, in every state that a run can reach.** -/
theorem Session.backed_after {turns : List Turn} (hop : ∀ t ∈ turns, t.request.isOperation = true)
    {last : Instant} (hnow : ∀ t ∈ turns, t.now ≤ last) : (after turns).memory.Backed last := by
  induction turns using List.reverseRecOn with
  | nil => exact Memory.backed_fresh last
  | append_singleton turns t ih =>
      rw [List.forall_mem_append, List.forall_mem_singleton] at hop hnow
      have hbacked := ih hop.1 hnow.1
      by_cases hadd : ∃ cmd, t.request = .add cmd
      · obtain ⟨cmd, hrequest⟩ := hadd
        have hkept : Ensures t.now (t.request.perform t.queue t.now).run (after turns).memory
            fun _ memory => memory.Backed last := by
          rw [hrequest, Request.perform, ensures_operation_map]
          exact Memory.ensures_backed_add hbacked (sound_after hop.1) t.queue cmd
        exact after_of_ensures hkept
      · exact turn_keeps_sound hop.1 hop.2 (fun call hcall memory hsound hmemory =>
          Memory.Backed.answer hmemory hsound (fun cmd heq => hadd ⟨cmd, heq⟩) hnow.2 hcall) hbacked

/-- The clock readings of a run have an upper bound. -/
theorem Session.exists_now_le (turns : List Turn) : ∃ last : Instant, ∀ t ∈ turns, t.now ≤ last := by
  induction turns with
  | nil => exact ⟨⟨0, false⟩, nofun⟩
  | cons t turns ih =>
      obtain ⟨last, hlast⟩ := ih
      refine ⟨⟨max t.now.nanos last.nanos, false⟩, List.forall_mem_cons.mpr ⟨Int.le_max_left _ _, ?_⟩⟩
      exact fun x hx => Int.le_trans (hlast x hx) (Int.le_max_right _ _)

/-- So every event in any set has an identifier that was issued. -/
theorem Session.issued_of_mem {turns : List Turn} (hop : ∀ t ∈ turns, t.request.isOperation = true)
    {key : String} {id : EventId} (hid : id ∈ (after turns).memory.sets.contents key) :
    ∃ last ∈ (after turns).memory.lastId, id ≤ last := by
  obtain ⟨last, hlast⟩ := exists_now_le turns
  exact (backed_after hop hlast key id hid).1

/-- And an event in any set that has not expired has its payload. -/
theorem Session.find?_of_mem {turns : List Turn} (hop : ∀ t ∈ turns, t.request.isOperation = true)
    {now : Instant} (hnow : ∀ t ∈ turns, t.now ≤ now) (hlast : now < Instant.latest) {key : String}
    {id : EventId} (hid : id ∈ (after turns).memory.sets.contents key) (hlive : now.score < id.score) :
    ∃ payload, (after turns).memory.payloads.find? now id = some payload ∧ payload.event.id = id := by
  obtain ⟨-, hkept⟩ := backed_after hop hnow key id hid
  obtain ⟨payload, hpayload⟩ := Option.isSome_iff_exists.mp (hkept (EventId.lt_expiry hlive hlast))
  exact ⟨payload, hpayload,
    (sound_after hop).payloads id payload (Payloads.find?_eq_some_iff.mp hpayload).1⟩

end GroupQueue
