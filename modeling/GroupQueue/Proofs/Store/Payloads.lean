import GroupQueue.Proofs.Store.Contents
import GroupQueue.Proofs.Time.Clock
import GroupQueue.Store.Payloads

/-!
# `Proofs.Store.Payloads` — the payloads that are still kept

A payload whose time has come may be dropped by a get or by a purge, or be held for a while longer. None
of this can be observed: what is found at a clock reading depends only on what was put, and dropping at an
earlier reading takes nothing away.

## Contents
- `Payloads.find?` — the payload that is kept at a clock reading; `find?_of_le`, `fst_get`.
- `find?_get`, `find?_purge`, `find?_put` — what the operations do to it.
- `EventId.inRange_expiry`, `EventId.lt_onClock_of_lt_expiry`, `Payloads.isSome_find?_put` — a new payload is kept
  as long as its event lives.
-/

namespace GroupQueue

namespace StoredPayload

theorem isLive_iff {payload : StoredPayload} {now : Instant} :
    payload.isLive now = true ↔ now < payload.expiresAt.onClock := by
  rw [isLive, decide_eq_true_iff]

/-- What is kept later is kept now. -/
theorem isLive_of_le {payload : StoredPayload} {now later : Instant} (hle : now ≤ later)
    (h : payload.isLive later = true) : payload.isLive now = true := by
  rw [isLive_iff, Instant.lt_def] at *
  exact Int.lt_of_le_of_lt (Instant.le_def.mp hle) h

end StoredPayload

namespace Payloads

variable {payloads : Payloads} {now later : Instant}

/-- The payload with an identifier, if it is kept at `now`. -/
def find? (payloads : Payloads) (now : Instant) (id : EventId) : Option StoredPayload :=
  payloads.byId[id]?.filter fun payload => payload.isLive now

theorem find?_eq_some_iff {id : EventId} {payload : StoredPayload} :
    payloads.find? now id = some payload
      ↔ payloads.byId[id]? = some payload ∧ payload.isLive now = true :=
  Option.filter_eq_some_iff

/-- What is kept later is among what is kept now. -/
theorem find?_of_le (payloads : Payloads) (hle : now ≤ later) (id : EventId) :
    payloads.find? later id = (payloads.find? now id).filter fun payload => payload.isLive later := by
  rw [find?, find?, Option.filter_filter]
  refine congrArg (fun p => Option.filter p _) (funext fun payload => ?_)
  cases hlive : payload.isLive later with
  | true => rw [StoredPayload.isLive_of_le hle hlive, Bool.and_true]
  | false => rw [Bool.and_false]

/-- A get finds what is kept. -/
theorem fst_get (payloads : Payloads) (now : Instant) (id : EventId) :
    (payloads.get now id).1 = (payloads.find? now id).map StoredPayload.event := by
  unfold get find?
  cases payloads.byId[id]? with
  | none => rfl
  | some payload =>
      dsimp only
      rw [Option.filter_some]
      cases payload.isLive now <;> rfl

/-- A get drops nothing that is kept later. -/
theorem find?_get (hle : now ≤ later) (x id : EventId) :
    (payloads.get now x).2.find? later id = payloads.find? later id := by
  unfold get
  split
  · rfl
  · next payload hpayload =>
    split
    · rfl
    · next hlapsed =>
      -- the payload that is dropped is no longer kept, and will not be
      rw [find?, find?, getElem?_erase_ite]
      split
      · next heq =>
        rw [← heq, hpayload, Option.filter_some]
        rw [if_neg fun hlive => hlapsed (StoredPayload.isLive_of_le hle hlive)]
        rfl
      · rfl

/-- Nor does a purge. -/
theorem find?_purge (hle : now ≤ later) (id : EventId) :
    (payloads.purge now).2.find? later id = payloads.find? later id := by
  refine Option.ext fun payload => ?_
  rw [purge, find?_eq_some_iff, find?_eq_some_iff, Std.ExtTreeMap.getElem?_filter',
    Option.filter_eq_some_iff]
  constructor
  · rintro ⟨⟨hpayload, -⟩, hlive⟩
    exact ⟨hpayload, hlive⟩
  · rintro ⟨hpayload, hlive⟩
    exact ⟨⟨hpayload, StoredPayload.isLive_of_le hle hlive⟩, hlive⟩

theorem find?_put (payloads : Payloads) (event : Event) (grace : Span) (now : Instant) (id : EventId) :
    (payloads.put event grace).find? now id
      = if event.id = id then
          (some ⟨event, event.expire.shiftClamped grace⟩ : Option StoredPayload).filter
            fun payload => payload.isLive now
        else payloads.find? now id := by
  rw [find?, put, getElem?_insert_ite]
  split <;> rfl

end Payloads

/-! ## Payloads of live events -/

namespace EventId

theorem earliest_le_expiry (id : EventId) : Instant.earliest ≤ id.expiry := by
  unfold expiry
  split
  · next h => exact Int.mul_le_mul_of_nonneg_right h.1 (by decide)
  · decide

theorem expiry_le_latest (id : EventId) : id.expiry ≤ Instant.latest := by
  unfold expiry
  split
  · next h =>
    have hscore := h.2
    simp only [Instant.le_def, Instant.ofMicros, Instant.latest]
    omega
  · exact Int.le_refl _

/-- The event of an identifier beyond a clock reading has not expired by then. -/
theorem lt_expiry {id : EventId} {now : Instant} (hscore : now.score < id.score)
    (hnow : now < Instant.latest) : now < id.expiry := by
  unfold expiry
  split
  · simp only [Instant.lt_def, Instant.score, Instant.ofMicros] at *
    omega
  · exact hnow

theorem leap_expiry (id : EventId) : id.expiry.leap = false := by
  unfold expiry
  split <;> rfl

theorem inRange_expiry (id : EventId) : id.expiry.InRange := by
  refine ⟨?_, id.expiry_le_latest⟩
  have hfirst := Instant.le_def.mp id.earliest_le_expiry
  simp only [Instant.wholeSeconds, id.leap_expiry, Instant.earliest, Bool.false_eq_true, if_false] at *
  omega

/-- A payload is kept no shorter than its event lives. -/
theorem lt_onClock_of_lt_expiry {id : EventId} {now : Instant} (h : now < id.expiry) (grace : Span) :
    now < (id.expiry.shiftClamped grace).onClock := by
  rw [Instant.lt_onClock_shiftClamped_iff id.inRange_expiry, Instant.plus_of_not_leap id.leap_expiry]
  have hlatest := Instant.le_def.mp id.expiry_le_latest
  simp only [Instant.lt_def, Instant.onClock, Bool.false_eq_true, if_false] at *
  omega

end EventId

/-- The payload of a new event is kept as long as the event lives. -/
theorem Payloads.isSome_find?_put (payloads : Payloads) {id : EventId} {now : Instant}
    (h : now < id.expiry) (contents : String) (grace : Span) :
    ((payloads.put (.new id contents) grace).find? now id).isSome = true := by
  have hlive := EventId.lt_onClock_of_lt_expiry h grace
  rw [Payloads.find?_put, if_pos (show (Event.new id contents).id = id from rfl), Option.filter_some,
    if_pos (StoredPayload.isLive_iff.mpr hlive)]
  rfl

end GroupQueue
