import GroupQueue.Proofs.Plan.Refinement

/-!
# `Proofs.Store.Memory` — what every answer of a store in memory keeps

Whatever a store in memory is asked for, its sorted sets stay sound, and each payload stays filed under
the identifier of its event.

## Contents
- `Payloads.getElem?_of_get`, `getElem?_of_purge` — a get and a purge only drop payloads.
- `Payloads.Keyed` — payloads filed under their own identifiers; kept by `put`, `get` and `purge`.
- `Memory.Sound` — a sound store; `sound_fresh`, `Sound.answer`.
-/

namespace GroupQueue

namespace Payloads

/-- A get only drops payloads. -/
theorem getElem?_of_get {payloads : Payloads} {now : Instant} {x id : EventId} {payload : StoredPayload}
    (h : (payloads.get now x).2.byId[id]? = some payload) : payloads.byId[id]? = some payload := by
  unfold Payloads.get at h
  split at h
  · exact h
  · split at h
    · exact h
    · rw [getElem?_erase_ite] at h
      split at h
      · contradiction
      · exact h

/-- So does a purge. -/
theorem getElem?_of_purge {payloads : Payloads} {now : Instant} {id : EventId} {payload : StoredPayload}
    (h : (payloads.purge now).2.byId[id]? = some payload) : payloads.byId[id]? = some payload := by
  rw [Payloads.purge, Std.ExtTreeMap.getElem?_filter', Option.filter_eq_some_iff] at h
  exact h.1

/-- Each payload is filed under the identifier of its event. -/
def Keyed (payloads : Payloads) : Prop :=
  ∀ (id : EventId) (payload : StoredPayload), payloads.byId[id]? = some payload → payload.event.id = id

theorem keyed_fresh : Keyed {} := by
  intro id payload h
  rw [Std.ExtTreeMap.getElem?_empty] at h
  contradiction

theorem Keyed.put {payloads : Payloads} (h : payloads.Keyed) (event : Event) (grace : Span) :
    (payloads.put event grace).Keyed := by
  intro id payload hid
  rw [Payloads.put, getElem?_insert_ite] at hid
  split at hid
  · next heq =>
    cases hid
    exact heq
  · exact h id payload hid

theorem Keyed.get {payloads : Payloads} (h : payloads.Keyed) (now : Instant) (id : EventId) :
    (payloads.get now id).2.Keyed :=
  fun x payload hx => h x payload (getElem?_of_get hx)

theorem Keyed.purge {payloads : Payloads} (h : payloads.Keyed) (now : Instant) :
    (payloads.purge now).2.Keyed :=
  fun id payload hid => h id payload (getElem?_of_purge hid)

/-- The event that is found under an identifier has it. -/
theorem Keyed.id_of_get {payloads : Payloads} (h : payloads.Keyed) {now : Instant} {id : EventId}
    {event : Event} (hget : (payloads.get now id).1 = some event) : event.id = id := by
  unfold Payloads.get at hget
  split at hget
  · contradiction
  · next payload hpayload =>
    split at hget
    · cases hget
      exact h id payload hpayload
    · contradiction

end Payloads

namespace Memory

/-- A store whose sorted sets are sound and whose payloads are filed where they belong. -/
structure Sound (memory : Memory) : Prop where
  sets : memory.sets.Sound
  payloads : memory.payloads.Keyed

theorem sound_fresh : Sound {} := ⟨Sets.sound_fresh, Payloads.keyed_fresh⟩

/-- Executing a plan changes nothing but the sets. -/
theorem execute_eq (memory : Memory) (plan : Plan) :
    (memory.execute plan).2 = { memory with sets := (memory.execute plan).2.sets } := by
  unfold execute
  cases (Sets.execute plan).run memory.sets with
  | mk result sets => cases result <;> rfl

theorem Sound.execute {memory : Memory} (h : memory.Sound) (plan : Plan) :
    (memory.execute plan).2.Sound := by
  refine ⟨sound_execute h.sets plan, ?_⟩
  rw [execute_eq]
  exact h.payloads

theorem Sound.of_execute {memory after : Memory} (h : memory.Sound) {plan : Plan}
    {result : Except Failure Executed} (heq : memory.execute plan = (result, after)) : after.Sound := by
  have hafter := h.execute plan
  rwa [heq] at hafter

theorem Sound.answer {memory : Memory} (h : memory.Sound) (now : Instant) (call : StoreCall) :
    (memory.answer now call).2.Sound := by
  cases call with
  | newEventId expire => exact ⟨h.sets, h.payloads⟩
  | putPayload event grace => exact ⟨h.sets, h.payloads.put event grace⟩
  | getPayload id => exact ⟨h.sets, h.payloads.get now id⟩
  | execute plan => exact h.execute plan
  | purgePayloads => exact ⟨h.sets, h.payloads.purge now⟩

end Memory

end GroupQueue
