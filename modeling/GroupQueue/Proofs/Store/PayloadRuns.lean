import GroupQueue.Proofs.Store.Counting
import GroupQueue.Proofs.Store.Issuing
import GroupQueue.Proofs.Store.Payloads

/-!
# `Proofs.Store.PayloadRuns` — payloads over whole runs of calls

A payload leaves the store in two ways, by a get that finds it too old and by a purge, and it is replaced by a
put for the same event. Over a run of calls all of this comes to one question: what a get finds at a clock reading
is decided by **the last put** of that event, and by the store before the run if there was none
(`Memory.find?_afterCalls`, by induction on the run from its end). No other call has a say in it, as long as the
clock was never ahead of the reading.

If every event is put once only, the last put is the only one, and an event is found exactly as long as it is to
be kept: up to the end of its grace period, or up to the latest instant if that is earlier
(`payload_kept_exactly`). If an event is put again, the later put decides (`last_put_decides`).

## Contents
- `Event.IsKept` — how long an event is to be kept; `isKept_iff`, `StoredPayload.isLive_iff_isKept`.
- `StoreCall.puts`, `StoreCall.lastPut?` — the events that calls put; `lastPut?_concat`.
- `Memory.find?_afterCalls`, `Memory.getElem?_of_afterCalls` — what is found, and what is held, after a run.
- `Payloads.purged_or_left`, `Payloads.encard_purged` — what a purge drops, and how much.
- `payload_kept_exactly`, `last_put_decides`; `payload_replaced` — a second put of an event.
-/

namespace GroupQueue

/-! ## How long an event is to be kept -/

/-- The grace period after the expiry of the event has not come to its end by `now`, nor has time itself. -/
def Event.IsKept (event : Event) (grace : Span) (now : Instant) : Prop :=
  now < (event.expire.plus grace.nanos).onClock ∧ now < Instant.latest

instance (event : Event) (grace : Span) (now : Instant) : Decidable (event.IsKept grace now) :=
  inferInstanceAs (Decidable (_ ∧ _))

/-- Outside of leap seconds, that is plain addition. -/
theorem Event.isKept_iff {event : Event} (h : event.expire.leap = false) {grace : Span} {now : Instant} :
    event.IsKept grace now
      ↔ now.nanos < min (event.expire.nanos + grace.nanos) Instant.latest.nanos := by
  rw [IsKept, Instant.plus_of_not_leap h, Instant.onClock_of_not_leap rfl, Instant.lt_def, Instant.lt_def,
    Int.lt_min]

/-- The store holds a payload until then, however long the grace period is. -/
theorem StoredPayload.isLive_iff_isKept {event : Event} (h : event.expire.InRange) (grace : Span)
    (now : Instant) :
    StoredPayload.isLive ⟨event, event.expire.shiftClamped grace⟩ now = true ↔ event.IsKept grace now := by
  rw [isLive_iff, Instant.lt_onClock_shiftClamped_iff h, Event.IsKept]

/-! ## Runs of calls -/

/-- The event that a call puts, and its grace period. -/
def StoreCall.put? : StoreCall → Option (Event × Span)
  | .putPayload event grace => some (event, grace)
  | _ => none

/-- What a store holds of a put. -/
def StoredPayload.ofPut (put : Event × Span) : StoredPayload := ⟨put.1, put.1.expire.shiftClamped put.2⟩

namespace StoreCall

/-- The events that calls put, in order. -/
def puts (calls : List (Instant × StoreCall)) : List (Event × Span) := calls.filterMap fun x => x.2.put?

/-- The last put of an event. -/
def lastPut? (calls : List (Instant × StoreCall)) (id : EventId) : Option (Event × Span) :=
  ((puts calls).filter fun put => put.1.id = id).getLast?

theorem puts_concat (calls : List (Instant × StoreCall)) (x : Instant × StoreCall) :
    puts (calls ++ [x]) = puts calls ++ x.2.put?.toList := by
  rw [puts, List.filterMap_append]
  cases h : x.2.put? <;> simp [puts, h]

theorem lastPut?_concat (calls : List (Instant × StoreCall)) (x : Instant × StoreCall) (id : EventId) :
    lastPut? (calls ++ [x]) id = (x.2.put?.filter fun put => put.1.id = id).or (lastPut? calls id) := by
  rw [lastPut?, lastPut?, puts_concat, List.filter_append]
  cases x.2.put? with
  | none => simp
  | some put =>
      by_cases hid : put.1.id = id
      · simp [Option.filter_some, hid]
      · simp [Option.filter_some, hid]

/-- Puts of other events do not count. -/
theorem lastPut?_eq_none {calls : List (Instant × StoreCall)} {id : EventId}
    (h : ∀ put ∈ puts calls, put.1.id ≠ id) : lastPut? calls id = none := by
  rw [lastPut?, List.filter_eq_nil_iff.mpr fun put hput => by simpa using h put hput]
  rfl

theorem lastPut?_of_puts {calls : List (Instant × StoreCall)} {id : EventId} {before after : List (Event × Span)}
    {put : Event × Span} (hputs : puts calls = before ++ put :: after) (hid : put.1.id = id)
    (hafter : ∀ other ∈ after, other.1.id ≠ id) : lastPut? calls id = some put := by
  have hnone : (after.filter fun put => put.1.id = id) = [] :=
    List.filter_eq_nil_iff.mpr fun other hother => by simpa using hafter other hother
  rw [lastPut?, hputs, List.filter_append, List.filter_cons_of_pos (by simpa using hid), hnone]
  exact List.getLast?_concat

end StoreCall

namespace Memory

/-- A put decides what is found of its event. Nothing else changes what is found later. -/
theorem find?_answer (memory : Memory) {x : Instant × StoreCall} {now : Instant} (hle : x.1 ≤ now) (id : EventId) :
    (memory.answer x.1 x.2).2.payloads.find? now id
      = (((x.2.put?.filter fun put => put.1.id = id).map StoredPayload.ofPut).or
          memory.payloads.byId[id]?).filter fun payload => payload.isLive now := by
  obtain ⟨before, call⟩ := x
  cases call with
  | newEventId expire => rfl
  | putPayload event grace =>
      refine (Payloads.find?_put memory.payloads event grace now id).trans ?_
      by_cases hid : event.id = id
      · simp [StoreCall.put?, StoredPayload.ofPut, Option.filter_some, hid]
      · simp [StoreCall.put?, Payloads.find?, Option.filter_some, hid]
  | getPayload other => exact Payloads.find?_get hle other id
  | execute plan =>
      change (memory.execute plan).2.payloads.find? now id = _
      rw [execute_eq]
      rfl
  | purgePayloads => exact Payloads.find?_purge hle id

/-- **What is found after a run** is what its last put of the event left, or what was there before the run. By
    induction on the run from its end: a call that puts no such event hides nothing that is still to be kept. -/
theorem find?_afterCalls (memory : Memory) (calls : List (Instant × StoreCall)) {now : Instant}
    (hclock : ∀ x ∈ calls, x.1 ≤ now) (id : EventId) :
    (memory.afterCalls calls).payloads.find? now id
      = (((StoreCall.lastPut? calls id).map StoredPayload.ofPut).or memory.payloads.byId[id]?).filter
          fun payload => payload.isLive now := by
  induction calls using List.reverseRecOn with
  | nil => rfl
  | append_singleton calls x ih =>
      obtain ⟨hbefore, hlast⟩ := List.forall_mem_append.mp hclock
      rw [afterCalls_concat, find?_answer _ (hlast x List.mem_cons_self), StoreCall.lastPut?_concat]
      cases x.2.put?.filter fun put => put.1.id = id with
      | none => exact ih hbefore
      | some put => rfl

/-- What a get replies is what is found. -/
theorem fst_answer_getPayload (memory : Memory) (now : Instant) (id : EventId) :
    (memory.answer now (.getPayload id)).1 = .ok ((memory.payloads.find? now id).map StoredPayload.event) :=
  congrArg Except.ok (Payloads.fst_get memory.payloads now id)

/-- What is held after a call was put by it or was held before. -/
theorem getElem?_of_answer {memory : Memory} {x : Instant × StoreCall} {id : EventId} {payload : StoredPayload}
    (h : (memory.answer x.1 x.2).2.payloads.byId[id]? = some payload) :
    (∃ put ∈ x.2.put?, put.1.id = id ∧ payload = .ofPut put) ∨ memory.payloads.byId[id]? = some payload := by
  obtain ⟨now, call⟩ := x
  cases call with
  | newEventId expire => exact Or.inr h
  | putPayload event grace =>
      change (memory.payloads.put event grace).byId[id]? = some payload at h
      rw [Payloads.put, getElem?_insert_ite] at h
      split at h
      · next hid => exact Or.inl ⟨(event, grace), rfl, hid, (Option.some.inj h).symm⟩
      · exact Or.inr h
  | getPayload other => exact Or.inr (Payloads.getElem?_of_get h)
  | execute plan =>
      change (memory.execute plan).2.payloads.byId[id]? = some payload at h
      rw [execute_eq] at h
      exact Or.inr h
  | purgePayloads => exact Or.inr (Payloads.getElem?_of_purge h)

/-- Whatever is held after a run over a new store was put in the run. -/
theorem getElem?_of_afterCalls {calls : List (Instant × StoreCall)} {id : EventId} {payload : StoredPayload}
    (h : (afterCalls {} calls).payloads.byId[id]? = some payload) :
    ∃ put ∈ StoreCall.puts calls, put.1.id = id ∧ payload = .ofPut put := by
  induction calls using List.reverseRecOn with
  | nil => exact absurd (h.symm.trans Std.ExtTreeMap.getElem?_empty) (Option.some_ne_none payload)
  | append_singleton calls x ih =>
      rw [afterCalls_concat] at h
      simp only [StoreCall.puts_concat, List.mem_append, Option.mem_toList]
      rcases getElem?_of_answer h with ⟨put, hput, hid⟩ | hbefore
      · exact ⟨put, Or.inr hput, hid⟩
      · obtain ⟨put, hput, hid⟩ := ih hbefore
        exact ⟨put, Or.inl hput, hid⟩

end Memory

namespace Payloads

/-- A purge drops what is no longer kept, and leaves the rest as it is. -/
theorem purged_or_left (payloads : Payloads) (now : Instant) (id : EventId) :
    let lapsed := ∃ payload, payloads.byId[id]? = some payload ∧ (!payload.isLive now) = true
    (lapsed → (payloads.purge now).2.byId[id]? = none)
      ∧ (¬ lapsed → (payloads.purge now).2.byId[id]? = payloads.byId[id]?) := by
  rw [purge, Std.ExtTreeMap.getElem?_filter']
  constructor
  · rintro ⟨payload, hpayload, hover⟩
    rw [hpayload, Option.filter_some, if_neg (by simpa using hover)]
  · intro hleft
    cases hheld : payloads.byId[id]? with
    | none => rfl
    | some payload =>
        rw [Option.filter_some, if_pos]
        by_contra hover
        exact hleft ⟨payload, hheld, by simpa using hover⟩

/-- A purge counts the payloads that it drops. -/
theorem encard_purged (payloads : Payloads) (now : Instant) :
    {id : EventId | ∃ payload, payloads.byId[id]? = some payload ∧ (!payload.isLive now) = true}.encard
      = (payloads.purge now).1 := by
  have hsplit := size_filter_add_size_filter payloads.byId fun payload => payload.isLive now
  rw [encard_passing payloads.byId fun payload => !payload.isLive now]
  refine congrArg Nat.cast ?_
  show _ = payloads.byId.size - (payloads.byId.filter fun _ payload => payload.isLive now).size
  omega

end Payloads

/-! ## Events that are put once -/

section Once

variable {calls : List (Instant × StoreCall)} {now : Instant} {id : EventId}

/-- If every event is put once, the last put of an event is the only one. -/
theorem StoreCall.lastPut?_eq_some_iff (honce : ((puts calls).map fun put => put.1.id).Nodup)
    {put : Event × Span} : lastPut? calls id = some put ↔ put ∈ puts calls ∧ put.1.id = id := by
  constructor
  · intro hlast
    obtain ⟨hmem, hid⟩ := List.mem_filter.mp (List.mem_of_getLast? hlast)
    exact ⟨hmem, of_decide_eq_true hid⟩
  · rintro ⟨hmem, hid⟩
    cases hlast : lastPut? calls id with
    | none =>
        have hnone := List.filter_eq_nil_iff.mp (List.getLast?_eq_none_iff.mp hlast) put hmem
        exact absurd (decide_eq_true hid) hnone
    | some other =>
        obtain ⟨hother, hsame⟩ := List.mem_filter.mp (List.mem_of_getLast? hlast)
        exact congrArg some (List.inj_on_of_nodup_map honce hother hmem ((of_decide_eq_true hsame).trans hid.symm))

namespace Memory

/-- What is found after a run over a new store. -/
theorem find?_afterCalls_fresh (hclock : ∀ x ∈ calls, x.1 ≤ now) (id : EventId) :
    (afterCalls {} calls).payloads.find? now id
      = ((StoreCall.lastPut? calls id).map StoredPayload.ofPut).filter fun payload => payload.isLive now := by
  rw [find?_afterCalls {} calls hclock, Std.ExtTreeMap.getElem?_empty, Option.or_none]

/-- An event that was put is found as long as it is to be kept. -/
theorem found_iff (hclock : ∀ x ∈ calls, x.1 ≤ now)
    (honce : ((StoreCall.puts calls).map fun put => put.1.id).Nodup)
    (hrange : ∀ put ∈ StoreCall.puts calls, put.1.expire.InRange) (event : Event) :
    ((afterCalls {} calls).payloads.find? now id).map StoredPayload.event = some event
      ↔ event.id = id ∧ ∃ grace, (event, grace) ∈ StoreCall.puts calls ∧ event.IsKept grace now := by
  rw [find?_afterCalls_fresh hclock, Option.map_eq_some_iff]
  constructor
  · rintro ⟨payload, hpayload, rfl⟩
    obtain ⟨hlast, hlive⟩ := Option.filter_eq_some_iff.mp hpayload
    obtain ⟨⟨event, grace⟩, hput, rfl⟩ := Option.map_eq_some_iff.mp hlast
    obtain ⟨hmem, hid⟩ := (StoreCall.lastPut?_eq_some_iff honce).mp hput
    exact ⟨hid, grace, hmem, (StoredPayload.isLive_iff_isKept (hrange _ hmem) grace now).mp hlive⟩
  · rintro ⟨hid, grace, hmem, hkept⟩
    refine ⟨.ofPut (event, grace), Option.filter_eq_some_iff.mpr ⟨?_, ?_⟩, rfl⟩
    · rw [(StoreCall.lastPut?_eq_some_iff honce).mpr ⟨hmem, hid⟩]
      rfl
    · exact (StoredPayload.isLive_iff_isKept (hrange _ hmem) grace now).mpr hkept

/-- What is held and no longer to be found is what was put and is no longer to be kept. -/
theorem elapsed_iff (honce : ((StoreCall.puts calls).map fun put => put.1.id).Nodup)
    (hrange : ∀ put ∈ StoreCall.puts calls, put.1.expire.InRange) :
    (∃ payload, (afterCalls {} calls).payloads.byId[id]? = some payload ∧ (!payload.isLive now) = true)
      ↔ id ∈ (afterCalls {} calls).payloads.byId
        ∧ ∃ event grace, (event, grace) ∈ StoreCall.puts calls ∧ event.id = id ∧ ¬ event.IsKept grace now := by
  rw [Std.ExtTreeMap.mem_iff_isSome_getElem?, Option.isSome_iff_exists]
  constructor
  · rintro ⟨payload, hpayload, hover⟩
    obtain ⟨⟨event, grace⟩, hput, hid, rfl⟩ := getElem?_of_afterCalls hpayload
    refine ⟨⟨_, hpayload⟩, event, grace, hput, hid, fun h => ?_⟩
    have hlive := (StoredPayload.isLive_iff_isKept (hrange _ hput) grace now).mpr h
    rw [StoredPayload.ofPut, hlive] at hover
    contradiction
  · rintro ⟨⟨payload, hpayload⟩, event, grace, hput, hid, hover⟩
    obtain ⟨put, hmem, hsame, rfl⟩ := getElem?_of_afterCalls hpayload
    obtain rfl := List.inj_on_of_nodup_map honce hmem hput (hsame.trans hid.symm)
    refine ⟨_, hpayload, ?_⟩
    rw [Bool.not_eq_true', ← Bool.not_eq_true]
    exact fun h => hover ((StoredPayload.isLive_iff_isKept (hrange _ hput) grace now).mp h)

end Memory

/-- **An event that is put once is found exactly as long as it is to be kept**, whichever calls come in between.
    A get finds the event if it has been put and its grace period has not come to its end, nor time itself. What
    gets find depends on nothing but the puts, so that other gets and purges cannot be observed by it. A purge
    drops those of the events held whose time has come, and no others, and counts them. -/
theorem payload_kept_exactly (calls : List (Instant × StoreCall)) {now : Instant} (hclock : ∀ x ∈ calls, x.1 ≤ now)
    (honce : ((StoreCall.puts calls).map fun put => put.1.id).Nodup)
    (hrange : ∀ put ∈ StoreCall.puts calls, put.1.expire.InRange) :
    let memory := Memory.afterCalls {} calls
    let elapsed : Set EventId := {id | id ∈ memory.payloads.byId
      ∧ ∃ event grace, (event, grace) ∈ StoreCall.puts calls ∧ event.id = id ∧ ¬ event.IsKept grace now}
    (∀ id, ∃ found, (memory.answer now (.getPayload id)).1 = .ok found
        ∧ ∀ event, found = some event
            ↔ event.id = id ∧ ∃ grace, (event, grace) ∈ StoreCall.puts calls ∧ event.IsKept grace now)
      ∧ (∀ others, StoreCall.puts others = StoreCall.puts calls → (∀ x ∈ others, x.1 ≤ now) →
          ∀ id, ((Memory.afterCalls {} others).answer now (.getPayload id)).1
            = (memory.answer now (.getPayload id)).1)
      ∧ ∃ (count : Nat) (after : Memory), memory.answer now .purgePayloads = (.ok count, after)
          ∧ elapsed.encard = count
          ∧ ∀ id, (id ∈ elapsed → after.payloads.byId[id]? = none)
            ∧ (id ∉ elapsed → after.payloads.byId[id]? = memory.payloads.byId[id]?) := by
  intro memory elapsed
  have helapsed (id : EventId) : (∃ payload, memory.payloads.byId[id]? = some payload
      ∧ (!payload.isLive now) = true) ↔ id ∈ elapsed := Memory.elapsed_iff honce hrange
  refine ⟨fun id => ⟨_, memory.fst_answer_getPayload now id, Memory.found_iff hclock honce hrange⟩,
    fun others hputs hearlier id => ?_, (memory.payloads.purge now).1, _, rfl, ?_, fun id => ?_⟩
  · rw [Memory.fst_answer_getPayload, Memory.fst_answer_getPayload, Memory.find?_afterCalls_fresh hclock,
      Memory.find?_afterCalls_fresh hearlier, StoreCall.lastPut?, hputs, StoreCall.lastPut?]
  · rw [← Payloads.encard_purged]
    exact congrArg Set.encard (Set.ext helapsed).symm
  · rw [← helapsed]
    exact memory.payloads.purged_or_left now id

/-- With the longest grace period that there is, an event is found up to the latest instant, but not at it. -/
theorem payload_kept_exactly_latest :
    let event := Event.new ⟨5000⟩ "x"
    let grace : Span := ⟨18446744073709551615999999999⟩
    let calls : List (Instant × StoreCall) :=
      [(.ofMicros 1000, .putPayload event grace), (.ofMicros 6000, .purgePayloads)]
    let memory := Memory.afterCalls {} calls
    (memory.answer ⟨Instant.latest.nanos - 1, false⟩ (.getPayload ⟨5000⟩)).1 = .ok (some event)
      ∧ (memory.answer .latest (.getPayload ⟨5000⟩)).1 = .ok none := by
  intro event grace calls memory
  have hrange : ∀ put ∈ StoreCall.puts calls, put.1.expire.InRange :=
    List.forall_mem_singleton.mpr (EventId.inRange_expiry ⟨5000⟩)
  have hbefore : ∀ x ∈ calls, x.1 ≤ ⟨Instant.latest.nanos - 1, false⟩ := by decide
  have hlatest : ∀ x ∈ calls, x.1 ≤ .latest := by decide
  constructor
  · obtain ⟨found, hreply, hfound⟩ := (payload_kept_exactly calls hbefore (by decide) hrange).1 ⟨5000⟩
    -- the grace period goes on beyond the latest instant, which is what counts
    have hkept : event.IsKept grace ⟨Instant.latest.nanos - 1, false⟩ :=
      (Event.isKept_iff (EventId.leap_expiry ⟨5000⟩)).mpr (by decide)
    rw [hreply, (hfound event).mpr ⟨rfl, grace, List.mem_singleton_self _, hkept⟩]
  · obtain ⟨found, hreply, hfound⟩ := (payload_kept_exactly calls hlatest (by decide) hrange).1 ⟨5000⟩
    have hnone : found = none := Option.eq_none_iff_forall_ne_some.mpr fun other hother => by
      obtain ⟨-, grace', -, hkept⟩ := (hfound other).mp hother
      exact absurd hkept.2 (by decide)
    rw [hreply, hnone]

end Once

/-! ## Events that are put again -/

/-- **The last put of an event decides what a get finds**, whatever else the store is asked for, and whatever it
    holds at first. An event that is not put again is found as long as it was to be kept; one that is put again is
    found as long as the last put says, in place of what was held. -/
theorem last_put_decides (memory : Memory) (calls : List (Instant × StoreCall)) {now : Instant}
    (hclock : ∀ x ∈ calls, x.1 ≤ now) (id : EventId) :
    let get := ((memory.afterCalls calls).answer now (.getPayload id)).1
    (∀ held, memory.payloads.byId[id]? = some held → (∀ put ∈ StoreCall.puts calls, put.1.id ≠ id) →
        get = .ok (if held.isLive now then some held.event else none))
      ∧ ∀ before event grace after, StoreCall.puts calls = before ++ (event, grace) :: after → event.id = id →
          event.expire.InRange → (∀ put ∈ after, put.1.id ≠ id) →
        get = .ok (if event.IsKept grace now then some event else none) := by
  intro get
  have hget : get = .ok ((((((StoreCall.lastPut? calls id).map StoredPayload.ofPut).or
      memory.payloads.byId[id]?).filter fun payload => payload.isLive now)).map StoredPayload.event) := by
    rw [← Memory.find?_afterCalls memory calls hclock]
    exact Memory.fst_answer_getPayload _ now id
  rw [hget]
  constructor
  · intro held hheld hother
    rw [StoreCall.lastPut?_eq_none hother, hheld, Option.map_none, Option.none_or, Option.filter_some]
    split <;> rfl
  · intro before event grace after hputs hid hrange hother
    rw [StoreCall.lastPut?_of_puts hputs hid hother, Option.map_some, Option.some_or, Option.filter_some,
      StoredPayload.ofPut, if_congr (StoredPayload.isLive_iff_isKept hrange grace now) rfl rfl]
    split <;> rfl

/-- A second put with a shorter grace period ends what the first one promised. -/
theorem last_put_decides_shorter :
    let first := Event.new ⟨5000⟩ "a"
    let second := Event.new ⟨5000⟩ "b"
    let memory := Memory.afterCalls {} [(.ofMicros 1000, .putPayload first (.ofSeconds 30))]
    let calls : List (Instant × StoreCall) :=
      [(.ofMicros 2000, .putPayload second ⟨0⟩), (.ofMicros 3000, .putPayload (.new ⟨7000⟩ "c") ⟨0⟩),
        (.ofMicros 4000, .purgePayloads)]
    first.IsKept (.ofSeconds 30) (.ofMicros 6000)
      ∧ ((memory.afterCalls calls).answer (.ofMicros 6000) (.getPayload ⟨5000⟩)).1 = .ok none := by
  intro first second memory calls
  have hearlier : ∀ x ∈ calls, x.1 ≤ .ofMicros 6000 := by decide
  have hover : ¬ second.IsKept ⟨0⟩ (.ofMicros 6000) := by decide
  refine ⟨by decide, ?_⟩
  rw [(last_put_decides memory calls hearlier ⟨5000⟩).2 [] second ⟨0⟩ [(.new ⟨7000⟩ "c", ⟨0⟩)] rfl rfl
    (EventId.inRange_expiry ⟨5000⟩) (by decide), if_neg hover]

/-- **A second put replaces what was put first**, although the first was to be kept. -/
theorem payload_replaced :
    let first := Event.new ⟨5000⟩ "a"
    let second := Event.new ⟨5000⟩ "b"
    let now := Instant.ofMicros 1000
    let memory := Memory.afterCalls {} [(now, .putPayload first (.ofSeconds 30))]
    first.IsKept (.ofSeconds 30) now
      ∧ (memory.answer now (.getPayload ⟨5000⟩)).1 = .ok (some first)
      ∧ ((memory.afterCalls [(now, .putPayload second (.ofSeconds 30))]).answer now (.getPayload ⟨5000⟩)).1
          = .ok (some second) := by
  exact ⟨by decide, rfl, rfl⟩

end GroupQueue
