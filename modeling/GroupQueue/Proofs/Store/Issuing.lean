import GroupQueue.Proofs.Store.Memory
import GroupQueue.Proofs.Time.Clock
import Mathlib.Data.List.Induction
import Mathlib.Order.Bounds.Defs

/-!
# `Proofs.Store.Issuing` — the identifiers that a store issues

A store remembers the last identifier it issued, and issues the least one after it that is not before the
wanted expiry. Since the last one is the greatest, that is the least one after **all** of them, so every
identifier is new, whichever queue it is for. What it can grow to has a bound, if expiries are in range: an
identifier is later than `Instant.latest` only by one microsecond for each identifier before it. Machine words
have room for 10^18 of these, so no addition leaves them.

The calls that a store answers in between do not matter; they may be for any queues, at any times.

## Contents
- `Memory.afterCalls`, `Memory.issued` — a store that has answered some calls, and what it has issued.
- `Issuing` — what holds of the identifiers issued so far; `Issuing.issue`, `issuing_afterCalls`.
- `issued_least` — which identifier is issued next, and how great it can be.
-/

namespace GroupQueue

/-! ## Calls to a store -/

namespace Memory

/-- A store that has answered some calls, each at its time. -/
def afterCalls (memory : Memory) (calls : List (Instant × StoreCall)) : Memory :=
  calls.foldl (fun memory call => (memory.answer call.1 call.2).2) memory

/-- The identifier that a store issues in answer to a call. -/
def issue? (memory : Memory) (now : Instant) : StoreCall → Option EventId
  | .newEventId expire => (memory.answer now (.newEventId expire)).1.toOption
  | _ => none

/-- The identifiers that a store issues in answer to some calls, in order. -/
def issued (memory : Memory) : List (Instant × StoreCall) → List EventId
  | [] => []
  | (now, call) :: calls => (memory.issue? now call).toList ++ (memory.answer now call).2.issued calls

theorem afterCalls_concat (memory : Memory) (calls : List (Instant × StoreCall)) (now : Instant)
    (call : StoreCall) :
    memory.afterCalls (calls ++ [(now, call)]) = ((memory.afterCalls calls).answer now call).2 := by
  rw [afterCalls, List.foldl_append]
  rfl

theorem issued_concat (memory : Memory) (calls : List (Instant × StoreCall)) (now : Instant)
    (call : StoreCall) :
    memory.issued (calls ++ [(now, call)])
      = memory.issued calls ++ ((memory.afterCalls calls).issue? now call).toList := by
  induction calls generalizing memory with
  | nil => simp [issued, afterCalls]
  | cons x calls ih => simp [issued, ih, afterCalls]

theorem issued_prefix (memory : Memory) (before later : List (Instant × StoreCall)) :
    memory.issued before <+: memory.issued (before ++ later) := by
  induction before generalizing memory with
  | nil => exact List.nil_prefix
  | cons x before ih =>
      obtain ⟨rest, hrest⟩ := ih (memory.answer x.1 x.2).2
      refine ⟨rest, ?_⟩
      rw [List.cons_append, issued, issued, List.append_assoc, hrest]

/-- A store changes its last identifier only when it issues one. -/
theorem lastId_answer (memory : Memory) (now : Instant) (call : StoreCall) :
    (memory.answer now call).2.lastId = (memory.issue? now call).or memory.lastId := by
  cases call with
  | newEventId expire => rfl
  | putPayload event grace => rfl
  | getPayload id => rfl
  | execute plan =>
      show (memory.execute plan).2.lastId = memory.lastId
      rw [execute_eq]
  | purgePayloads => rfl

end Memory

/-! ## The identifiers issued so far -/

/-- What holds of the last identifier of a store and all that it has issued. -/
structure Issuing (last? : Option EventId) (ids : List EventId) : Prop where
  /-- The last identifier is the last one of those that were issued. -/
  last : last? = ids.getLast?
  /-- Each is later than all before it. -/
  increasing : ids.Pairwise (· < ·)
  /-- An identifier exceeds the latest instant by less than the number of identifiers. -/
  upper : ∀ id ∈ ids, id.score < Instant.maxScore + ids.length

theorem issuing_fresh : Issuing none [] := ⟨rfl, .nil, nofun⟩

namespace Issuing

variable {last? : Option EventId} {ids : List EventId} {expire : Instant}

/-- The last identifier is the greatest. -/
theorem le_last (h : Issuing last? ids) {id last : EventId} (hid : id ∈ ids) (hlast : last ∈ last?) :
    id ≤ last := by
  rw [h.last, Option.mem_def, List.getLast?_eq_some_iff] at hlast
  obtain ⟨earlier, rfl⟩ := hlast
  rcases List.mem_append.mp hid with hid | hid
  · exact Int.le_of_lt ((List.pairwise_append.mp h.increasing).2.2 id hid last (List.mem_singleton.mpr rfl))
  · rw [List.mem_singleton.mp hid]
    exact Int.le_refl _

theorem last_mem (h : Issuing last? ids) {last : EventId} (hlast : last ∈ last?) : last ∈ ids := by
  rw [h.last] at hlast
  exact List.mem_of_getLast? hlast

/-- Once an identifier has been issued, there is a last one. -/
theorem exists_last (h : Issuing last? ids) {id : EventId} (hid : id ∈ ids) : ∃ last, last ∈ last? := by
  rw [h.last]
  exact ⟨_, List.getLast?_eq_some_getLast (List.ne_nil_of_mem hid)⟩

/-- **The next identifier is the least one that is later than all before it** and not before its expiry. -/
theorem isLeast_nextAfter (h : Issuing last? ids) (expire : Instant) :
    IsLeast {x | expire.score ≤ x.score ∧ ∀ y ∈ ids, y < x} (EventId.nextAfter expire last?) := by
  refine ⟨⟨EventId.le_score_nextAfter expire last?, fun y hy => ?_⟩, fun x hx => ?_⟩
  · obtain ⟨last, hlast⟩ := h.exists_last hy
    exact Int.lt_of_le_of_lt (h.le_last hy hlast) (EventId.lt_nextAfter expire hlast)
  · cases last? with
    | none => exact hx.1
    | some last => exact EventId.nextAfter_least (hx.2 last (h.last_mem rfl)) hx.1

/-- It exceeds the latest instant by the number of identifiers before it at most. -/
theorem score_nextAfter_le (h : Issuing last? ids) (hexpire : expire.score ≤ Instant.maxScore) :
    (EventId.nextAfter expire last?).score ≤ Instant.maxScore + ids.length := by
  cases hlast : last? with
  | none =>
      show expire.score ≤ _
      omega
  | some last =>
      have hupper := h.upper last (h.last_mem hlast)
      rw [EventId.nextAfter]
      split
      · exact hupper
      · show expire.score ≤ _
        omega

/-- Issuing one more identifier. -/
theorem issue (h : Issuing last? ids) (hexpire : expire.score ≤ Instant.maxScore) :
    Issuing (some (EventId.nextAfter expire last?)) (ids ++ [EventId.nextAfter expire last?]) where
  last := List.getLast?_concat.symm
  increasing := List.pairwise_append.mpr ⟨h.increasing, List.pairwise_singleton _ _, fun y hy x hx => by
    rw [List.mem_singleton.mp hx]
    exact (h.isLeast_nextAfter expire).1.2 y hy⟩
  upper := by
    rw [List.length_append, List.length_singleton]
    push_cast
    refine List.forall_mem_append.mpr ⟨fun id hid => ?_, List.forall_mem_singleton.mpr ?_⟩
    · have hid := h.upper id hid
      omega
    · have hnext := h.score_nextAfter_le hexpire
      omega

end Issuing

/-- The expiry that an identifier is wanted for is in range, and so not inside the leap second after `latest`. -/
def StoreCall.InRange : StoreCall → Prop
  | .newEventId expire => expire.InRange
  | _ => True

/-- **What a store has issued keeps to this**, by induction on the calls. -/
theorem issuing_afterCalls {calls : List (Instant × StoreCall)} (h : ∀ call ∈ calls, call.2.InRange) :
    Issuing (Memory.afterCalls {} calls).lastId (Memory.issued {} calls) := by
  induction calls using List.reverseRecOn with
  | nil => exact issuing_fresh
  | append_singleton calls x ih =>
      obtain ⟨now, call⟩ := x
      obtain ⟨hcalls, hcall⟩ := List.forall_mem_append.mp h
      have hbefore := ih hcalls
      rw [Memory.afterCalls_concat, Memory.issued_concat, Memory.lastId_answer]
      cases call with
      | newEventId expire =>
          have hexpire : expire.InRange := hcall _ (List.mem_singleton_self _)
          exact hbefore.issue (Instant.score_mono hexpire.le_latest)
      | _ => simpa [Memory.issue?] using hbefore

/-! ## The next identifier -/

/-- **Identifiers are strictly increasing, each of them the least that is possible, and none leaves the machine
    words** as long as at most 10^18 are issued: for every sequence of calls, with any expiries in range, in any
    order. -/
theorem issued_least {calls : List (Instant × StoreCall)} (hrange : ∀ call ∈ calls, call.2.InRange)
    (hcount : (Memory.issued {} calls).length ≤ 1000000000000000000) :
    (Memory.issued {} calls).Pairwise (· < ·)
      ∧ ∀ before now expire later, calls = before ++ (now, .newEventId expire) :: later →
        let memory := Memory.afterCalls {} before
        let earlier := Memory.issued {} before
        ∃ id, (memory.answer now (.newEventId expire)).1 = .ok id
          ∧ IsLeast {x | expire.score ≤ x.score ∧ ∀ y ∈ earlier, y < x} id
          ∧ id.score ≤ Instant.maxScore + earlier.length
          ∧ Text.minWord ≤ id.score ∧ id.score ≤ Text.maxWord
          ∧ ∀ last ∈ memory.lastId, last.score + 1 ≤ Text.maxWord := by
  refine ⟨(issuing_afterCalls hrange).increasing, ?_⟩
  rintro before now expire later rfl
  obtain ⟨hbefore, hrest⟩ := List.forall_mem_append.mp hrange
  have hinside : expire.InRange := (List.forall_mem_cons.mp hrest).1
  have hissuing := issuing_afterCalls hbefore
  have hlength : (Memory.issued {} before).length ≤ 1000000000000000000 :=
    Nat.le_trans (Memory.issued_prefix {} before _).length_le hcount
  have hnext := hissuing.score_nextAfter_le (Instant.score_mono hinside.le_latest)
  have hleast := hissuing.isLeast_nextAfter expire
  have hexpire : Instant.minScore ≤ expire.score := Instant.score_mono hinside.not_before
  have hroom : Instant.maxScore + (Memory.issued {} before).length ≤ Text.maxWord := by
    rw [Instant.maxScore, Text.maxWord]
    omega
  refine ⟨_, rfl, hleast, hnext, ?_, Int.le_trans hnext hroom, fun last hlast => ?_⟩
  · have hword : Text.minWord ≤ Instant.minScore := by decide
    exact Int.le_trans hword (Int.le_trans hexpire hleast.1.1)
  · exact Int.le_trans (hissuing.upper last (hissuing.last_mem hlast)) hroom

/-- Three events that expire at the last instant, the first one and the last one again, with a payload purge in
    between. -/
theorem issued_least_extreme :
    let calls : List (Instant × StoreCall) := [(.ofMicros 0, .newEventId .latest),
      (.ofMicros 1, .newEventId .earliest), (.ofMicros 2, .purgePayloads),
      (.ofMicros 3, .newEventId .latest)]
    Memory.issued {} calls = [⟨8210266876799999999⟩, ⟨8210266876800000000⟩, ⟨8210266876800000001⟩]
      ∧ (Memory.issued {} calls).Pairwise (· < ·) := by
  intro calls
  have hissued : Memory.issued {} calls
      = [⟨8210266876799999999⟩, ⟨8210266876800000000⟩, ⟨8210266876800000001⟩] := by decide +kernel
  have hrange : ∀ call ∈ calls, call.2.InRange := by
    simp only [calls, List.forall_mem_cons]
    exact ⟨⟨by decide, by decide⟩, ⟨by decide, by decide⟩, trivial, ⟨by decide, by decide⟩, nofun⟩
  exact ⟨hissued, (issued_least hrange (by rw [hissued]; decide)).1⟩

end GroupQueue
