import GroupQueue.Proofs.Session.Moves

/-!
# `Proofs.Session.NoSkip` — no event is skipped

A group may go back in its queue, lose its history event by event, and be swept only in part, as calls
fail. It still never passes over an event that remains available. So when it is told that there is
nothing for it, it has had all there is.

## Contents
- `none_skipped` — in every state that a run can reach.
-/

namespace GroupQueue

/-- **No event is skipped.** In every state that a run in one namespace can reach, whichever calls fail and
    whatever the clock reads: every available event that is smaller than one handed to a group has been
    handed to the group. So when a get of the group finds nothing, each event left in the queue is one
    that the group has in progress or done. -/
theorem none_skipped {q : Queue} {turns : List Turn} (hturns : ∀ t ∈ turns, t.WorksIn q.base)
    {queue group : String} (hqueue : ColonFree queue) (hgroup : ColonFree group) :
    let g := Session.groupAfter q queue group turns
    (∀ id, id ∈ g.inProgressById ∨ id ∈ g.redo ∨ id ∈ g.done →
      ∀ x ∈ g.available, x < id → x ∈ g.inProgressById ∨ x ∈ g.redo ∨ x ∈ g.done)
    ∧ ∀ (t : Turn) (cmd : GetCommand), t.WorksIn q.base → t.request = .get cmd → cmd.queue = queue →
        cmd.group = group → ((Session.after turns).turn t).1 = .ok (.event none) →
        let g := Session.groupAfter q queue group (turns ++ [t])
        ∀ x ∈ g.available, x ∈ g.inProgressById ∨ x ∈ g.done := by
  intro g
  have hcoherent : g.Coherent := Session.coherent_after hqueue hgroup hturns
  refine ⟨fun id hid => hcoherent.closed id (Or.inl hid), ?_⟩
  rintro t cmd ht hrequest rfl rfl hresponse
  obtain ⟨-, -, hnext, hafter⟩ := Session.get_of_turn hturns ht hrequest hresponse
  have hnone : (g.dropExpired t.now).next? = none := hnext.symm
  -- a get that finds nothing drops expired events and does no more
  rw [hafter, Move.apply, GroupContents.dequeue_of_none hnone]
  have hclosed := hcoherent.closed.dropExpired hcoherent.natural t.now
  intro _ x hx
  exact hclosed.handed_of_next_none (hcoherent.natural.dropExpired t.now) hnone hx

/-- A group that has taken both events of its queue is told that there is nothing, and has had both. -/
theorem none_skipped_of_two :
    let q : Queue := {}
    let turn (request : Request) : Turn := { queue := q, now := .ofMicros 1000, request }
    let add (micros : Int) := turn (.add { queue := "q", expire := .ofMicros micros, contents := "x" })
    let get := turn (.get { queue := "q", group := "g", deadline := some (.ofMicros 9000) })
    let turns := [add 5000, add 6000, get, get]
    let g := Session.groupAfter q "q" "g" (turns ++ [get])
    (∀ t ∈ turns, t.WorksIn q.base) ∧ ColonFree "q" ∧ ColonFree "g" ∧ get.WorksIn q.base
      ∧ ((Session.after turns).turn get).1 = .ok (.event none)
      ∧ ⟨5000⟩ ∈ g.available ∧ ⟨6000⟩ ∈ g.available
      ∧ ∀ x ∈ g.available, x ∈ g.inProgressById ∨ x ∈ g.done := by
  intro q turn add get turns g
  have hturns : ∀ t ∈ turns, t.WorksIn q.base := by decide
  have hqueue : ColonFree "q" := by decide
  have hgroup : ColonFree "g" := by decide
  have hget : get.WorksIn q.base := by decide
  have hresponse : ((Session.after turns).turn get).1 = .ok (.event none) := by decide +kernel
  refine ⟨hturns, hqueue, hgroup, hget, hresponse, by decide +kernel, by decide +kernel, ?_⟩
  exact (none_skipped hturns hqueue hgroup).2 get _ hget rfl rfl rfl hresponse

end GroupQueue
