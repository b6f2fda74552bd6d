import GroupQueue.Proofs.Session.Moves

/-!
# `Proofs.Session.FailedGet` — what a get that fails leaves behind

A get asks its store for two things: to execute the plan that takes the next event, and then for the payload
of that event. Up to the plan a failure leaves all sets as they were. Once the plan is committed nothing
undoes it: if the payload cannot be fetched, or is gone, the caller is told so, and the event stays taken. It
is **as if it had been handed out** to a consumer who then was lost: with a deadline it is in progress, and a
sweep finds it overdue once the deadline has passed; without one it is done.

## Contents
- `GroupContents.overdue_take`, `mem_done_take` — where an event that is taken can be found.
- `TakesNext` — a group takes the event that is next in turn; `GetOutcome.of_error`: so does a get that fails,
  if it changes anything.
- `failed_get_takes_next` — what a get that fails leaves behind, in every state that a run can reach.
- `taken_by_failed_get` — gets that fail, and take an event.
-/

namespace GroupQueue

namespace GroupContents

variable {g : GroupContents} {id : EventId}

/-- An event that is taken with a deadline is overdue once the deadline has passed. -/
theorem overdue_take {deadline later : Instant} (h : deadline.score < later.score) :
    id ∈ (g.take (some deadline) id).overdue later :=
  mem_overdue_iff.mpr ⟨deadline.score, Std.ExtTreeMap.getElem?_insert_self, h⟩

/-- An event that is taken without a deadline is done. -/
theorem mem_done_take : id ∈ (g.take none id).done := Std.ExtTreeMap.mem_insert_self

end GroupContents

/-- An event is next in turn for a group, and is taken for it. Expired events of the group are dropped, and no
    other set changes. -/
structure TakesNext (q : Queue) (now : Instant) (cmd : GetCommand) (id : EventId)
    (before after : String → Contents) : Prop where
  next : ((GroupContents.of before (q.groupSets cmd.queue cmd.group)).dropExpired now).next? = some id
  taken : GroupContents.of after (q.groupSets cmd.queue cmd.group)
    = ((GroupContents.of before (q.groupSets cmd.queue cmd.group)).dropExpired now).take cmd.deadline id
  frame : ∀ key ∉ (q.groupSets cmd.queue cmd.group).keys, after key = before key

namespace GetOutcome

variable {q : Queue} {now : Instant} {cmd : GetCommand} {memory after : Memory}

/-- A get that fails changes nothing, or takes an event as if it were handed out. -/
theorem of_error {failure : Failure} (h : GetOutcome q now cmd memory (.error failure) after) :
    ((∃ reason, failure = .validation reason) ∨ failure = .injected StoreMethod.execute.name)
        ∧ (∀ key, after.sets.contents key = memory.sets.contents key)
      ∨ ∃ id, (failure = .payloadMissing id ∨ failure = .injected StoreMethod.getPayload.name)
        ∧ TakesNext q now cmd id memory.sets.contents after.sets.contents := by
  cases h with
  | refused _ hrefused => exact Or.inl ⟨hrefused, fun _ => rfl⟩
  | executed hqueue hgroup hreply hcontents hframe hlast =>
      right
      -- only an event that is next in turn can be missed
      generalize hnext : ((GroupContents.of memory.sets.contents
        (q.groupSets cmd.queue cmd.group)).dropExpired now).next? = next? at hreply
      have htaken {id : EventId} (hid : next? = some id) :
          TakesNext q now cmd id memory.sets.contents after.sets.contents :=
        ⟨hnext.trans hid, hcontents.trans (GroupContents.dequeue_of_some (hnext.trans hid) _), hframe⟩
      cases hreply with
      | missing id => exact ⟨id, Or.inl rfl, htaken rfl⟩
      | unfetched id => exact ⟨id, Or.inr rfl, htaken rfl⟩

end GetOutcome

/-- **What a get that fails leaves behind.** In every state that a run can reach, whichever services share the
    store, whichever calls fail and whatever the clock reads: if the get is refused or its plan is not
    executed, all sets are as they were. If the payload cannot be fetched or is missing, the expired events of
    the group are dropped and the one event that was next in turn is taken, as if it had been handed out; no
    other set changes. With a deadline, a sweep finds the event once the deadline has passed. -/
theorem failed_get_takes_next {turns : List Turn} {t : Turn} {cmd : GetCommand} {failure : Failure}
    (hop : ∀ x ∈ turns, x.request.isOperation = true) (hrequest : t.request = .get cmd)
    (hfailed : ((Session.after turns).turn t).1 = .error failure) :
    let before := (Session.after turns).memory.sets.contents
    let last := (Session.after (turns ++ [t])).memory.sets.contents
    let g := Session.groupAfter t.queue cmd.queue cmd.group (turns ++ [t])
    ((∃ reason, failure = .validation reason) ∨ failure = .injected StoreMethod.execute.name)
        ∧ (∀ key, last key = before key)
      ∨ ∃ id, (failure = .payloadMissing id ∨ failure = .injected StoreMethod.getPayload.name)
        ∧ TakesNext t.queue t.now cmd id before last
        ∧ match cmd.deadline with
          | some deadline => ∀ later : Instant, deadline.score < later.score → id ∈ g.overdue later
          | none => id ∈ g.done := by
  intro before last g
  obtain ⟨result, hresult, houtcome⟩ := Session.getOutcome_of_turn hop hrequest
  cases result with
  | ok event? =>
      rw [hfailed] at hresult
      cases hresult
  | error refusal =>
      obtain rfl : failure = refusal := Except.error.inj (hfailed.symm.trans hresult)
      rcases houtcome.of_error with hsame | ⟨id, hmissed, htakes⟩
      · exact Or.inl hsame
      · refine Or.inr ⟨id, hmissed, htakes, ?_⟩
        have htaken : g.toGroupContents = _ := htakes.taken
        rw [htaken]
        cases cmd.deadline with
        | some deadline => exact fun later => GroupContents.overdue_take
        | none => exact GroupContents.mem_done_take

/-- A group takes an event with a deadline, but its payload cannot be fetched. A sweep finds it overdue. -/
theorem failed_get_takes_next_unfetched :
    let q : Queue := {}
    let turn (micros : Int) (request : Request) (faults : List PendingFault) : Turn :=
      { queue := q, now := .ofMicros micros, request, faults }
    let add := turn 1000 (.add { queue := "q", expire := .ofMicros 5000, contents := "x" }) []
    let cmd : GetCommand := { queue := "q", group := "g", deadline := some (.ofMicros 2000) }
    let get := turn 1000 (.get cmd) [⟨.getPayload, 0⟩]
    ((Session.after [add]).turn get).1 = .error (.injected StoreMethod.getPayload.name)
      ∧ ⟨5000⟩ ∈ (Session.groupAfter q "q" "g" [add, get]).overdue (.ofMicros 2001) := by
  intro q turn add cmd get
  have hfailed : ((Session.after [add]).turn get).1 = .error (.injected StoreMethod.getPayload.name) := by
    decide +kernel
  refine ⟨hfailed, ?_⟩
  rcases failed_get_takes_next (by decide) (rfl : get.request = .get cmd) hfailed with
    ⟨⟨reason, hrefused⟩ | hrefused, -⟩ | ⟨id, -, htakes, hoverdue⟩
  · cases hrefused
  · exact absurd hrefused (by decide)
  · have hnext : ((GroupContents.of (Session.after [add]).memory.sets.contents
        (q.groupSets "q" "g")).dropExpired (.ofMicros 1000)).next? = some ⟨5000⟩ := by decide +kernel
    obtain rfl : id = ⟨5000⟩ := Option.some.inj (htakes.next.symm.trans hnext)
    exact hoverdue (.ofMicros 2001) (by decide)

/-- **Gets that fail do take an event.** One cannot fetch the payload of the only event, and leaves it among
    those done. The other finds the payload of an event missing, at the last instant there is: the identifier
    of the event is later than that instant, but its expiry is not. -/
theorem taken_by_failed_get :
    let q : Queue := {}
    let turn (now : Instant) (request : Request) (faults : List PendingFault) : Turn :=
      { queue := q, now, request, faults }
    let add (now expire : Instant) := turn now (.add { queue := "q", expire, contents := "x" }) []
    let get (now : Instant) := turn now (.get { queue := "q", group := "g" })
    let key := (q.eventSet "q" .done "g").key
    let early := add (.ofMicros 1000) (.ofMicros 5000)
    let unfetched := get (.ofMicros 1000) [⟨.getPayload, 0⟩]
    let late := add (.ofMicros 1000) .latest
    let missing := get .latest []
    (((Session.after [early]).turn unfetched).1 = .error (.injected StoreMethod.getPayload.name)
        ∧ ⟨5000⟩ ∉ ((Session.after [early]).memory.sets.contents key).live unfetched.now
        ∧ ⟨5000⟩ ∈ ((Session.after [early, unfetched]).memory.sets.contents key).live unfetched.now)
      ∧ ((Session.after [late, late]).turn missing).1 = .error (.payloadMissing ⟨8210266876800000000⟩)
        ∧ ⟨8210266876800000000⟩ ∉ ((Session.after [late, late]).memory.sets.contents key).live missing.now
        ∧ ⟨8210266876800000000⟩ ∈
          ((Session.after [late, late, missing]).memory.sets.contents key).live missing.now := by
  decide +kernel

end GroupQueue
