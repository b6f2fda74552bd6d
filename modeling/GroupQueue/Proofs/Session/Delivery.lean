import GroupQueue.Proofs.Session.Moves
import GroupQueue.Proofs.Session.Provenance

/-!
# `Proofs.Session.Delivery` — what a get hands out

An event leaves the sets of a queue when the clock reaches its score, its payload is dropped when its expiry
and a grace have passed, and the two are not done at the same time. A get relies on both: it takes the event
that is next in turn among those that have not expired, and then looks for its payload. The payload is always
there, as it outlives the event. It is the one that was added with the event, as every event in a set of the
queue was added to the queue.

## Contents
- `Session.natural_state_after` — natural scores in all but one set of a group.
- `Session.held_of_next` — the next event in turn is in a set of the queue, and has not expired.
- `Session.reply_of_get` — what a get is told, when no call fails.
- `Session.handOut_of_mem` — an event that has not expired is handed out; `Session.get_of_faultless`: so a get
  returns the event that is next in turn.
- `delivered_as_added` — events are handed out alive, and as they were added.
- `payload_missing_across_namespaces` — what happens in overlapping namespaces.
-/

namespace GroupQueue

namespace Session

variable {q : Queue} {queue group : String} {now : Instant} {turns : List Turn} {t : Turn}

/-- The sets of a group that keep no deadlines hold natural scores, if no service of the run works in a
    namespace that overlaps with its own. -/
theorem natural_state_after (hop : ∀ x ∈ turns, x.request.isOperation = true)
    (hapart : ∀ x ∈ turns, x.queue.Apart q) (hqueue : ColonFree queue) (hgroup : ColonFree group) :
    (groupAfter q queue group turns).Natural := by
  have hnatural {role : Role} (hrole : role ≠ .inProgressByAck) :
      ((after turns).memory.sets.contents (q.eventSet queue role group).key).Natural :=
    natural_apart_after hop q hqueue hgroup hrole fun _ => hapart
  exact ⟨hnatural (by decide), hnatural (by decide), hnatural (by decide), hnatural (by decide)⟩

/-- **The next event in turn is in a set of the queue, and has not expired.** -/
theorem held_of_next (hop : ∀ x ∈ turns, x.request.isOperation = true)
    (hapart : ∀ x ∈ turns, x.queue.Apart q) (hqueue : ColonFree queue) (hgroup : ColonFree group)
    {id : EventId} (hnext : ((groupAfter q queue group turns).dropExpired now).next? = some id) :
    now.score < id.score
      ∧ ∃ key, q.Holds queue key ∧ id ∈ (after turns).memory.sets.contents key := by
  have hnatural := natural_state_after hop hapart hqueue hgroup
  have hheld (role : Role) {held : Contents}
      (hrole : held = (after turns).memory.sets.contents (q.eventSet queue role group).key)
      (hscores : held.Natural) (hid : id ∈ held.live now) :
      now.score < id.score ∧ ∃ key, q.Holds queue key ∧ id ∈ (after turns).memory.sets.contents key := by
    obtain ⟨hmem, hlive⟩ := hscores.mem_live.mp hid
    exact ⟨hlive, _, ⟨role, group, hgroup, rfl⟩, hrole ▸ hmem⟩
  rcases GroupContents.next?_cases (hnatural.dropExpired now) hnext with hredo | ⟨-, havailable, -⟩
  · exact hheld .redo rfl hnatural.redo hredo
  · exact hheld .available rfl hnatural.available havailable

/-- **What a get is told**, when no call fails: the next event in turn is handed out. -/
theorem reply_of_get (hop : ∀ x ∈ turns, x.request.isOperation = true)
    (hfaults : ∀ x ∈ turns ++ [t], x.faults = []) {cmd : GetCommand} (hrequest : t.request = .get cmd)
    (hqueue : checkName "queue" cmd.queue = .ok ()) (hgroup : checkName "group" cmd.group = .ok ()) :
    ((after turns).turn t).1 = ((after turns).memory.handOut t.now
      ((groupAfter t.queue cmd.queue cmd.group turns).dropExpired t.now).next?).map .event := by
  obtain ⟨hprogress, hdone⟩ := natural_history_after hop t.queue (colonFree_of_checkName hqueue)
    (colonFree_of_checkName hgroup)
  obtain ⟨sets, payloads, hget, -⟩ :=
    @Memory.converse_get _ t.queue t.now (sound_after hop) cmd hqueue hgroup hprogress hdone
  rw [List.forall_mem_append, List.forall_mem_singleton] at hfaults
  obtain ⟨hreply, -⟩ := turn_of_faultless (faults_after hfaults.1) hfaults.2
  rw [hrequest, Request.perform, Memory.converse_mapResult, hget] at hreply
  exact hreply

/-- **An event in any set that has not expired is handed out**: it has its payload. -/
theorem handOut_of_mem (hop : ∀ x ∈ turns, x.request.isOperation = true)
    (hnow : ∀ x ∈ turns, x.now ≤ now) (hlast : now < Instant.latest) {key : String} {id : EventId}
    (hid : id ∈ (after turns).memory.sets.contents key) (hlive : now.score < id.score) :
    ∃ payload, (after turns).memory.payloads.byId[id]? = some payload ∧ payload.event.id = id
      ∧ (after turns).memory.handOut now (some id) = .ok (some payload.event) := by
  obtain ⟨payload, hpayload, hkeyed⟩ := find?_of_mem hop hnow hlast hid hlive
  refine ⟨payload, (Payloads.find?_eq_some_iff.mp hpayload).1, hkeyed, ?_⟩
  rw [Memory.handOut, hpayload]

/-- **What a get comes to, when no call fails**: it returns the event that is next in turn, and takes it. -/
theorem get_of_faultless (hrun : ∀ x ∈ turns ++ [t], x.request.isOperation = true ∧ x.faults = [])
    (hnow : ∀ x ∈ turns, x.now ≤ t.now) (hlast : t.now < Instant.latest)
    (hapart : ∀ x ∈ turns, x.queue.Apart q) (hbase : t.queue.base = q.base) {cmd : GetCommand}
    (hrequest : t.request = .get cmd) (hqueue : checkName "queue" cmd.queue = .ok ())
    (hgroup : checkName "group" cmd.group = .ok ()) :
    let g := groupAfter q cmd.queue cmd.group turns
    ∃ event?, ((after turns).turn t).1 = .ok (.event event?)
      ∧ event?.map Event.id = (g.dropExpired t.now).next?
      ∧ groupAfter q cmd.queue cmd.group (turns ++ [t]) = (Move.dequeue t.now cmd.deadline).apply g := by
  intro g
  have hfaults : ∀ x ∈ turns ++ [t], x.faults = [] := fun x hx => (hrun x hx).2
  have hop : ∀ x ∈ turns, x.request.isOperation = true := fun x hx => (hrun x (List.mem_append_left _ hx)).1
  have hreply := reply_of_get hop hfaults hrequest hqueue hgroup
  rw [groupAfter_of_base hbase] at hreply
  have hhanded : ∃ event?, (after turns).memory.handOut t.now (g.dropExpired t.now).next? = .ok event? := by
    cases hnext : (g.dropExpired t.now).next? with
    | none => exact ⟨none, rfl⟩
    | some id =>
        obtain ⟨hlive, key, -, hid⟩ := held_of_next hop hapart (colonFree_of_checkName hqueue)
          (colonFree_of_checkName hgroup) hnext
        obtain ⟨payload, -, -, hhanded⟩ := handOut_of_mem hop hnow hlast hid hlive
        exact ⟨some payload.event, hhanded⟩
  obtain ⟨event?, hevent⟩ := hhanded
  rw [hevent] at hreply
  obtain ⟨-, -, hnext, hafter⟩ := own_get_of_turn hop hrequest hreply
  rw [groupAfter_of_base hbase] at hnext hafter
  rw [groupAfter_of_base hbase] at hafter
  exact ⟨event?, hreply, hnext, hafter⟩

end Session

/-- **Events are handed out alive, and as they were added.** In every state that a run without failing calls
    can reach, with the clock read no earlier than before and not at its end: a get with names that can be used
    succeeds and returns the event that is next in turn, if there is one. No get finds a payload missing. An
    event that it returns is beyond the clock reading, and has been added to the same queue before, with these
    contents and under this identifier, which is also its expiry. Services in other namespaces may share the
    store, as long as no namespace is another one with a queue attached. The reading that a get takes for its plan
    and the one that the store takes for the payload are one: `t.now`. -/
theorem delivered_as_added {turns : List Turn} {t : Turn}
    (hrun : ∀ x ∈ turns ++ [t], x.request.isOperation = true ∧ x.faults = [])
    (hnow : ∀ x ∈ turns, x.now ≤ t.now) (hlast : t.now < Instant.latest)
    (hapart : ∀ x ∈ turns, x.queue.Apart t.queue) {cmd : GetCommand} (hrequest : t.request = .get cmd) :
    (t.request.Accepted → ∃ event?, ((Session.after turns).turn t).1 = .ok (.event event?)
        ∧ event?.map Event.id
          = ((Session.groupAfter t.queue cmd.queue cmd.group turns).dropExpired t.now).next?)
      ∧ (∀ id, ((Session.after turns).turn t).1 ≠ .error (.payloadMissing id))
      ∧ ∀ event, ((Session.after turns).turn t).1 = .ok (.event (some event)) →
        t.now.score < event.id.score
          ∧ Session.Enqueued t.queue cmd.queue event.id event.contents turns
          ∧ event.expire = event.id.expiry ∧ t.now < event.expire := by
  have hfaults : ∀ x ∈ turns ++ [t], x.faults = [] := fun x hx => (hrun x hx).2
  rw [List.forall_mem_append] at hrun
  have hop : ∀ x ∈ turns, x.request.isOperation = true := fun x hx => (hrun.1 x hx).1
  by_cases haccepted : t.request.Accepted
  · obtain ⟨hqueue, hgroup⟩ : checkName "queue" cmd.queue = .ok () ∧ checkName "group" cmd.group = .ok () := by
      rwa [hrequest] at haccepted
    have hq := colonFree_of_checkName hqueue
    have hg := colonFree_of_checkName hgroup
    rw [Session.reply_of_get hop hfaults hrequest hqueue hgroup]
    cases hnext : ((Session.groupAfter t.queue cmd.queue cmd.group turns).dropExpired t.now).next? with
    | none => exact ⟨fun _ => ⟨none, rfl, rfl⟩, nofun, nofun⟩
    | some id =>
        -- the event is handed out with the payload that it was added with
        obtain ⟨hlive, key, hkey, hid⟩ := Session.held_of_next hop hapart hq hg hnext
        obtain ⟨payload, hpayload, hkeyed, hhanded⟩ := Session.handOut_of_mem hop hnow hlast hid hlive
        obtain ⟨contents, hadded⟩ := Session.enqueued_after hop (fun x hx => (hrun.1 x hx).2) hapart hq
          key hkey id hid
        have hfiles := Session.contents_of_enqueued hop (fun x hx => (hrun.1 x hx).2) hadded
        rw [hhanded, hfiles.event payload hpayload]
        refine ⟨fun _ => ⟨some (.new id contents), rfl, rfl⟩, nofun, fun event hevent => ?_⟩
        obtain rfl : Event.new id contents = event := by simpa [Except.map] using hevent
        exact ⟨hlive, hadded, rfl, EventId.lt_expiry hlive hlast⟩
  · obtain ⟨⟨reason, hrefused⟩, -⟩ := Session.turn_of_refused hfaults haccepted
    rw [hrefused]
    exact ⟨fun h => absurd h haccepted, nofun, nofun⟩

/-- An event is taken, falls due, and is swept. Meanwhile another namespace shares the store, and payloads
    without grace are dropped. In the last microsecond of the event, its group is handed it once more. -/
theorem delivered_as_added_again :
    let q : Queue := { grace := .ofSeconds 0 }
    let other : Queue := { base := "other" }
    let turn (q : Queue) (micros : Int) (request : Request) : Turn :=
      { queue := q, now := .ofMicros micros, request }
    let add (q : Queue) (micros : Int) (contents : String) :=
      turn q 1000 (.add { queue := "q", expire := .ofMicros micros, contents })
    let turns := [add other 5000 "y", add q 5000 "x",
      turn q 1000 (.get { queue := "q", group := "g", deadline := some (.ofMicros 1500) }),
      turn q 2000 (.tick [⟨"q", "g"⟩])]
    let cmd : GetCommand := { queue := "q", group := "g" }
    let t := turn q 5000 (.get cmd)
    let event := Event.new ⟨5001⟩ "x"
    (∀ x ∈ turns ++ [t], x.request.isOperation = true ∧ x.faults = [])
      ∧ (∀ x ∈ turns, x.now ≤ t.now) ∧ t.now < Instant.latest ∧ (∀ x ∈ turns, x.queue.Apart t.queue)
      ∧ t.request = .get cmd
      ∧ ((Session.after turns).turn t).1 = .ok (.event (some event))
      ∧ Session.Enqueued q "q" ⟨5001⟩ "x" turns ∧ t.now < event.expire := by
  intro q other turn add turns cmd t event
  have hrun : ∀ x ∈ turns ++ [t], x.request.isOperation = true ∧ x.faults = [] := by decide
  have hnow : ∀ x ∈ turns, x.now ≤ t.now := by decide
  have hlast : t.now < Instant.latest := by decide
  have hcolon : ∀ x ∈ turns, ColonFree x.queue.base := by decide
  have hapart : ∀ x ∈ turns, x.queue.Apart t.queue :=
    fun x hx => Queue.apart_of_colonFree (hcolon x hx) (by decide)
  have hreply : ((Session.after turns).turn t).1 = .ok (.event (some event)) := by decide +kernel
  obtain ⟨-, -, hdelivered⟩ := delivered_as_added hrun hnow hlast hapart (rfl : t.request = .get cmd)
  obtain ⟨-, hadded, -, hexpire⟩ := hdelivered event hreply
  exact ⟨hrun, hnow, hlast, hapart, rfl, hreply, hadded, hexpire⟩

/-- **Where namespaces overlap, payloads do go missing.** An event is taken with a deadline that lies beyond
    its expiry. The set that keeps the deadline is the shared set of a queue in another namespace, and a get
    of that queue takes the event once it has expired and its payload is gone. -/
theorem payload_missing_across_namespaces :
    let q : Queue := { base := "b", grace := .ofSeconds 0 }
    let q' : Queue := { base := "b:p", grace := .ofSeconds 0 }
    let turn (q : Queue) (micros : Int) (request : Request) : Turn :=
      { queue := q, now := .ofMicros micros, request }
    let turns := [turn q 1000 (.add { queue := "p", expire := .ofMicros 5000, contents := "x" }),
      turn q 1000 (.get { queue := "p", group := "available", deadline := some (.ofMicros 9000) })]
    let t := turn q' 6000 (.get { queue := "inprog_ack", group := "g" })
    (∀ x ∈ turns ++ [t], x.request.isOperation = true ∧ x.faults = [])
      ∧ (turns ++ [t]).Pairwise (fun x y => x.now ≤ y.now) ∧ (∀ x ∈ turns ++ [t], x.now < Instant.latest)
      ∧ ((Session.after turns).turn t).1 = .error (.payloadMissing ⟨5000⟩) := by
  decide +kernel

end GroupQueue
