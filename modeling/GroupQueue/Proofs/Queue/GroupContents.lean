import GroupQueue.Proofs.Queue.Keys
import GroupQueue.Proofs.Store.Natural

/-!
# `Proofs.Queue.GroupContents` — the five sets of a consumer group, and what happens to them

What a consumer group sees of a queue is the contents of its five sets. Each operation of the queue is a
function of those contents and the clock reading, written down here without plans, keys or stores: the
next event and its taking, the settling of an acknowledged event, the requeueing of overdue ones.

## Contents
- `GroupSets.keys` — the keys of a group's sets; `Queue.nodup_keys`: they are five.
- `GroupContents`, `GroupContents.of` — the contents of a group, read off the contents of all sets.
- `GroupContents.dropExpired`, `cursor?`, `next?`, `record`, `dequeue` — taking the next event.
- `GroupContents.settle`, `GroupContents.requeue` — acknowledging, and sweeping.
-/

namespace GroupQueue

/-! ## The sets of a group -/

/-- The keys of the sets that a group works with. -/
def GroupSets.keys (sets : GroupSets) : List String :=
  [sets.available.key, sets.inProgressById.key, sets.inProgressByAck.key, sets.redo.key, sets.done.key]

namespace Queue

variable {q : Queue} {queue group : String}

/-- The sets that a group has in two roles have two keys. -/
theorem key_ne_of_role_ne (hqueue : ColonFree queue) (hgroup : ColonFree group) {role role' : Role}
    (hne : role ≠ role') : (q.eventSet queue role group).key ≠ (q.eventSet queue role' group).key := by
  intro h
  exact hne ((key_eventSet_eq_iff_parts hqueue hgroup hqueue hgroup).mp h).2.1

theorem nodup_keys (q : Queue) (hqueue : ColonFree queue) (hgroup : ColonFree group) :
    (q.groupSets queue group).keys.Nodup := by
  have hne {role role' : Role} := @key_ne_of_role_ne q queue group hqueue hgroup role role'
  simp [GroupSets.keys, groupSets, hne]

/-- A set of one group is among those of another group only if it is the set that they share. -/
theorem mem_keys_iff (q : Queue) {queue' group' : String} (hqueue : ColonFree queue)
    (hgroup : ColonFree group) (hqueue' : ColonFree queue') (hgroup' : ColonFree group') {role : Role} :
    (q.eventSet queue role group).key ∈ (q.groupSets queue' group').keys
      ↔ queue = queue' ∧ (role = .available ∨ group = group') := by
  simp only [GroupSets.keys, groupSets, List.mem_cons,
    key_eventSet_eq_iff_parts hqueue hgroup hqueue' hgroup']
  cases role <;> simp

end Queue

/-! ## Contents of a group -/

/-- What the sets of a consumer group hold. -/
structure GroupContents where
  available : Contents
  inProgressById : Contents
  inProgressByAck : Contents
  redo : Contents
  done : Contents

namespace GroupContents

/-- The contents of a group's sets, given the contents under every key. -/
def of (view : String → Contents) (sets : GroupSets) : GroupContents where
  available := view sets.available.key
  inProgressById := view sets.inProgressById.key
  inProgressByAck := view sets.inProgressByAck.key
  redo := view sets.redo.key
  done := view sets.done.key

/-- What happens to the sets of one group changes at most the shared set for another. -/
theorem of_frame {q : Queue} {queue group queue' group' : String} (hqueue : ColonFree queue)
    (hgroup : ColonFree group) (hqueue' : ColonFree queue') (hgroup' : ColonFree group')
    {view view' : String → Contents}
    (hframe : ∀ key ∉ (q.groupSets queue' group').keys, view' key = view key)
    (hother : ¬ (queue = queue' ∧ group = group')) :
    of view' (q.groupSets queue group)
      = { of view (q.groupSets queue group) with
          available := if queue = queue' then (of view' (q.groupSets queue' group')).available
            else (of view (q.groupSets queue group)).available } := by
  -- no set of the one group has a key of the other, except for the shared set
  have hstay {role : Role} (hrole : ¬ (queue = queue' ∧ (role = .available ∨ group = group'))) :
      view' (q.eventSet queue role group).key = view (q.eventSet queue role group).key :=
    hframe _ (mt (q.mem_keys_iff hqueue hgroup hqueue' hgroup').mp hrole)
  have hown (role : Role) (hrole : role ≠ .available) :
      view' (q.eventSet queue role group).key = view (q.eventSet queue role group).key :=
    hstay fun h => hother ⟨h.1, h.2.resolve_left hrole⟩
  simp only [of, Queue.groupSets, hown .inProgressById (by decide),
    hown .inProgressByAck (by decide), hown .redo (by decide), hown .done (by decide),
    GroupContents.mk.injEq, and_true]
  split
  · next hsame => rw [← hsame, eventSet_available q queue group group']
  · next hdiff => exact hstay fun h => hdiff h.1

/-- What happens to the sets of one group, but not to the shared one, leaves other groups alone. -/
theorem of_frame_of_available {q : Queue} {queue group queue' group' : String} (hqueue : ColonFree queue)
    (hgroup : ColonFree group) (hqueue' : ColonFree queue') (hgroup' : ColonFree group')
    {view view' : String → Contents}
    (hframe : ∀ key ∉ (q.groupSets queue' group').keys, view' key = view key)
    (hother : ¬ (queue = queue' ∧ group = group'))
    (havailable : (of view' (q.groupSets queue' group')).available
      = (of view (q.groupSets queue' group')).available) :
    of view' (q.groupSets queue group) = of view (q.groupSets queue group) := by
  rw [of_frame hqueue hgroup hqueue' hgroup' hframe hother, havailable]
  split
  · next hsame =>
    rw [hsame]
    rfl
  · rfl

/-! ## Taking the next event -/

/-- The contents once the expired events have left the sets with natural scores. -/
def dropExpired (g : GroupContents) (now : Instant) : GroupContents :=
  { g with
    available := g.available.live now
    inProgressById := g.inProgressById.live now
    redo := g.redo.live now
    done := g.done.live now }

theorem dropExpired_dropExpired (g : GroupContents) (now : Instant) :
    (g.dropExpired now).dropExpired now = g.dropExpired now := by
  simp only [dropExpired, Contents.live_live]

/-- Where the group goes on: the lesser of the newest event in progress and the newest one done. A set
    without events does not count. -/
def cursor? (g : GroupContents) : Option Int :=
  Option.merge min (g.inProgressById.last?.map EventId.score) (g.done.last?.map EventId.score)

theorem cursor?_eq_none_iff {g : GroupContents} :
    g.cursor? = none ↔ g.inProgressById = ∅ ∧ g.done = ∅ := by
  rw [← Contents.last?_eq_none_iff, ← Contents.last?_eq_none_iff, cursor?]
  cases g.inProgressById.last? <;> cases g.done.last? <;> simp

/-- The event that is next in turn: the smallest one to be handed out again; else the smallest available
    one beyond the cursor; else, for a group without history, the smallest available one. -/
def next? (g : GroupContents) : Option EventId :=
  match g.redo.first? with
  | some id => some id
  | none =>
    match g.cursor? with
    | some cursor => (g.available.above cursor).first?
    | none => g.available.first?

/-- Record an event as taken: as in progress until a deadline, or as done. -/
def record (g : GroupContents) (deadline : Option Instant) (id : EventId) : GroupContents :=
  match deadline with
  | some deadline =>
    { g with
      inProgressById := g.inProgressById.insert id id.score
      inProgressByAck := g.inProgressByAck.insert id deadline.score }
  | none => { g with done := g.done.insert id id.score }

/-- Take an event: it need not be handed out again, and is recorded. -/
def take (g : GroupContents) (deadline : Option Instant) (id : EventId) : GroupContents :=
  { g with redo := g.redo.erase id }.record deadline id

/-- Drop what has expired, and take what is next in turn. -/
def dequeue (g : GroupContents) (now : Instant) (deadline : Option Instant) : GroupContents :=
  let live := g.dropExpired now
  match live.next? with
  | some id => live.take deadline id
  | none => live

theorem dequeue_of_some {g : GroupContents} {now : Instant} {id : EventId}
    (h : (g.dropExpired now).next? = some id) (deadline : Option Instant) :
    g.dequeue now deadline = (g.dropExpired now).take deadline id := by
  rw [dequeue, h]

theorem dequeue_of_none {g : GroupContents} {now : Instant} (h : (g.dropExpired now).next? = none)
    (deadline : Option Instant) : g.dequeue now deadline = g.dropExpired now := by
  rw [dequeue, h]

theorem available_dequeue (g : GroupContents) (now : Instant) (deadline : Option Instant) :
    (g.dequeue now deadline).available = g.available.live now := by
  cases hnext : (g.dropExpired now).next? with
  | none => rw [dequeue_of_none hnext, dropExpired]
  | some id =>
      rw [dequeue_of_some hnext]
      cases deadline <;> rfl

/-! ## Acknowledging and sweeping -/

/-- Whether an event is in progress and its deadline has not passed. -/
def inTime (g : GroupContents) (now : Instant) (event : EventId) : Bool :=
  g.inProgressByAck[event]?.any fun deadline => now.score ≤ deadline

/-- Count an event as done if its deadline has not passed. -/
def settle (g : GroupContents) (now : Instant) (event : EventId) : GroupContents :=
  if g.inTime now event then
    { g with
      inProgressById := g.inProgressById.erase event
      inProgressByAck := g.inProgressByAck.erase event
      done := g.done.insert event event.score }
  else g

theorem available_settle (g : GroupContents) (now : Instant) (event : EventId) :
    (g.settle now event).available = g.available := by
  unfold settle
  split <;> rfl

/-- The events in progress whose deadline has passed. -/
def overdue (g : GroupContents) (now : Instant) : List EventId :=
  let late : Contents := g.inProgressByAck.filter fun _ deadline => decide (deadline < now.score)
  late.members.map Member.id

/-- Put the events whose deadline has passed among those to be handed out again. -/
def requeue (g : GroupContents) (now : Instant) : GroupContents :=
  { g with
    inProgressById := Contents.without g.inProgressById (g.overdue now)
    inProgressByAck := g.inProgressByAck.filter fun _ deadline => decide (now.score ≤ deadline)
    redo := Contents.upsert g.redo ((g.overdue now).map Member.natural) }

theorem mem_ack_of_inTime {g : GroupContents} {now : Instant} {event : EventId}
    (h : g.inTime now event = true) : event ∈ g.inProgressByAck := by
  obtain ⟨deadline, hdeadline, -⟩ := (Option.any_eq_true _ _).mp h
  exact Contents.mem_iff.mpr ⟨deadline, hdeadline⟩

theorem mem_overdue_iff {g : GroupContents} {now : Instant} {id : EventId} :
    id ∈ g.overdue now ↔ ∃ deadline, g.inProgressByAck[id]? = some deadline ∧ deadline < now.score := by
  simp only [overdue, List.mem_map, Contents.mem_members, Std.ExtTreeMap.getElem?_filter',
    Option.filter_eq_some_iff, decide_eq_true_eq]
  constructor
  · rintro ⟨m, hm, rfl⟩
    exact ⟨m.score, hm⟩
  · rintro ⟨deadline, hdeadline⟩
    exact ⟨⟨id, deadline⟩, hdeadline, rfl⟩

theorem mem_ack_of_overdue {g : GroupContents} {now : Instant} {id : EventId} (h : id ∈ g.overdue now) :
    id ∈ g.inProgressByAck := by
  obtain ⟨deadline, hdeadline, -⟩ := mem_overdue_iff.mp h
  exact Contents.mem_iff.mpr ⟨deadline, hdeadline⟩

theorem mem_ack_requeue_iff {g : GroupContents} {now : Instant} {id : EventId} :
    id ∈ (g.requeue now).inProgressByAck ↔ id ∉ g.overdue now ∧ id ∈ g.inProgressByAck := by
  simp only [mem_overdue_iff, Contents.mem_iff, requeue, Std.ExtTreeMap.getElem?_filter',
    Option.filter_eq_some_iff, decide_eq_true_eq]
  constructor
  · rintro ⟨deadline, hdeadline, hle⟩
    refine ⟨?_, deadline, hdeadline⟩
    rintro ⟨late, hlate, hlt⟩
    rw [hdeadline] at hlate
    cases hlate
    omega
  · rintro ⟨hover, deadline, hdeadline⟩
    exact ⟨deadline, hdeadline, Int.not_lt.mp fun hlt => hover ⟨deadline, hdeadline, hlt⟩⟩

/-- Where no event is overdue, there is nothing to put back. -/
theorem requeue_of_overdue_eq_nil {g : GroupContents} {now : Instant} (h : g.overdue now = []) :
    g.requeue now = g := by
  have hack : g.inProgressByAck.filter (fun _ deadline => decide (now.score ≤ deadline))
      = g.inProgressByAck := by
    refine Std.ExtTreeMap.ext_getElem? fun id => Option.ext fun deadline => ?_
    rw [Std.ExtTreeMap.getElem?_filter', Option.filter_eq_some_iff, decide_eq_true_eq]
    refine ⟨And.left, fun hdeadline => ⟨hdeadline, Int.not_lt.mp fun hlt => ?_⟩⟩
    have hid : id ∈ g.overdue now := mem_overdue_iff.mpr ⟨deadline, hdeadline, hlt⟩
    rw [h] at hid
    exact List.not_mem_nil hid
  simp only [requeue, h, hack]
  rfl

/-- In particular without events in progress. -/
theorem requeue_of_ack_eq_empty {g : GroupContents} (h : g.inProgressByAck = ∅) (now : Instant) :
    g.requeue now = g :=
  requeue_of_overdue_eq_nil <| List.eq_nil_iff_forall_not_mem.mpr fun id hid =>
    Contents.eq_empty_iff.mp h id (mem_ack_of_overdue hid)

theorem mem_redo_requeue {g : GroupContents} {now : Instant} {id : EventId} :
    id ∈ (g.requeue now).redo ↔ id ∈ g.overdue now ∨ id ∈ g.redo := by
  rw [requeue, Contents.mem_upsert_iff, List.map_map]
  simp [Function.comp_def, Member.natural]

theorem mem_inProgressById_requeue {g : GroupContents} {now : Instant} {id : EventId} :
    id ∈ (g.requeue now).inProgressById ↔ id ∉ g.overdue now ∧ id ∈ g.inProgressById := by
  rw [requeue, Contents.mem_without_iff]

end GroupContents

end GroupQueue
