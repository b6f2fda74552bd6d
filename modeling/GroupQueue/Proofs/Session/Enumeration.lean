import GroupQueue.Proofs.Queue.Enumeration
import GroupQueue.Proofs.Session.Namespaces
import GroupQueue.Proofs.Session.RedoOrder

/-!
# `Proofs.Session.Enumeration` — groups that are handed the events of their queue one by one

Gets of a group may all be without a deadline, so that events count as done at once; or all with one, while
nobody acknowledges or sweeps for the group. In both cases the group is handed the events of its queue in
order, each live one exactly once, whatever is added meanwhile, whatever other groups and services do and
whatever expires. Each get is a step of `GroupContents.Enumerates`, and nothing else moves the group.

The clock must not go back, or an event could be alive again that has left the history. It must not be at its
very end when a get reads it: identifiers go on beyond the last instant, but expiries do not, so there an event
can be next in turn while its payload is gone.

## Contents
- `Request.Unmixed` — gets of one sort; `Session.handed` — what a group has been handed.
- `Session.UnmixedRun` — the runs this is about.
- `Session.enumerates_concat`, `enumerates_after` — the invariant, for a turn and for a run.
- `handed_in_order` — each get returns the least live event beyond all before it.
- `not_handed_at_latest` — at the end of the clock, and where namespaces overlap.
-/

namespace GroupQueue

/-- A request is fit for a group that takes events only with a deadline (`leased`), or only without one. -/
def Request.Unmixed (leased : Bool) (queue group : String) (request : Request) : Prop :=
  (∀ cmd, request = .get cmd → cmd.queue = queue → cmd.group = group → cmd.deadline.isSome = leased)
    ∧ (leased = true → ¬ request.acks queue group ∧ ¬ request.sweeps queue group)

/-- The moves that stem from such a request, and take no event, leave the group where it is. -/
theorem Move.bystands_of_stemsFrom {leased : Bool} {now : Instant} {queue group : String} {request : Request}
    (hunmixed : request.Unmixed leased queue group) (hgets : ¬ request.gets queue group) {move : Move}
    (h : move.stemsFrom now request queue group) : move.Bystands leased now := by
  have hnot {p : Prop} (hp : p) (hforbidden : leased = true → ¬ p) : leased = false :=
    Bool.eq_false_iff.mpr fun hleased => hforbidden hleased hp
  cases move with
  | issue id | offer id | age now | purgeRedo now => trivial
  | dequeue now deadline =>
      obtain ⟨-, cmd, rfl, hqueue, hgroup, -⟩ := h
      exact hgets ⟨hqueue, hgroup⟩
  | settle now event =>
      obtain ⟨-, cmd, rfl, hqueue, hgroup, -⟩ := h
      exact hnot (p := Request.acks queue group (.ack cmd)) ⟨hqueue, hgroup⟩ fun hl => (hunmixed.2 hl).1
  | requeue now => exact hnot h.2 fun hleased => (hunmixed.2 hleased).2
  | purgeDone now =>
      obtain ⟨rfl, hsweeps⟩ := h
      exact ⟨hnot hsweeps fun hleased => (hunmixed.2 hleased).2, Int.le_refl _⟩

namespace Session

variable {q : Queue} {queue group : String} {leased : Bool} {turns : List Turn} {t : Turn}

/-! ## What a group is handed -/

/-- The event that the caller of a get is handed. -/
def handedId? : Except Failure Response → Option EventId
  | .ok (.event event?) => event?.map Event.id
  | _ => none

/-- The events that the gets of a group have returned, in order. -/
def handed (q : Queue) (queue group : String) (turns : List Turn) : List EventId :=
  (fresh.told q queue group turns).filterMap handedId?

theorem handed_concat (turns : List Turn) (t : Turn) :
    handed q queue group (turns ++ [t]) = handed q queue group turns
      ++ if t.GetsFor q queue group then (handedId? ((after turns).turn t).1).toList else [] := by
  rw [handed, told_concat, List.filterMap_append, ← handed]
  split
  · cases hid : handedId? ((after turns).turn t).1 <;> simp [hid]
  · rfl

/-- A service in another namespace leaves a group alone, if neither namespace extends the other. -/
theorem group_of_apart (hop : ∀ x ∈ turns ++ [t], x.request.isOperation = true) (hapart : t.queue.Apart q)
    (hbase : t.queue.base ≠ q.base) (hqueue : ColonFree queue) (hgroup : ColonFree group) :
    (groupAfter q queue group (turns ++ [t])).toGroupContents
      = (groupAfter q queue group turns).toGroupContents := by
  rw [List.forall_mem_append, List.forall_mem_singleton] at hop
  have hkept (role : Role) : (after (turns ++ [t])).memory.sets.contents (q.eventSet queue role group).key
      = (after turns).memory.sets.contents (q.eventSet queue role group).key :=
    contents_of_other hop.1 hop.2 fun queue' role' group' hqueue' hgroup' hkey =>
      hbase (base_eq_of_key_eq hapart hqueue' hqueue hgroup' hgroup hkey)
  simp only [groupAfter, GroupState.of, GroupContents.of, Queue.groupSets, hkept]

/-! ## The invariant -/

/-- A run in which a group takes events in one way only, so that it is handed them in order. -/
structure UnmixedRun (q : Queue) (queue group : String) (leased : Bool) (turns : List Turn) : Prop where
  /-- There are operations only, and no call fails. -/
  run : ∀ x ∈ turns, x.request.isOperation = true ∧ x.faults = []
  /-- The clock does not go back. -/
  clock : turns.Pairwise fun x y => x.now ≤ y.now
  /-- It is not at its end when it is read for a get of the group. -/
  last : ∀ x ∈ turns, x.GetsFor q queue group → x.now < Instant.latest
  /-- Other services work in the same namespace or in one that does not overlap with it. -/
  apart : ∀ x ∈ turns, x.queue.Apart q
  /-- What is requested for the group is of one sort. -/
  unmixed : ∀ x ∈ turns, x.queue.base = q.base → x.request.Unmixed leased queue group

namespace UnmixedRun

variable {later : List Turn}

/-- The first part of such a run is one. -/
theorem before (h : UnmixedRun q queue group leased (turns ++ later)) :
    UnmixedRun q queue group leased turns where
  run := fun x hx => h.run x (List.mem_append_left _ hx)
  clock := (List.pairwise_append.mp h.clock).1
  last := fun x hx => h.last x (List.mem_append_left _ hx)
  apart := fun x hx => h.apart x (List.mem_append_left _ hx)
  unmixed := fun x hx => h.unmixed x (List.mem_append_left _ hx)

/-- The clock has not been beyond its reading for the next turn. -/
theorem reached (h : UnmixedRun q queue group leased (turns ++ t :: later)) :
    ∀ x ∈ turns, x.now ≤ t.now :=
  fun x hx => (List.pairwise_append.mp h.clock).2.2 x hx t List.mem_cons_self

theorem operations (h : UnmixedRun q queue group leased turns) :
    ∀ x ∈ turns, x.request.isOperation = true :=
  fun x hx => (h.run x hx).1

end UnmixedRun

/-- **A turn keeps to the order.** A get of the group takes it one event further, and nothing else moves it. -/
theorem enumerates_concat (hqueue : checkName "queue" queue = .ok ())
    (hgroup : checkName "group" group = .ok ()) (hrun : UnmixedRun q queue group leased (turns ++ [t]))
    (h : (groupAfter q queue group turns).Enumerates leased t.now (handed q queue group turns)) :
    (groupAfter q queue group (turns ++ [t])).Enumerates leased t.now
      (handed q queue group (turns ++ [t])) := by
  have hq := colonFree_of_checkName hqueue
  have hg := colonFree_of_checkName hgroup
  have ht : t ∈ turns ++ [t] := List.mem_append_right _ (List.mem_singleton.mpr rfl)
  have hop := hrun.before.operations
  have hnatural : (groupAfter q queue group turns).Natural :=
    natural_state_after hop hrun.before.apart hq hg
  rw [handed_concat]
  by_cases hbase : t.queue.base = q.base
  · by_cases hgets : t.request.gets queue group
    · rw [if_pos ⟨hbase, hgets⟩]
      cases hrequest : t.request with
      | get cmd =>
          obtain ⟨rfl, rfl⟩ : cmd.queue = queue ∧ cmd.group = group := by rwa [hrequest] at hgets
          obtain ⟨event?, hreply, hnext, hafter⟩ := get_of_faultless hrun.run hrun.reached
            (hrun.last t ht ⟨hbase, hgets⟩) hrun.before.apart hbase hrequest hqueue hgroup
          have hleased := (hrun.unmixed t ht hbase).1 cmd hrequest rfl rfl
          rw [hafter, hreply, handedId?, hnext]
          exact h.dequeue hnatural (Int.le_refl _) hleased
      | _ => simp [hrequest, Request.gets] at hgets
    · rw [if_neg fun ht => hgets ht.2, List.append_nil]
      have hmoves := moves_of_own_turn (q := q) hq hg hop ⟨hrun.operations t ht, hbase⟩
      have hkept := hmoves.keeps (I := fun s => s.Natural
          ∧ s.Enumerates leased t.now (handed q queue group turns)) (fun move s hkind _ hs =>
        ⟨hs.1.move move, hs.2.move hs.1 (Move.bystands_of_stemsFrom (hrun.unmixed t ht hbase) hgets hkind)⟩)
        ⟨hnatural, h⟩
      exact hkept.2
  · rw [if_neg fun ht => hbase ht.1, List.append_nil,
      group_of_apart hrun.operations (hrun.apart t ht) hbase hq hg]
    exact h

/-- **Every state that such a run can reach keeps to the order**, by induction on the turns. -/
theorem enumerates_after (hqueue : checkName "queue" queue = .ok ())
    (hgroup : checkName "group" group = .ok ()) (hrun : UnmixedRun q queue group leased turns) {now : Instant}
    (hnow : ∀ x ∈ turns, x.now ≤ now) :
    (groupAfter q queue group turns).Enumerates leased now (handed q queue group turns) := by
  induction turns using List.reverseRecOn generalizing now with
  | nil => exact GroupContents.enumerates_fresh leased now
  | append_singleton turns t ih =>
      have hbefore := ih hrun.before hrun.reached
      exact (enumerates_concat hqueue hgroup hrun hbefore).later
        (hnow t (List.mem_append_right _ (List.mem_singleton.mpr rfl)))

/-- Events have been handed out in order. -/
theorem handed_increasing (hqueue : checkName "queue" queue = .ok ())
    (hgroup : checkName "group" group = .ok ()) (hrun : UnmixedRun q queue group leased turns) :
    (handed q queue group turns).Pairwise (· < ·) := by
  cases turns using List.reverseRecOn with
  | nil => exact .nil
  | append_singleton turns t =>
      have hnow : ∀ x ∈ turns ++ [t], x.now ≤ t.now := by
        rw [List.forall_mem_append, List.forall_mem_singleton]
        exact ⟨hrun.reached, Int.le_refl _⟩
      exact (enumerates_after hqueue hgroup hrun hnow).increasing

end Session

/-! ## In order, and without a gap -/

/-- **A group is handed the events of its queue in order.** In every run without failing calls and with a clock
    that does not go back, where the gets of a group are all without a deadline (`leased = false`), or all with
    one while nobody acknowledges or sweeps for the group (`leased = true`): each get returns the least live
    event in the queue that is later than all that the group was returned before, and nothing exactly if there
    is none. So the events are returned in strictly increasing order. Other groups may do anything, and so may
    services in other namespaces, as long as no namespace is another one with a queue attached. The reading that a
    get takes for its plan and the one that the store takes for the payload are one: `t.now`. -/
theorem handed_in_order {q : Queue} {queue group : String} {leased : Bool} {turns : List Turn}
    (hqueue : checkName "queue" queue = .ok ()) (hgroup : checkName "group" group = .ok ())
    (hrun : Session.UnmixedRun q queue group leased turns) :
    (Session.handed q queue group turns).Pairwise (· < ·)
      ∧ ∀ before t later, turns = before ++ t :: later → t.GetsFor q queue group →
        let ahead := (Session.groupAfter q queue group before).ahead t.now
          (Session.handed q queue group before)
        ∃ event?, ((Session.after before).turn t).1 = .ok (.event event?)
          ∧ match event? with
            | some event => IsLeast ahead event.id
            | none => ahead = ∅ := by
  refine ⟨Session.handed_increasing hqueue hgroup hrun, ?_⟩
  rintro before t later rfl ⟨hbase, hgets⟩
  intro ahead
  have hreached := hrun.reached
  rw [List.append_cons] at hrun
  have hbefore := hrun.before.before
  have hinv := Session.enumerates_after hqueue hgroup hbefore hreached
  have hnatural := Session.natural_state_after hbefore.operations hbefore.apart
    (colonFree_of_checkName hqueue) (colonFree_of_checkName hgroup)
  cases hrequest : t.request with
  | get cmd =>
      obtain ⟨rfl, rfl⟩ : cmd.queue = queue ∧ cmd.group = group := by rwa [hrequest] at hgets
      have hlast : t.now < Instant.latest :=
        hrun.before.last t (List.mem_append_right _ (List.mem_singleton.mpr rfl)) ⟨hbase, hgets⟩
      obtain ⟨event?, hreply, hturn, -⟩ := Session.get_of_faultless hrun.before.run hreached hlast
        hbefore.apart hbase hrequest hqueue hgroup
      refine ⟨event?, hreply, ?_⟩
      cases event? with
      | some event => exact hinv.isLeast_next hnatural (Int.le_refl _) hturn.symm
      | none => exact hinv.ahead_of_next_none hnatural (Int.le_refl _) hturn.symm
  | _ => simp [hrequest, Request.gets] at hgets

/-- A group takes an event without a deadline. Once it has expired, and left nothing behind, the group goes on
    with the next one; an event that another group has in progress makes no difference. -/
theorem handed_in_order_expired :
    let q : Queue := {}
    let turn (micros : Int) (request : Request) : Turn := { queue := q, now := .ofMicros micros, request }
    let add (now micros : Int) :=
      turn now (.add { queue := "q", expire := .ofMicros micros, contents := "x" })
    let get (now : Int) (group : String) (deadline : Option Int) :=
      turn now (.get { queue := "q", group, deadline := deadline.map Instant.ofMicros })
    let before := [add 1000 5000, add 1000 9000, get 1000 "g" none, get 1000 "h" (some 2000), add 6000 7000]
    let t := get 6000 "g" none
    let handed := Session.handed q "q" "g" (before ++ [t])
    handed = [⟨5000⟩, ⟨9000⟩] ∧ handed.Pairwise (· < ·)
      ∧ IsLeast ((Session.groupAfter q "q" "g" before).ahead t.now [⟨5000⟩]) ⟨9000⟩ := by
  intro q turn add get before t handed
  have hcolon : ∀ x ∈ before ++ [t], ColonFree x.queue.base := by decide
  have hrun : Session.UnmixedRun q "q" "g" false (before ++ [t]) := {
    run := by decide
    clock := by decide
    last := by decide
    apart := fun x hx => Queue.apart_of_colonFree (hcolon x hx) (by decide)
    unmixed := by simp [before, t, add, get, turn, Request.Unmixed] }
  obtain ⟨hincreasing, hleast⟩ := handed_in_order (by decide +kernel) (by decide +kernel) hrun
  have hreply : ((Session.after before).turn t).1 = .ok (.event (some (.new ⟨9000⟩ "x"))) := by decide +kernel
  have hbefore : Session.handed q "q" "g" before = [⟨5000⟩] := by decide +kernel
  obtain ⟨event?, htold, hturn⟩ := hleast before t [] rfl (by decide)
  rw [hreply] at htold
  cases htold
  rw [hbefore] at hturn
  exact ⟨by decide +kernel, hincreasing, hturn⟩

/-- **At the end of the clock, and where namespaces overlap, the next event ahead is not what a get returns.** At
    the last instant there is, an event can be ahead whose identifier is beyond that instant, while its expiry
    is not, so its payload is gone. And a group named like a shared set is handed an event that was never in
    its queue, if another namespace is its own with the queue attached. -/
theorem not_handed_at_latest :
    let q : Queue := {}
    let outer : Queue := { base := "b" }
    let inner : Queue := { base := "b:q" }
    let turn (q : Queue) (now : Instant) (request : Request) : Turn := { queue := q, now, request }
    let add (q : Queue) (queue : String) (expire : Instant) :=
      turn q (.ofMicros 1000) (.add { queue, expire, contents := "x" })
    let late := [add q "q" .latest, add q "q" .latest]
    let atEnd := turn q .latest (.get { queue := "q", group := "g" })
    let foreign := [add inner "redo" (.ofMicros 5000)]
    let across := turn outer (.ofMicros 1000) (.get { queue := "q", group := "available" })
    (∀ x ∈ late ++ [atEnd] ++ foreign ++ [across], x.request.isOperation = true ∧ x.faults = []
        ∧ ∀ group, x.request.Unmixed false "q" group)
      ∧ (late ++ [atEnd]).Pairwise (fun x y => x.now ≤ y.now)
      ∧ (foreign ++ [across]).Pairwise (fun x y => x.now ≤ y.now)
      ∧ IsLeast ((Session.groupAfter q "q" "g" late).ahead .latest (Session.handed q "q" "g" late))
          ⟨8210266876800000000⟩
      ∧ ((Session.after late).turn atEnd).1 = .error (.payloadMissing ⟨8210266876800000000⟩)
      ∧ (Session.groupAfter outer "q" "available" foreign).ahead (.ofMicros 1000)
          (Session.handed outer "q" "available" foreign) = ∅
      ∧ ((Session.after foreign).turn across).1 = .ok (.event (some (.new ⟨5000⟩ "x"))) := by
  intro q outer inner turn add late atEnd foreign across
  refine ⟨?_, by decide, by decide, ⟨⟨by decide +kernel, by decide, ?_⟩, fun x hx => ?_⟩, by decide +kernel,
    ?_, by decide +kernel⟩
  · simp [late, atEnd, foreign, across, add, turn, Request.Unmixed, Request.isOperation]
  · have hnone : Session.handed q "q" "g" late = [] := by decide +kernel
    simp [hnone]
  · -- whatever is alive at the last instant is beyond it
    exact hx.2.1
  · have hempty : (Session.groupAfter outer "q" "available" foreign).available = ∅ :=
      Contents.first?_eq_none_iff.mp (by decide +kernel)
    refine Set.eq_empty_iff_forall_notMem.mpr fun x hx => ?_
    exact Contents.eq_empty_iff.mp hempty x hx.1

end GroupQueue
