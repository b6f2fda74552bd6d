import GroupQueue.Proofs.Session.Enumeration
import GroupQueue.Proofs.Session.Independence

/-!
# `Proofs.Session.Purging` — a sweep that puts nothing back goes unnoticed

A sweep does two things: it puts the overdue events of a group back, and it takes what has expired out of the
group's sets. The second is for the sake of space only. To every group a store looks the same after it
(`Memory.Alike`), so whatever is requested later, by any service, ends alike with the sweep and without it.
This takes services in namespaces that do not overlap. Where they do, a set that one group purges may be the
record of what another has in progress (`requeued_across_namespaces`).

The two runs are followed turn by turn. The relation between their stores is that they look alike to every
group of every service of the run; a turn keeps it, for the group that it is made for and for all others.

## Contents
- `Request.regards_of_accepted` — an accepted command regards some group.
- `Session.AllAlike` — two runs have led to stores that look alike to all groups.
- `Session.endsAlike_of_command` — a turn ends alike, and keeps the runs alike.
- `Session.allAlike_of_sweep` — a sweep that requeues nothing leaves the runs alike.
- `answers_without_sweep` — a run without the sweep; `requeued_across_namespaces`.
-/

namespace GroupQueue

/-- A command that is accepted regards some group: the one it is made for, or any if it adds an event or
    counts what all groups share. -/
theorem Request.regards_of_accepted {request : Request} (h : request.isCommand = true)
    (haccepted : request.Accepted) :
    ∃ queue group, ColonFree queue ∧ ColonFree group ∧ request.regards queue group = true := by
  cases request with
  | add cmd => exact ⟨"", "", by decide, by decide, rfl⟩
  | get cmd | ack cmd | sweep queue group =>
      refine ⟨_, _, colonFree_of_checkName haccepted.1, colonFree_of_checkName haccepted.2, ?_⟩
      simp [regards, pair?]
  | len queue role group =>
      have hqueue := colonFree_of_checkName haccepted.1
      by_cases hrole : role = .available
      · refine ⟨queue, "", hqueue, by decide, ?_⟩
        simp [regards, hrole]
      · have hgroup := colonFree_of_checkName (haccepted.2 (Role.isPerGroup_iff.mpr hrole))
        refine ⟨queue, group, hqueue, hgroup, ?_⟩
        simp [regards, hrole, pair?]
  | _ => cases h

namespace Session

/-- What the callers of some turns are told, but for the numbers of events purged. -/
def answersFrom (session : Session) (turns : List Turn) : List (Turn × Except Failure Response) :=
  (session.transcript turns).map fun entry => (entry.1, entry.2.map Response.withoutPurged)

/-- Two runs have led to stores that look alike, at a clock reading, to every group of some services. -/
def AllAlike (services : List Queue) (now : Instant) (turns turns' : List Turn) : Prop :=
  ∀ q ∈ services, ∀ queue group, ColonFree queue → ColonFree group →
    (after turns).memory.Alike (q.groupSets queue group) now (after turns').memory

section TwoRuns

variable {services : List Queue} {turns turns' : List Turn} {t : Turn} {now : Instant}

/-- What looks alike to all groups goes on looking alike. -/
theorem AllAlike.mono (h : AllAlike services now turns turns') {later : Instant} (hle : now ≤ later) :
    AllAlike services later turns turns' :=
  fun q hq queue group hqueue hgroup => (h q hq queue group hqueue hgroup).mono hle

/-- Seen from another namespace, stores look alike after a turn if they did before, and if they agree on the
    payloads and on the last identifier. -/
theorem alike_of_apart {q : Queue} {queue group : String} (hqueue : ColonFree queue) (hgroup : ColonFree group)
    (hop : ∀ x ∈ turns, x.request.isOperation = true) (ht : t.request.isOperation = true)
    (hapart : t.queue.Apart q) (hbase : t.queue.base ≠ q.base) {memory : Memory} {sets : GroupSets}
    (hends : (after (turns ++ [t])).memory.Alike sets now memory)
    (hcontents : (groupAfter q queue group turns).dropExpired now
      = (GroupContents.of memory.sets.contents (q.groupSets queue group)).dropExpired now) :
    (after (turns ++ [t])).memory.Alike (q.groupSets queue group) now memory := by
  have hstay := group_of_apart (List.forall_mem_append.mpr ⟨hop, List.forall_mem_singleton.mpr ht⟩) hapart
    hbase hqueue hgroup
  refine ⟨?_, hends.payloads⟩
  have hdrop : (groupAfter q queue group (turns ++ [t])).dropExpired now
      = (GroupState.of memory (q.groupSets queue group)).dropExpired now := by
    rw [hstay]
    exact hcontents
  exact congrArg₂ GroupState.mk hdrop hends.lastId

/-- **A turn ends alike, and keeps two runs alike.** Its caller is told the same in both, but for what has been
    purged, and the stores look alike again to every group of every service. -/
theorem endsAlike_of_command (hapart : ∀ q ∈ services, ∀ q' ∈ services, q.Apart q')
    (hturns : ∀ x ∈ turns, x.request.isOperation = true ∧ x.faults = [])
    (hturns' : ∀ x ∈ turns', x.request.isOperation = true ∧ x.faults = [])
    (hcommand : t.request.isCommand = true) (hfaults : t.faults = []) (hservice : t.queue ∈ services)
    (halike : AllAlike services t.now turns turns') :
    ((after turns).turn t).1.map Response.withoutPurged
        = ((after turns').turn t).1.map Response.withoutPurged
      ∧ AllAlike services t.now (turns ++ [t]) (turns' ++ [t]) := by
  have ht := Request.isOperation_of_isCommand hcommand
  have hop : ∀ x ∈ turns, x.request.isOperation = true := fun x hx => (hturns x hx).1
  have hop' : ∀ x ∈ turns', x.request.isOperation = true := fun x hx => (hturns' x hx).1
  by_cases haccepted : t.request.Accepted
  · obtain ⟨queue₀, group₀, hqueue₀, hgroup₀, hregards₀⟩ := Request.regards_of_accepted hcommand haccepted
    obtain ⟨hreply, hown⟩ := endsAlike_of_turn hqueue₀ hgroup₀ hturns hturns' rfl hfaults hregards₀
      (halike t.queue hservice queue₀ group₀ hqueue₀ hgroup₀)
    refine ⟨hreply, fun q hq queue group hqueue hgroup => ?_⟩
    have hbefore := halike q hq queue group hqueue hgroup
    by_cases hbase : t.queue.base = q.base
    · cases hregards : t.request.regards queue group with
      | true => exact (endsAlike_of_turn hqueue hgroup hturns hturns' hbase hfaults hregards hbefore).2
      | false =>
          -- the turn is for others, in both runs
          have hother := Request.pair?_of_not_regards hcommand hregards
          have hforeign := alike_of_foreign hqueue hgroup hop ⟨ht, hbase⟩ hother
          have hforeign' := alike_of_foreign hqueue hgroup hop' ⟨ht, hbase⟩ hother
          exact hforeign.symm.trans (hbefore.trans hforeign')
    · have hstay := group_of_apart (List.forall_mem_append.mpr ⟨hop', List.forall_mem_singleton.mpr ht⟩)
        (hapart t.queue hservice q hq) hbase hqueue hgroup
      refine alike_of_apart hqueue hgroup hop ht (hapart t.queue hservice q hq) hbase hown ?_
      show _ = (groupAfter q queue group (turns' ++ [t])).dropExpired t.now
      rw [hstay]
      exact hbefore.dropExpired
  · -- a request that is refused changes nothing, and the reason does not depend on the store
    obtain ⟨reason, hrefused⟩ := (Request.refused haccepted t.queue t.now).converse
    obtain ⟨hreply, hmemory, -⟩ := turn_of_faultless (faults_after fun x hx => (hturns x hx).2) hfaults
    obtain ⟨hreply', hmemory', -⟩ := turn_of_faultless (faults_after fun x hx => (hturns' x hx).2) hfaults
    rw [hrefused] at hreply hmemory hreply' hmemory'
    rw [hreply, hreply']
    refine ⟨rfl, fun q hq queue group hqueue hgroup => ?_⟩
    rw [after_concat, after_concat, hmemory, hmemory']
    exact halike q hq queue group hqueue hgroup

/-- **A sweep that requeues nothing leaves a store alike** to all groups. -/
theorem allAlike_of_sweep (hapart : ∀ q ∈ services, ∀ q' ∈ services, q.Apart q')
    (hturns : ∀ x ∈ turns, x.request.isOperation = true ∧ x.faults = []) (hfaults : t.faults = [])
    (hservice : t.queue ∈ services) {queue group : String} (hrequest : t.request = .sweep queue group)
    (hnone : ∀ report, ((after turns).turn t).1 = .ok (.swept report) → report.requeued = 0) :
    AllAlike services t.now turns (turns ++ [t]) := by
  have hop : ∀ x ∈ turns, x.request.isOperation = true := fun x hx => (hturns x hx).1
  have ht : t.request.isOperation = true := by rw [hrequest]; rfl
  obtain ⟨hreply, hmemory, -⟩ := turn_of_faultless (faults_after fun x hx => (hturns x hx).2) hfaults
  by_cases haccepted : t.request.Accepted
  · rw [hrequest] at haccepted
    have hqueue₀ := colonFree_of_checkName haccepted.1
    have hgroup₀ := colonFree_of_checkName haccepted.2
    obtain ⟨purged, sets, hsweep, hcontents⟩ :=
      @Memory.converse_sweep t.queue t.now _ _ _ (sound_after hop) haccepted.1 haccepted.2
    rw [hrequest, Request.perform, Memory.converse_mapResult, hsweep] at hreply hmemory
    rw [← after_concat] at hmemory
    -- nothing is overdue, so all that happens to the sets of the group is that they are purged
    have hoverdue : (groupAfter t.queue queue group turns).overdue t.now = [] :=
      List.length_eq_zero_iff.mp (hnone _ hreply)
    have hrequeue : (groupAfter t.queue queue group turns).requeue t.now
        = (groupAfter t.queue queue group turns).toGroupContents :=
      GroupContents.requeue_of_overdue_eq_nil hoverdue
    have hown : (after (turns ++ [t])).memory.Alike (t.queue.groupSets queue group) t.now
        (after turns).memory := by
      refine ⟨?_, fun id => by rw [hmemory]⟩
      rw [hmemory, GroupState.of_eq hcontents rfl]
      show GroupState.aged { (groupAfter t.queue queue group turns).requeue t.now with
        available := _, redo := ((groupAfter t.queue queue group turns).requeue t.now).redo.live t.now
        done := _, lastId := _ } t.now = _
      rw [hrequeue]
      simp only [GroupState.aged, GroupContents.dropExpired, Contents.live_live]
      rfl
    intro q hq queue' group' hqueue hgroup
    by_cases hbase : t.queue.base = q.base
    · by_cases hsame : (queue, group) = (queue', group')
      · cases hsame
        rw [← Queue.groupSets_of_base hbase]
        exact hown.symm
      · refine alike_of_foreign hqueue hgroup hop ⟨ht, hbase⟩ ⟨(queue, group), ?_, hsame⟩
        rw [hrequest]
        rfl
    · exact (alike_of_apart hqueue hgroup hop ht (hapart t.queue hservice q hq) hbase hown rfl).symm
  · obtain ⟨reason, hrefused⟩ := (Request.refused haccepted t.queue t.now).converse
    rw [hrefused] at hmemory
    intro q hq queue' group' hqueue hgroup
    rw [after_concat, hmemory]
    exact .refl _ _ _

/-- **Runs that look alike go on alike**, by induction on the turns that are still to come. -/
theorem answersFrom_of_allAlike (hapart : ∀ q ∈ services, ∀ q' ∈ services, q.Apart q')
    (hturns : ∀ x ∈ turns, x.request.isOperation = true ∧ x.faults = [])
    (hturns' : ∀ x ∈ turns', x.request.isOperation = true ∧ x.faults = []) {later : List Turn}
    (hlater : ∀ x ∈ later, x.request.isCommand = true ∧ x.faults = [] ∧ x.queue ∈ services)
    (hnow : ∀ x ∈ later, now ≤ x.now) (hclock : later.Pairwise fun x y => x.now ≤ y.now)
    (halike : AllAlike services now turns turns') :
    (after turns).answersFrom later = (after turns').answersFrom later := by
  induction later generalizing turns turns' now with
  | nil => rfl
  | cons t later ih =>
      obtain ⟨⟨hcommand, hfaults, hservice⟩, hrest⟩ := List.forall_mem_cons.mp hlater
      obtain ⟨hfirst, hclock⟩ := List.pairwise_cons.mp hclock
      obtain ⟨hreply, hnext⟩ := endsAlike_of_command hapart hturns hturns' hcommand hfaults hservice
        (halike.mono (hnow t List.mem_cons_self))
      have hone : ∀ x ∈ [t], x.request.isOperation = true ∧ x.faults = [] :=
        List.forall_mem_singleton.mpr ⟨Request.isOperation_of_isCommand hcommand, hfaults⟩
      have htail := ih (List.forall_mem_append.mpr ⟨hturns, hone⟩) (List.forall_mem_append.mpr ⟨hturns', hone⟩)
        hrest hfirst hclock hnext
      rw [answersFrom, answersFrom] at htail ⊢
      rw [transcript_cons, transcript_cons, List.map_cons, List.map_cons, htail, hreply]

end TwoRuns

end Session

/-- **A sweep that requeues nothing makes no difference later.** Take any run of commands, without failing calls
    and with a clock that does not go back, to any number of services in namespaces that do not overlap, and put
    a sweep of any group in between. If the sweep requeues nothing, everyone is told the same after it as without
    it: the same identifiers, events, acknowledgements and counts, and of every later sweep how many events it has
    requeued. Only how many expired events a sweep has purged may differ. -/
theorem answers_without_sweep {turns later : List Turn} {sweep : Turn} {queue group : String}
    (hrun : ∀ x ∈ turns ++ sweep :: later, x.request.isCommand = true ∧ x.faults = [])
    (hclock : (turns ++ sweep :: later).Pairwise fun x y => x.now ≤ y.now)
    (hapart : ∀ x ∈ turns ++ sweep :: later, ∀ y ∈ turns ++ sweep :: later, x.queue.Apart y.queue)
    (hsweep : sweep.request = .sweep queue group)
    (hnone : ∀ report, ((Session.after turns).turn sweep).1 = .ok (.swept report) → report.requeued = 0) :
    (Session.after (turns ++ [sweep])).answersFrom later = (Session.after turns).answersFrom later := by
  let services := (turns ++ sweep :: later).map Turn.queue
  have hservices : ∀ q ∈ services, ∀ q' ∈ services, q.Apart q' := by
    intro q hq q' hq'
    obtain ⟨x, hx, rfl⟩ := List.mem_map.mp hq
    obtain ⟨y, hy, rfl⟩ := List.mem_map.mp hq'
    exact hapart x hx y hy
  have hservice : ∀ x ∈ turns ++ sweep :: later, x.queue ∈ services := fun x hx => List.mem_map_of_mem hx
  rw [List.forall_mem_append, List.forall_mem_cons] at hrun hservice
  obtain ⟨hturns, hone, hlater⟩ := hrun
  have hop : ∀ x ∈ turns, x.request.isOperation = true ∧ x.faults = [] :=
    fun x hx => ⟨Request.isOperation_of_isCommand (hturns x hx).1, (hturns x hx).2⟩
  have hopAll : ∀ x ∈ turns ++ [sweep], x.request.isOperation = true ∧ x.faults = [] :=
    List.forall_mem_append.mpr
      ⟨hop, List.forall_mem_singleton.mpr ⟨Request.isOperation_of_isCommand hone.1, hone.2⟩⟩
  obtain ⟨hfirst, hclock⟩ := List.pairwise_cons.mp (List.pairwise_append.mp hclock).2.1
  have halike := Session.allAlike_of_sweep hservices hop hone.2 hservice.2.1 hsweep hnone
  exact (Session.answersFrom_of_allAlike hservices hop hopAll
    (fun x hx => ⟨(hlater x hx).1, (hlater x hx).2, hservice.2.2 x hx⟩) hfirst hclock halike).symm

/-- An event goes back to a group, and expires before it is taken again. A sweep takes it out of the group's
    sets. Without the sweep, the next get passes over it, and it is not counted either. -/
theorem answers_without_sweep_expired :
    let q : Queue := {}
    let turn (micros : Int) (request : Request) : Turn := { queue := q, now := .ofMicros micros, request }
    let add (queue : String) (micros : Int) :=
      turn 1000 (.add { queue, expire := .ofMicros micros, contents := "x" })
    let get (now : Int) (deadline : Int) :=
      turn now (.get { queue := "q", group := "g", deadline := some (.ofMicros deadline) })
    let turns := [add "q" 5000, add "q" 9000, { add "q" 9000 with queue := { base := "r" } }, get 1000 1500,
      turn 2000 (.sweep "q" "g")]
    let sweep := turn 6000 (.sweep "q" "g")
    let later := [turn 6000 (.len "q" .redo "g"), get 6000 6500, turn 7000 (.sweep "q" "g"),
      turn 7000 (.ack { queue := "q", group := "g", event := ⟨9000⟩ })]
    (∀ x ∈ turns ++ sweep :: later, x.request.isCommand = true ∧ x.faults = [])
      ∧ ((turns ++ sweep :: later).Pairwise fun x y => x.now ≤ y.now)
      ∧ ((Session.after turns).turn sweep).1 = .ok (.swept { purged := 2 })
      ∧ ((Session.after turns).answersFrom later).map Prod.snd
        = [.ok (.count 0), .ok (.event (some (.new ⟨9000⟩ "x"))), .ok (.swept { requeued := 1 }),
          .ok (.acknowledged false)]
      ∧ (Session.after (turns ++ [sweep])).answersFrom later = (Session.after turns).answersFrom later := by
  intro q turn add get turns sweep later
  have hrun : ∀ x ∈ turns ++ sweep :: later, x.request.isCommand = true ∧ x.faults = [] := by decide
  have hclock : (turns ++ sweep :: later).Pairwise fun x y => x.now ≤ y.now := by decide
  have hcolon : ∀ x ∈ turns ++ sweep :: later, ColonFree x.queue.base := by decide
  have hapart : ∀ x ∈ turns ++ sweep :: later, ∀ y ∈ turns ++ sweep :: later, x.queue.Apart y.queue :=
    fun x hx y hy => Queue.apart_of_colonFree (hcolon x hx) (hcolon y hy)
  have hreply : ((Session.after turns).turn sweep).1 = .ok (.swept { purged := 2 }) := by decide +kernel
  have hnone : ∀ report, ((Session.after turns).turn sweep).1 = .ok (.swept report) → report.requeued = 0 := by
    intro report hreport
    rw [hreply] at hreport
    cases hreport
    rfl
  exact ⟨hrun, hclock, hreply, by decide +kernel, answers_without_sweep hrun hclock hapart rfl hnone⟩

/-- **Where namespaces overlap, a sweep that requeues nothing can be noticed.** It purges the shared set of its
    queue. That is also where a group in another namespace records until when an event is to be acknowledged. So
    the event is never put back, and the group is not handed it again. -/
theorem requeued_across_namespaces :
    let q : Queue := { base := "b" }
    let q' : Queue := { base := "b:p" }
    let turn (q : Queue) (micros : Int) (request : Request) : Turn :=
      { queue := q, now := .ofMicros micros, request }
    let turns := [turn q 1000 (.add { queue := "p", expire := .ofMicros 5000, contents := "x" }),
      turn q 1000 (.get { queue := "p", group := "available", deadline := some (.ofMicros 1500) })]
    let sweep := turn q' 2000 (.sweep "inprog_ack" "g")
    let later := [turn q 2000 (.sweep "p" "available"),
      turn q 2000 (.get { queue := "p", group := "available" })]
    (∀ x ∈ turns ++ sweep :: later, x.request.isCommand = true ∧ x.faults = [] ∧ x.request.Accepted)
      ∧ ((turns ++ sweep :: later).Pairwise fun x y => x.now ≤ y.now)
      ∧ ((Session.after turns).turn sweep).1 = .ok (.swept { requeued := 0, purged := 1 })
      ∧ ((Session.after turns).answersFrom later).map Prod.snd
        = [.ok (.swept { requeued := 1 }), .ok (.event (some (.new ⟨5000⟩ "x")))]
      ∧ ((Session.after (turns ++ [sweep])).answersFrom later).map Prod.snd
        = [.ok (.swept { requeued := 0 }), .ok (.event none)] := by
  intro q q' turn turns sweep later
  have hnames : ∀ name ∈ ["p", "inprog_ack"], checkName "queue" name = .ok () := by decide +kernel
  have hgroups : ∀ name ∈ ["g", "available"], checkName "group" name = .ok () := by decide +kernel
  refine ⟨?_, by decide, by decide +kernel, by decide +kernel, by decide +kernel⟩
  simp [turns, sweep, later, turn, Request.isCommand, Request.Accepted, hnames, hgroups]

end GroupQueue
