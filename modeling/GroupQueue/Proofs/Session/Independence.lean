import GroupQueue.Proofs.Session.Backing
import GroupQueue.Proofs.Session.Faultless
import GroupQueue.Proofs.Session.Foreign
import GroupQueue.Proofs.Session.Moves
import GroupQueue.Proofs.Session.Sweeping

/-!
# `Proofs.Session.Independence` — consumer groups do not interfere

Two stores look **alike** to a consumer group at a clock reading if its sets hold the same in both, but for
what has expired, if the same payloads are kept in both, and if the same identifier was issued last. Whatever
is requested for another group leaves a store alike. A request that regards the group ends alike in stores
that are alike: the caller is told the same, but for how many expired events a sweep has found, and the stores
look alike again. So a run can do without the requests that are made for others.

## Contents
- `Request.isCommand`, `Request.pair?`, `Request.regards` — whom requests are made for.
- `GroupState.aged`, `Move.aged_apply` — what has expired has no influence on any move.
- `Memory.Alike` — stores that look alike to a group; `Alike.mono`.
- `Alike.add`, `get`, `ack`, `sweep`, `len`, `Alike.request` — requests end alike.
- `Session.alike_of_foreign` — requests for others leave a store alike.
- `answers_without_foreign` — a run without requests for others.
-/

namespace GroupQueue

/-! ## Whom requests are made for -/

namespace Request

/-- Whether a request is a single operation of a queue on its sets. -/
def isCommand : Request → Bool
  | .add _ | .get _ | .ack _ | .sweep _ _ | .len _ _ _ => true
  | _ => false

/-- The queue and the group that a request is made for. An event is added for no group. -/
def pair? : Request → Option (String × String)
  | .get cmd => some (cmd.queue, cmd.group)
  | .ack cmd => some (cmd.queue, cmd.group)
  | .sweep queue group | .len queue _ group => some (queue, group)
  | _ => none

/-- Whether what a request comes to is of interest to a group: it is made for the group, or adds an event,
    or counts what is available to the group. -/
def regards (queue group : String) : Request → Bool
  | .add _ => true
  | .len queue' .available _ => queue' == queue
  | request => request.pair? == some (queue, group)

theorem isOperation_of_isCommand {request : Request} (h : request.isCommand = true) :
    request.isOperation = true := by
  cases request <;> trivial

/-- A request concerns no group but the one that it is made for. -/
theorem pair_eq_of_concerns {request : Request} {queue group : String} {pair : String × String}
    (hpair : request.pair? = some pair) (h : request.concerns queue group) : pair = (queue, group) := by
  cases request with
  | get cmd | ack cmd | sweep queue' group' =>
      cases hpair
      simpa [concerns, gets, acks, sweeps] using h
  | len queue' role group' => simp [concerns, gets, acks, sweeps] at h
  | _ => cases hpair

/-- All other commands are made for other groups. -/
theorem pair?_of_not_regards {request : Request} {queue group : String} (h : request.isCommand = true)
    (hother : request.regards queue group = false) :
    ∃ pair, request.pair? = some pair ∧ pair ≠ (queue, group) := by
  cases request with
  | add cmd => cases hother
  | get cmd | ack cmd | sweep queue' group' =>
      exact ⟨_, rfl, by simpa [regards, pair?] using hother⟩
  | len queue' role group' =>
      refine ⟨_, rfl, ?_⟩
      rintro ⟨rfl, rfl⟩
      cases role <;> simp [regards, pair?] at hother
  | _ => cases h

end Request

/-- A response without the number of expired events that a sweep has taken out of sets. -/
def Response.withoutPurged : Response → Response
  | .swept report => .swept { report with purged := 0 }
  | response => response

/-! ## What has expired -/

/-- A group as it is seen at a clock reading: without what has expired. -/
def GroupState.aged (s : GroupState) (now : Instant) : GroupState :=
  { s with toGroupContents := s.dropExpired now }

namespace GroupState

variable {s s' : GroupState} {now : Instant}

theorem aged_aged_of_le (s : GroupState) {later : Instant} (hle : now ≤ later) :
    (s.aged now).aged later = s.aged later := by
  simp only [aged, GroupContents.dropExpired, Contents.live_live_of_le _ hle]

theorem dropExpired_aged (s : GroupState) (now : Instant) :
    (s.aged now).dropExpired now = s.dropExpired now :=
  GroupContents.dropExpired_dropExpired _ now

theorem dequeue_aged (s : GroupState) (now : Instant) (deadline : Option Instant) :
    (s.aged now).dequeue now deadline = s.dequeue now deadline := by
  rw [GroupContents.dequeue, dropExpired_aged, GroupContents.dequeue]

end GroupState

/-- **What has expired has no influence on a move.** -/
theorem Move.aged_apply {now : Instant} {request : Request} {queue group : String} {move : Move}
    (h : move.stemsFrom now request queue group) (s : GroupState) :
    (move.apply (s.aged now)).aged now = (move.apply s).aged now := by
  cases move with
  | issue id => simp only [GroupState.aged, apply, GroupContents.dropExpired, Contents.live_live]
  | offer id =>
      simp only [GroupState.aged, apply, GroupContents.dropExpired, Contents.live_insert, Contents.live_live]
  | age t =>
      obtain rfl : t = now := h
      simp only [GroupState.aged, apply, GroupContents.dropExpired, Contents.live_live]
  | dequeue t deadline =>
      obtain rfl := h.1
      rw [apply, GroupState.dequeue_aged]
      rfl
  | settle t event =>
      obtain rfl := h.1
      rw [apply, apply, GroupContents.settle, GroupContents.settle]
      show GroupState.aged { (s.aged t) with
        toGroupContents := if s.inTime t event then _ else (s.aged t).toGroupContents } t = _
      split <;> simp only [GroupState.aged, GroupContents.dropExpired, Contents.live_insert,
        Contents.live_erase, Contents.live_live]
  | requeue t =>
      obtain rfl := h.1
      simp only [GroupState.aged, apply, GroupContents.dropExpired, GroupContents.requeue,
        GroupContents.overdue, Contents.live_without, Contents.live_upsert_live, Contents.live_live]
  | purgeRedo t | purgeDone t =>
      obtain rfl := h.1
      simp only [GroupState.aged, apply, GroupContents.dropExpired, Contents.live_live]

/-- So a move leads groups that are seen alike to groups that are seen alike. -/
theorem Move.aged_congr {now : Instant} {request : Request} {queue group : String} {move : Move}
    (hstems : move.stemsFrom now request queue group) {s s' : GroupState} (h : s.aged now = s'.aged now) :
    (move.apply s).aged now = (move.apply s').aged now := by
  rw [← aged_apply hstems, h, aged_apply hstems]

/-! ## Stores that look alike -/

/-- Two stores look alike to a group at a clock reading. -/
structure Memory.Alike (sets : GroupSets) (now : Instant) (memory memory' : Memory) : Prop where
  state : (GroupState.of memory sets).aged now = (GroupState.of memory' sets).aged now
  payloads : ∀ id, memory.payloads.find? now id = memory'.payloads.find? now id

namespace Memory.Alike

variable {sets : GroupSets} {now : Instant} {memory memory' memory'' : Memory}

theorem refl (sets : GroupSets) (now : Instant) (memory : Memory) : memory.Alike sets now memory :=
  ⟨rfl, fun _ => rfl⟩

theorem symm (h : memory.Alike sets now memory') : memory'.Alike sets now memory :=
  ⟨h.state.symm, fun id => (h.payloads id).symm⟩

theorem trans (h : memory.Alike sets now memory') (h' : memory'.Alike sets now memory'') :
    memory.Alike sets now memory'' :=
  ⟨h.state.trans h'.state, fun id => (h.payloads id).trans (h'.payloads id)⟩

/-- What looks alike goes on looking alike. -/
theorem mono (h : memory.Alike sets now memory') {later : Instant} (hle : now ≤ later) :
    memory.Alike sets later memory' := by
  refine ⟨?_, fun id => ?_⟩
  · rw [← GroupState.aged_aged_of_le _ hle, h.state, GroupState.aged_aged_of_le _ hle]
  · rw [Payloads.find?_of_le _ hle, h.payloads id, Payloads.find?_of_le _ hle]

theorem lastId (h : memory.Alike sets now memory') : memory.lastId = memory'.lastId :=
  congrArg GroupState.lastId h.state

theorem inTime (h : memory.Alike sets now memory') (event : EventId) :
    (GroupContents.of memory.sets.contents sets).inTime now event
      = (GroupContents.of memory'.sets.contents sets).inTime now event :=
  have hseen := congrArg (fun s : GroupState => s.inTime now event) h.state
  hseen

theorem overdue (h : memory.Alike sets now memory') :
    (GroupContents.of memory.sets.contents sets).overdue now
      = (GroupContents.of memory'.sets.contents sets).overdue now :=
  have hseen := congrArg (fun s : GroupState => s.overdue now) h.state
  hseen

theorem dropExpired (h : memory.Alike sets now memory') :
    (GroupContents.of memory.sets.contents sets).dropExpired now
      = (GroupContents.of memory'.sets.contents sets).dropExpired now := by
  have hseen := congrArg (fun s : GroupState => s.dropExpired now) h.state
  rw [GroupState.dropExpired_aged, GroupState.dropExpired_aged] at hseen
  exact hseen

/-- The live events of each set are the same. -/
theorem live {q : Queue} {queue group : String} (h : memory.Alike (q.groupSets queue group) now memory')
    (role : Role) : (memory.sets.contents (q.eventSet queue role group).key).live now
      = (memory'.sets.contents (q.eventSet queue role group).key).live now := by
  have hdrop := h.dropExpired
  cases role with
  | available => exact congrArg (fun g : GroupContents => g.available) hdrop
  | inProgressById => exact congrArg (fun g : GroupContents => g.inProgressById) hdrop
  | inProgressByAck => exact congrArg (fun g : GroupContents => g.inProgressByAck.live now) hdrop
  | redo => exact congrArg (fun g : GroupContents => g.redo) hdrop
  | done => exact congrArg (fun g : GroupContents => g.done) hdrop

/-- What is handed out is the same. -/
theorem handOut (h : memory.Alike sets now memory') (next? : Option EventId) :
    memory.handOut now next? = memory'.handOut now next? := by
  cases next? with
  | none => rfl
  | some id => rw [Memory.handOut, h.payloads id, Memory.handOut]

end Memory.Alike

/-! ## Requests end alike -/

/-- A conversation ends alike if its caller is told the same, but for how much has been purged, and the
    stores look alike in the end. -/
structure EndsAlike (sets : GroupSets) (now : Instant) (last last' : Except Failure Response × Memory) :
    Prop where
  reply : last.1.map Response.withoutPurged = last'.1.map Response.withoutPurged
  memory : last.2.Alike sets now last'.2

/-- A sound store, with natural scores where a get for the group has to compare them. -/
structure Memory.Regular (memory : Memory) (sets : GroupSets) : Prop where
  sound : memory.Sound
  inProgressById : (memory.sets.contents sets.inProgressById.key).Natural
  done : (memory.sets.contents sets.done.key).Natural

namespace Memory.Alike

variable {q : Queue} {queue group : String} {now : Instant} {memory memory' : Memory}

theorem add (hqueue : ColonFree queue) (hgroup : ColonFree group)
    (halike : memory.Alike (q.groupSets queue group) now memory') (hsound : memory.Sound)
    (hsound' : memory'.Sound) {cmd : AddCommand} (haccepted : (Request.add cmd).Accepted) :
    EndsAlike (q.groupSets queue group) now
      (memory.converse now ((Request.add cmd).perform q now).run)
      (memory'.converse now ((Request.add cmd).perform q now).run) := by
  obtain ⟨hname, hcontents⟩ := haccepted
  obtain ⟨sets, hadd, hsets⟩ := @Memory.converse_add _ q now hsound cmd hname hcontents
  obtain ⟨sets', hadd', hsets'⟩ := @Memory.converse_add _ q now hsound' cmd hname hcontents
  rw [Request.perform, Memory.converse_mapResult, Memory.converse_mapResult, hadd, hadd']
  rw [← halike.lastId] at hsets' ⊢
  let id := EventId.nextAfter cmd.expire memory.lastId
  have hstems : (if cmd.queue = queue then Move.offer id else Move.issue id).stemsFrom now (.add cmd)
      queue group := by
    split
    · next hsame => exact ⟨cmd, rfl, hsame⟩
    · exact ⟨cmd, rfl⟩
  have hadded := @of_added q queue group hqueue hgroup memory { memory.stored q cmd with sets } cmd id
    (colonFree_of_checkName hname) rfl hsets
  have hadded' := @of_added q queue group hqueue hgroup memory' { memory'.stored q cmd with sets := sets' }
    cmd id (colonFree_of_checkName hname) (congrArg some (congrArg _ halike.lastId.symm)) hsets'
  refine ⟨rfl, ?_, fun x => ?_⟩
  · rw [hadded, hadded']
    have hmoved := Move.aged_congr hstems halike.state
    exact hmoved
  · show (memory.stored q cmd).payloads.find? now x = (memory'.stored q cmd).payloads.find? now x
    rw [Memory.stored, Memory.stored, ← halike.lastId, Payloads.find?_put, Payloads.find?_put,
      halike.payloads x]

theorem get {cmd : GetCommand} (halike : memory.Alike (q.groupSets cmd.queue cmd.group) now memory')
    (hregular : memory.Regular (q.groupSets cmd.queue cmd.group))
    (hregular' : memory'.Regular (q.groupSets cmd.queue cmd.group))
    (haccepted : (Request.get cmd).Accepted) :
    EndsAlike (q.groupSets cmd.queue cmd.group) now
      (memory.converse now ((Request.get cmd).perform q now).run)
      (memory'.converse now ((Request.get cmd).perform q now).run) := by
  obtain ⟨hqueue, hgroup⟩ := haccepted
  obtain ⟨sets, payloads, hget, hcontents, hkept⟩ := @Memory.converse_get _ q now hregular.sound cmd
    hqueue hgroup hregular.inProgressById hregular.done
  obtain ⟨sets', payloads', hget', hcontents', hkept'⟩ := @Memory.converse_get _ q now hregular'.sound cmd
    hqueue hgroup hregular'.inProgressById hregular'.done
  rw [Request.perform, Memory.converse_mapResult, Memory.converse_mapResult, hget, hget']
  refine ⟨?_, ?_, fun id => ?_⟩
  · dsimp only
    rw [halike.dropExpired, halike.handOut]
  · rw [GroupState.of_eq hcontents rfl, GroupState.of_eq hcontents' rfl]
    have hstems : (Move.dequeue now cmd.deadline).stemsFrom now (.get cmd) cmd.queue cmd.group :=
      ⟨rfl, cmd, rfl, rfl, rfl, rfl⟩
    have hmoved := Move.aged_congr hstems halike.state
    exact hmoved
  · exact (hkept now id (Int.le_refl _)).trans
      ((halike.payloads id).trans (hkept' now id (Int.le_refl _)).symm)

theorem ack {cmd : AckCommand} (halike : memory.Alike (q.groupSets cmd.queue cmd.group) now memory')
    (hsound : memory.Sound) (hsound' : memory'.Sound) (haccepted : (Request.ack cmd).Accepted) :
    EndsAlike (q.groupSets cmd.queue cmd.group) now
      (memory.converse now ((Request.ack cmd).perform q now).run)
      (memory'.converse now ((Request.ack cmd).perform q now).run) := by
  obtain ⟨hqueue, hgroup⟩ := haccepted
  obtain ⟨sets, hack, hcontents⟩ := @Memory.converse_ack _ q now hsound cmd hqueue hgroup
  obtain ⟨sets', hack', hcontents'⟩ := @Memory.converse_ack _ q now hsound' cmd hqueue hgroup
  rw [Request.perform, Memory.converse_mapResult, Memory.converse_mapResult, hack, hack']
  refine ⟨?_, ?_, halike.payloads⟩
  · dsimp only
    rw [halike.inTime]
  · rw [GroupState.of_eq hcontents rfl, GroupState.of_eq hcontents' rfl]
    have hstems : (Move.settle now cmd.event).stemsFrom now (.ack cmd) cmd.queue cmd.group :=
      ⟨rfl, cmd, rfl, rfl, rfl, rfl⟩
    have hmoved := Move.aged_congr hstems halike.state
    exact hmoved

theorem sweep (halike : memory.Alike (q.groupSets queue group) now memory') (hsound : memory.Sound)
    (hsound' : memory'.Sound) (haccepted : (Request.sweep queue group).Accepted) :
    EndsAlike (q.groupSets queue group) now
      (memory.converse now ((Request.sweep queue group).perform q now).run)
      (memory'.converse now ((Request.sweep queue group).perform q now).run) := by
  obtain ⟨hqueue, hgroup⟩ := haccepted
  obtain ⟨purged, sets, hsweep, hcontents⟩ := @Memory.converse_sweep q now _ _ _ hsound hqueue hgroup
  obtain ⟨purged', sets', hsweep', hcontents'⟩ := @Memory.converse_sweep q now _ _ _ hsound' hqueue hgroup
  rw [Request.perform, Memory.converse_mapResult, Memory.converse_mapResult, hsweep, hsweep']
  refine ⟨?_, ?_, halike.payloads⟩
  · dsimp only [Except.map, Response.withoutPurged]
    rw [halike.overdue]
  · rw [GroupState.of_eq hcontents rfl, GroupState.of_eq hcontents' rfl]
    have hsweeps : (Request.sweep queue group).sweeps queue group := ⟨rfl, rfl⟩
    -- what is overdue is requeued, and then the sets are purged one by one
    have hmove (move : Move) (hstems : move.stemsFrom now (.sweep queue group) queue group)
        {s s' : GroupState} (h : s.aged now = s'.aged now) :
        (move.apply s).aged now = (move.apply s').aged now := Move.aged_congr hstems h
    have hrequeue := hmove (.requeue now) ⟨rfl, hsweeps⟩ halike.state
    have hage := hmove (.age now) rfl hrequeue
    have hredo := hmove (.purgeRedo now) ⟨rfl, hsweeps⟩ hage
    exact hmove (.purgeDone now) ⟨rfl, hsweeps⟩ hredo

theorem len (halike : memory.Alike (q.groupSets queue group) now memory') (hsound : memory.Sound)
    (hsound' : memory'.Sound) {role : Role} {group' : String}
    (hset : q.eventSet queue role group' = q.eventSet queue role group)
    (haccepted : (Request.len queue role group').Accepted) :
    EndsAlike (q.groupSets queue group) now
      (memory.converse now ((Request.len queue role group').perform q now).run)
      (memory'.converse now ((Request.len queue role group').perform q now).run) := by
  obtain ⟨hqueue, hgroup⟩ := haccepted
  obtain ⟨sets, hlen, hcontents⟩ := @Memory.converse_len _ q now hsound _ _ role hqueue hgroup
  obtain ⟨sets', hlen', hcontents'⟩ := @Memory.converse_len _ q now hsound' _ _ role hqueue hgroup
  rw [Request.perform, Memory.converse_mapResult, Memory.converse_mapResult, hlen, hlen', hset]
  refine ⟨?_, ?_, halike.payloads⟩
  · dsimp only
    rw [halike.live role]
  · have hsame (memory : Memory) {sets : Sets} (h : ∀ key, sets.contents key = memory.sets.contents key) :
        GroupState.of { memory with sets } (q.groupSets queue group)
          = GroupState.of memory (q.groupSets queue group) :=
      GroupState.of_eq (congrArg (GroupContents.of · _) (funext h)) rfl
    dsimp only
    rw [hsame memory hcontents, hsame memory' hcontents', halike.state]

/-- **A request that regards a group ends alike** in stores that look alike to the group. -/
theorem request (hqueue : ColonFree queue) (hgroup : ColonFree group)
    (halike : memory.Alike (q.groupSets queue group) now memory')
    (hregular : memory.Regular (q.groupSets queue group))
    (hregular' : memory'.Regular (q.groupSets queue group)) {request : Request}
    (hregards : request.regards queue group = true) :
    EndsAlike (q.groupSets queue group) now (memory.converse now (request.perform q now).run)
      (memory'.converse now (request.perform q now).run) := by
  by_cases haccepted : request.Accepted
  · cases request with
    | add cmd => exact halike.add hqueue hgroup hregular.sound hregular'.sound haccepted
    | get cmd =>
        obtain ⟨rfl, rfl⟩ : cmd.queue = queue ∧ cmd.group = group := by
          simpa [Request.regards, Request.pair?] using hregards
        exact halike.get hregular hregular' haccepted
    | ack cmd =>
        obtain ⟨rfl, rfl⟩ : cmd.queue = queue ∧ cmd.group = group := by
          simpa [Request.regards, Request.pair?] using hregards
        exact halike.ack hregular.sound hregular'.sound haccepted
    | sweep queue' group' =>
        obtain ⟨rfl, rfl⟩ : queue' = queue ∧ group' = group := by
          simpa [Request.regards, Request.pair?] using hregards
        exact halike.sweep hregular.sound hregular'.sound haccepted
    | len queue' role group' =>
        -- whichever group asks, the shared set is the same
        obtain ⟨rfl, hset⟩ : queue' = queue ∧ q.eventSet queue role group' = q.eventSet queue role group := by
          cases role <;> simp_all [Request.regards, Request.pair?, eventSet_available q queue group' group]
        exact halike.len hregular.sound hregular'.sound hset haccepted
    | _ => simp [Request.regards, Request.pair?] at hregards
  · obtain ⟨failure, hrefused⟩ := (Request.refused haccepted q now).converse
    rw [hrefused, hrefused]
    exact ⟨rfl, halike⟩

end Memory.Alike

/-! ## Runs -/

namespace Session

variable {q : Queue} {queue group : String} {turns : List Turn} {t : Turn}

theorem regular_after (hop : ∀ x ∈ turns, x.request.isOperation = true) (q : Queue)
    (hqueue : ColonFree queue) (hgroup : ColonFree group) :
    (after turns).memory.Regular (q.groupSets queue group) :=
  ⟨sound_after hop, (natural_history_after hop q hqueue hgroup).1,
    (natural_history_after hop q hqueue hgroup).2⟩

/-- **A request for another group leaves the store alike.** All that the group can see of it is that what
    has expired leaves the shared set. -/
theorem alike_of_foreign (hqueue : ColonFree queue) (hgroup : ColonFree group)
    (hop : ∀ x ∈ turns, x.request.isOperation = true) (ht : t.WorksIn q.base)
    (hother : ∃ pair, t.request.pair? = some pair ∧ pair ≠ (queue, group)) :
    (after turns).memory.Alike (q.groupSets queue group) t.now (after (turns ++ [t])).memory := by
  obtain ⟨pair, hpair, hne⟩ := hother
  have hadd (cmd : AddCommand) : t.request ≠ .add cmd := by
    intro hrequest
    rw [hrequest] at hpair
    cases hpair
  have hforeign : ¬ t.request.concerns queue group := fun h => hne (Request.pair_eq_of_concerns hpair h)
  refine ⟨?_, fun id => ?_⟩
  · have hmoves := moves_of_own_turn (q := q) hqueue hgroup hop ht
    refine hmoves.keeps (I := fun s => (groupAfter q queue group turns).aged t.now = s.aged t.now) ?_ rfl
    intro move s hstems _ hs
    cases move with
    | issue id => exact (hadd _ hstems.choose_spec).elim
    | offer id => exact (hadd _ hstems.choose_spec.1).elim
    | age now =>
        obtain rfl : now = t.now := hstems
        refine hs.trans ?_
        simp only [GroupState.aged, Move.apply, GroupContents.dropExpired, Contents.live_live]
    | dequeue now deadline =>
        obtain ⟨-, cmd, hrequest, hcmd, hcmd', -⟩ := hstems
        refine absurd (Or.inl ?_) hforeign
        rw [hrequest]
        exact ⟨hcmd, hcmd'⟩
    | settle now event =>
        obtain ⟨-, cmd, hrequest, hcmd, hcmd', -⟩ := hstems
        refine absurd (Or.inr (Or.inl ?_)) hforeign
        rw [hrequest]
        exact ⟨hcmd, hcmd'⟩
    | requeue now | purgeRedo now | purgeDone now => exact absurd (Or.inr (Or.inr hstems.2)) hforeign
  · refine turn_keeps (I := fun memory => _ = memory.payloads.find? t.now id) ht.1 ?_ rfl
    exact fun call hcall memory hmemory =>
      hmemory.trans (Memory.find?_of_makes hcall hadd (Int.le_refl _) memory id).symm

/-- What the callers of some turns of a run are told, but for the numbers of events purged. -/
def answers (wanted : Turn → Bool) (turns : List Turn) : List (Turn × Except Failure Response) :=
  ((fresh.transcript turns).filter fun entry => wanted entry.1).map fun entry =>
    (entry.1, entry.2.map Response.withoutPurged)

theorem answers_concat (wanted : Turn → Bool) (turns : List Turn) (t : Turn) :
    answers wanted (turns ++ [t]) = answers wanted turns
      ++ if wanted t then [(t, ((after turns).turn t).1.map Response.withoutPurged)] else [] := by
  rw [answers, transcript_concat, List.filter_append, List.map_append, answers, List.filter_singleton]
  cases wanted t <;> rfl

/-- One more turn that is for everyone or for the group is answered as it would be without the requests
    made for others. -/
theorem endsAlike_of_turn {turns' : List Turn} (hqueue : ColonFree queue) (hgroup : ColonFree group)
    (hturns : ∀ x ∈ turns, x.request.isOperation = true ∧ x.faults = [])
    (hturns' : ∀ x ∈ turns', x.request.isOperation = true ∧ x.faults = [])
    (hbase : t.queue.base = q.base) (hfaults : t.faults = [])
    (hregards : t.request.regards queue group = true)
    (halike : (after turns).memory.Alike (q.groupSets queue group) t.now (after turns').memory) :
    ((after turns).turn t).1.map Response.withoutPurged
        = ((after turns').turn t).1.map Response.withoutPurged
      ∧ (after (turns ++ [t])).memory.Alike (q.groupSets queue group) t.now
          (after (turns' ++ [t])).memory := by
  have hregular := regular_after (fun x hx => (hturns x hx).1) t.queue hqueue hgroup
  have hregular' := regular_after (fun x hx => (hturns' x hx).1) t.queue hqueue hgroup
  rw [← Queue.groupSets_of_base hbase] at halike ⊢
  have hends := halike.request hqueue hgroup hregular hregular' hregards
  obtain ⟨hreply, hmemory, -⟩ := turn_of_faultless (faults_after fun x hx => (hturns x hx).2) hfaults
  obtain ⟨hreply', hmemory', -⟩ := turn_of_faultless (faults_after fun x hx => (hturns' x hx).2) hfaults
  rw [after_concat, after_concat, hreply, hmemory, hreply', hmemory']
  exact ⟨hends.reply, hends.memory⟩

/-- **Leaving out requests that are made for others**, by induction on the turns: the two stores look alike
    to the group, and the group is told the same. -/
theorem alike_without_foreign (hqueue : ColonFree queue) (hgroup : ColonFree group) {keep : Turn → Bool}
    (hrun : ∀ x ∈ turns, x.queue.base = q.base ∧ x.request.isCommand = true ∧ x.faults = [])
    (hclock : turns.Pairwise fun x y => x.now ≤ y.now)
    (hkeep : ∀ x ∈ turns, keep x = false →
      ∃ pair, x.request.pair? = some pair ∧ pair ≠ (queue, group)) :
    (∀ now, (∀ x ∈ turns, x.now ≤ now) → (after turns).memory.Alike (q.groupSets queue group) now
        (after (turns.filter keep)).memory)
      ∧ answers (fun x => keep x && x.request.regards queue group) turns
        = answers (fun x => x.request.regards queue group) (turns.filter keep) := by
  induction turns using List.reverseRecOn with
  | nil => exact ⟨fun now _ => .refl _ _ _, rfl⟩
  | append_singleton turns t ih =>
      rw [List.forall_mem_append, List.forall_mem_singleton] at hrun hkeep
      rw [List.pairwise_append] at hclock
      obtain ⟨hrun, hbase, hcommand, hfaults⟩ := hrun
      have hbefore : ∀ x ∈ turns, x.now ≤ t.now :=
        fun x hx => hclock.2.2 x hx t (List.mem_singleton.mpr rfl)
      obtain ⟨halike, hanswers⟩ := ih hrun hclock.1 hkeep.1
      have halike := halike t.now hbefore
      have hop : ∀ x ∈ turns, x.WorksIn q.base :=
        fun x hx => ⟨Request.isOperation_of_isCommand (hrun x hx).2.1, (hrun x hx).1⟩
      have ht : t.WorksIn q.base := ⟨Request.isOperation_of_isCommand hcommand, hbase⟩
      have hkept : ∀ x ∈ turns.filter keep, x ∈ turns := fun x hx => (List.mem_filter.mp hx).1
      have hopKept : ∀ x ∈ turns.filter keep, x.WorksIn q.base := fun x hx => hop x (hkept x hx)
      -- it is enough that the stores look alike at the time of the turn
      suffices hstep : (after (turns ++ [t])).memory.Alike (q.groupSets queue group) t.now
            (after ((turns ++ [t]).filter keep)).memory
          ∧ answers (fun x => keep x && x.request.regards queue group) (turns ++ [t])
            = answers (fun x => x.request.regards queue group) ((turns ++ [t]).filter keep) from
        ⟨fun now hnow => hstep.1.mono (hnow t (List.mem_append_right _ (List.mem_singleton.mpr rfl))),
          hstep.2⟩
      rw [List.filter_append, List.filter_singleton, answers_concat, hanswers]
      cases hkeeps : keep t with
      | false =>
          -- the turn is left out, and was for others
          have hforeign := alike_of_foreign hqueue hgroup (fun x hx => (hop x hx).1) ht (hkeep.2 hkeeps)
          refine ⟨?_, ?_⟩
          · simpa using hforeign.symm.trans halike
          · simp
      | true =>
          simp only [cond_true, Bool.true_and, answers_concat, List.append_cancel_left_eq]
          cases hregards : t.request.regards queue group with
          | false =>
              have hother := Request.pair?_of_not_regards hcommand hregards
              have hforeign := alike_of_foreign hqueue hgroup (fun x hx => (hop x hx).1) ht hother
              have hforeign' := alike_of_foreign hqueue hgroup (fun x hx => (hopKept x hx).1) ht hother
              exact ⟨hforeign.symm.trans (halike.trans hforeign'), rfl⟩
          | true =>
              obtain ⟨hreply, hends⟩ := endsAlike_of_turn hqueue hgroup
                (fun x hx => ⟨(hop x hx).1, (hrun x hx).2.2⟩)
                (fun x hx => ⟨(hopKept x hx).1, (hrun x (hkept x hx)).2.2⟩) hbase hfaults hregards halike
              rw [hreply]
              exact ⟨hends, rfl⟩

end Session

/-- **Consumer groups and queues do not interfere.** Take any run of commands in one namespace, without
    failing calls and with a clock that does not go back, and leave out whichever requests you like of those
    made for other groups. Whoever adds an event, the group itself, and whoever counts what is available to
    it are told the same as before, but for how many expired events a sweep has found. -/
theorem answers_without_foreign {q : Queue} {queue group : String} {turns : List Turn} {keep : Turn → Bool}
    (hqueue : checkName "queue" queue = .ok ()) (hgroup : checkName "group" group = .ok ())
    (hrun : ∀ t ∈ turns, t.queue.base = q.base ∧ t.request.isCommand = true ∧ t.faults = [])
    (hclock : turns.Pairwise fun t later => t.now ≤ later.now)
    (hkeep : ∀ t ∈ turns, keep t = false →
      ∃ pair, t.request.pair? = some pair ∧ pair ≠ (queue, group)) :
    Session.answers (fun t => keep t && t.request.regards queue group) turns
      = Session.answers (fun t => t.request.regards queue group) (turns.filter keep) :=
  (Session.alike_without_foreign (colonFree_of_checkName hqueue) (colonFree_of_checkName hgroup) hrun
    hclock hkeep).2

/-- Without the requests of another group and for another queue, which take events, let a deadline pass and
    sweep, a group is told what it is told with them. -/
theorem answers_without_foreign_one :
    let q : Queue := {}
    let turn (micros : Int) (request : Request) : Turn := { queue := q, now := .ofMicros micros, request }
    let add (now : Int) (queue : String) (micros : Int) :=
      turn now (.add { queue, expire := .ofMicros micros, contents := "x" })
    let get (now : Int) (queue group : String) (deadline : Int) :=
      turn now (.get { queue, group, deadline := some (.ofMicros deadline) })
    let turns := [add 1000 "q" 5000, add 1000 "q" 6000, add 1000 "p" 5500, get 1000 "q" "h" 1500,
      get 1000 "q" "g" 9000, turn 2000 (.sweep "q" "h"), get 2000 "p" "g" 9000,
      turn 5200 (.sweep "q" "h"), get 5200 "q" "g" 9000, turn 5200 (.sweep "p" "g"),
      turn 5200 (.ack { queue := "q", group := "g", event := ⟨6000⟩ }),
      turn 5200 (.len "q" .available ""), turn 5200 (.sweep "q" "g")]
    let keep (t : Turn) := t.request.regards "q" "g"
    (∀ t ∈ turns, t.queue.base = q.base ∧ t.request.isCommand = true ∧ t.faults = [])
      ∧ (turns.Pairwise fun t later => t.now ≤ later.now)
      ∧ (Session.answers keep (turns.filter keep)).map Prod.snd
        = [.ok (.issued ⟨5000⟩), .ok (.issued ⟨6000⟩), .ok (.issued ⟨6001⟩),
          .ok (.event (some (.new ⟨5000⟩ "x"))), .ok (.event (some (.new ⟨6000⟩ "x"))),
          .ok (.acknowledged true), .ok (.count 1), .ok (.swept {})]
      ∧ Session.answers (fun t => keep t && t.request.regards "q" "g") turns
        = Session.answers (fun t => t.request.regards "q" "g") (turns.filter keep) := by
  intro q turn add get turns keep
  have hrun : ∀ t ∈ turns, t.queue.base = q.base ∧ t.request.isCommand = true ∧ t.faults = [] := by decide
  have hclock : turns.Pairwise fun t later => t.now ≤ later.now := by decide
  have hkeep : ∀ t ∈ turns, keep t = false → ∃ pair, t.request.pair? = some pair ∧ pair ≠ ("q", "g") :=
    fun t ht hother => Request.pair?_of_not_regards (hrun t ht).2.1 hother
  exact ⟨hrun, hclock, by decide +kernel,
    answers_without_foreign (by decide +kernel) (by decide +kernel) hrun hclock hkeep⟩

end GroupQueue
