import GroupQueue.Proofs.Queue.History
import GroupQueue.Proofs.Session.Dequeue

/-!
# `Proofs.Session.Moves` — every request is a sequence of moves

Seen from one consumer group, a request to a service in its namespace is a sequence of moves, whichever
queue and group it is for and whichever of its calls fail. Only a sweep of the group itself requeues its
events, and only its own gets take any.

## Contents
- `GroupState.of` — the state of a group in a store.
- `Move.fits`, `Move.stemsFrom` — the moves that a request can bring about.
- `of_added`, `moves_of_add`, `moves_of_get`, `moves_of_ack` — from the outcomes.
- `moves_perform` — every request; `Session.moves_of_own_turn`, `moves_of_turn` — every turn of a run.
- `getOutcome_of_turn`, `own_get_of_turn`, `get_of_turn`, `ack_of_turn` — what single turns come to.
-/

namespace GroupQueue

/-- The state of the group with the given sets. -/
def GroupState.of (memory : Memory) (sets : GroupSets) : GroupState :=
  { GroupContents.of memory.sets.contents sets with lastId := memory.lastId }

theorem GroupState.of_eq {memory : Memory} {sets : GroupSets} {g : GroupContents} {last : Option EventId}
    (hcontents : GroupContents.of memory.sets.contents sets = g) (hlast : memory.lastId = last) :
    GroupState.of memory sets = { g with lastId := last } := by
  rw [GroupState.of, hcontents, hlast]

/-- The moves that a request can bring about for a group. -/
def Move.fits (request : Request) (queue group : String) : Move → Prop
  | .requeue _ => request.sweeps queue group
  | .dequeue _ _ => request.gets queue group
  | _ => True

/-- The moves that a request made at `now` can bring about for a group, in full. -/
def Move.stemsFrom (now : Instant) (request : Request) (queue group : String) : Move → Prop
  | .issue _ => ∃ cmd, request = .add cmd
  | .offer _ => ∃ cmd, request = .add cmd ∧ cmd.queue = queue
  | .age t => t = now
  | .dequeue t deadline =>
    t = now ∧ ∃ cmd, request = .get cmd ∧ cmd.queue = queue ∧ cmd.group = group ∧ cmd.deadline = deadline
  | .settle t event =>
    t = now ∧ ∃ cmd, request = .ack cmd ∧ cmd.queue = queue ∧ cmd.group = group ∧ cmd.event = event
  | .requeue t | .purgeRedo t | .purgeDone t => t = now ∧ request.sweeps queue group

theorem Move.fits_of_stemsFrom {now : Instant} {request : Request} {queue group : String} {move : Move}
    (h : move.stemsFrom now request queue group) : move.fits request queue group := by
  cases move with
  | dequeue t deadline =>
      obtain ⟨-, cmd, rfl, hqueue, hgroup, -⟩ := h
      exact ⟨hqueue, hgroup⟩
  | requeue t => exact h.2
  | _ => trivial

section Requests

variable {q : Queue} {queue group : String} (hqueue : ColonFree queue) (hgroup : ColonFree group)
  {now : Instant} {memory after : Memory} {kind : Move → Prop}

include hqueue hgroup

/-! ## Single plans -/

/-- An event that is put into the shared set of a queue concerns the groups of that queue. -/
theorem of_added {cmd : AddCommand} {id : EventId} (hcmd : ColonFree cmd.queue)
    (hlast : after.lastId = some id)
    (hsets : ∀ key, after.sets.contents key
      = if (q.eventSet cmd.queue .available "").key = key then
          (memory.sets.contents key).insert id id.score
        else memory.sets.contents key) :
    GroupState.of after (q.groupSets queue group)
      = (if cmd.queue = queue then Move.offer id else Move.issue id).apply
          (.of memory (q.groupSets queue group)) := by
  -- of the sets of the group, the event is put into the shared one, if that is the queue's
  have hkey {role : Role} : (q.eventSet cmd.queue .available "").key = (q.eventSet queue role group).key
      ↔ cmd.queue = queue ∧ .available = role := by
    rw [key_eventSet_eq_iff_parts hcmd (by decide) hqueue hgroup]
    simp
  split
  · next hsame =>
    refine GroupState.of_eq ?_ hlast
    simp only [GroupContents.of, Queue.groupSets, hsets, hkey]
    simp [hsame, GroupState.of, GroupContents.of]
  · next hother =>
    refine GroupState.of_eq ?_ hlast
    simp only [GroupContents.of, Queue.groupSets, hsets, hkey]
    simp [hother, GroupState.of, GroupContents.of]

/-- Adding an event issues an identifier, and offers the event to the groups of its queue. -/
theorem moves_of_add {cmd : AddCommand} {result : Except Failure EventId}
    (h : AddOutcome q cmd memory result after)
    (hissue : ∀ id, kind (.issue id)) (hoffer : cmd.queue = queue → ∀ id, kind (.offer id)) :
    Moves kind (.of memory (q.groupSets queue group)) (.of after (q.groupSets queue group)) := by
  cases h with
  | refused failure => exact .refl _
  | issued failure id hlast hlater hsets =>
      refine .single (.issue id) (GroupState.of_eq ?_ hlast) (hissue id) hlater
      rw [hsets]
      rfl
  | added id hcmd hlast hlater hsets =>
      refine .single _ (of_added hqueue hgroup hcmd hlast hsets) ?_ ?_
      · split
        · next hsame => exact hoffer hsame id
        · exact hissue id
      · split <;> exact hlater

/-- Getting an event drops expired ones from the shared set, and the group that asks takes its next. -/
theorem moves_of_get {cmd : GetCommand} {result : Except Failure (Option Event)}
    (h : GetOutcome q now cmd memory result after) (hage : kind (.age now))
    (hdequeue : cmd.queue = queue → cmd.group = group → kind (.dequeue now cmd.deadline)) :
    Moves kind (.of memory (q.groupSets queue group)) (.of after (q.groupSets queue group)) := by
  cases h with
  | refused failure hrefused => exact .refl _
  | executed hcmd hcmd' hreply hcontents hframe hlast =>
      by_cases hown : queue = cmd.queue ∧ group = cmd.group
      · obtain ⟨rfl, rfl⟩ := hown
        exact .single (.dequeue now cmd.deadline) (GroupState.of_eq hcontents hlast) (hdequeue rfl rfl)
          trivial
      · have hother := GroupContents.of_frame hqueue hgroup hcmd hcmd' hframe hown
        rw [hcontents, GroupContents.available_dequeue] at hother
        by_cases hsame : queue = cmd.queue
        · rw [if_pos hsame, ← hsame] at hother
          exact .single (.age now) (GroupState.of_eq hother hlast) hage trivial
        · have heq : GroupState.of after (q.groupSets queue group)
              = GroupState.of memory (q.groupSets queue group) := by
            rw [if_neg hsame] at hother
            exact GroupState.of_eq hother hlast
          rw [heq]
          exact .refl _

/-- Acknowledging an event settles it for the group that took it. -/
theorem moves_of_ack {cmd : AckCommand} {result : Except Failure Bool}
    (h : AckOutcome q now cmd memory result after)
    (hsettle : cmd.queue = queue → cmd.group = group → kind (.settle now cmd.event)) :
    Moves kind (.of memory (q.groupSets queue group)) (.of after (q.groupSets queue group)) := by
  cases h with
  | refused failure => exact .refl _
  | executed hcmd hcmd' hinTime hcontents hframe hlast =>
      by_cases hown : queue = cmd.queue ∧ group = cmd.group
      · obtain ⟨rfl, rfl⟩ := hown
        exact .single (.settle now cmd.event) (GroupState.of_eq hcontents hlast) (hsettle rfl rfl)
          trivial
      · have hother := GroupContents.of_frame_of_available hqueue hgroup hcmd hcmd' hframe hown (by
          rw [hcontents, GroupContents.available_settle])
        rw [GroupState.of_eq hother hlast]
        exact .refl _

/-! ## Sweeping -/

/-- Requeueing the overdue events of a group concerns no other group. -/
theorem of_requeue (h : memory.Sound) {queue' group' : String} (hqueue' : ColonFree queue')
    (hgroup' : ColonFree group') :
    GroupState.of (memory.execute (q.requeuePlan now (q.groupSets queue' group'))).2
        (q.groupSets queue group)
      = if queue = queue' ∧ group = group' then
          (Move.requeue now).apply (.of memory (q.groupSets queue group))
        else .of memory (q.groupSets queue group) := by
  obtain ⟨executed, sets, heq, -, hcontents, hframe⟩ :=
    Memory.execute_requeuePlan h q now hqueue' hgroup'
  rw [heq]
  by_cases hown : queue = queue' ∧ group = group'
  · rw [if_pos hown]
    obtain ⟨rfl, rfl⟩ := hown
    exact GroupState.of_eq hcontents rfl
  · have hother := GroupContents.of_frame_of_available hqueue hgroup hqueue' hgroup' hframe hown (by
      rw [hcontents]
      rfl)
    rw [if_neg hown]
    exact GroupState.of_eq hother rfl

/-- Purging a set concerns the group that it belongs to, or all groups if they share it. -/
theorem of_purge (h : memory.Sound) (q : Queue) (now : Instant) {queue' group' : String}
    (hqueue' : ColonFree queue') (hgroup' : ColonFree group') {role : Role} {move : Move}
    (hmove : role = .available ∧ move = .age now ∨ role = .redo ∧ move = .purgeRedo now
      ∨ role = .done ∧ move = .purgeDone now) :
    GroupState.of (memory.execute (q.purgePlan now (q.eventSet queue' role group'))).2
        (q.groupSets queue group)
      = if queue = queue' ∧ (role = .available ∨ group = group') then
          move.apply (.of memory (q.groupSets queue group))
        else .of memory (q.groupSets queue group) := by
  obtain ⟨executed, sets, heq, hafter⟩ :=
    Memory.execute_purgePlan h q now queue' role group'
  rw [heq]
  simp only [GroupState.of, GroupContents.of, Queue.groupSets, hafter,
    key_eventSet_eq_iff_parts hqueue' hgroup' hqueue hgroup, eq_comm (a := queue'),
    eq_comm (a := group')]
  rcases hmove with ⟨rfl, rfl⟩ | ⟨rfl, rfl⟩ | ⟨rfl, rfl⟩
  all_goals
    simp only [reduceCtorEq, false_and, and_false, if_false, true_and, true_or, and_true, false_or]
    split <;> rfl

omit hqueue hgroup in
/-- Counting concerns no group. -/
theorem of_len (h : memory.Sound) {queue' group' : String} {role : Role} (sets : GroupSets) :
    GroupState.of (memory.execute (q.lenPlan now queue' role group')).2 sets = .of memory sets := by
  obtain ⟨executed, after, heq, -, hafter⟩ :=
    Memory.execute_lenPlan h q now queue' role group'
  rw [heq]
  exact GroupState.of_eq (congrArg (GroupContents.of · sets) (funext hafter)) rfl

/-- A sweep requeues, drops expired events from the shared set, and only then from the history of the
    group. It may end after any of these. -/
theorem keeps_moves_sweep (start : GroupState) {queue' group' : String}
    (hage : kind (.age now)) (hown : queue = queue' → group = group' →
      kind (.requeue now) ∧ kind (.purgeRedo now) ∧ kind (.purgeDone now)) :
    Keeps (fun memory => memory.Sound ∧ Moves kind start (.of memory (q.groupSets queue group))) now
      (q.sweep now queue' group').run := by
  let inv (memory : Memory) : Prop :=
    memory.Sound ∧ Moves kind start (.of memory (q.groupSets queue group))
  -- what holds once the shared set has been purged, if it is the one of the group
  let aged (memory : Memory) : Prop :=
    inv memory ∧ (queue = queue' → (GroupState.of memory (q.groupSets queue group)).available.live now
      = (GroupState.of memory (q.groupSets queue group)).available)
  have hhistory {role : Role} {move : Move} (hkind : queue = queue' → group = group' → kind move)
      (hmove : role = .redo ∧ move = .purgeRedo now ∨ role = .done ∧ move = .purgeDone now)
      (hqueue' : ColonFree queue') (hgroup' : ColonFree group') :
      ∀ memory, aged memory →
        aged (memory.execute (q.purgePlan now (q.eventSet queue' role group'))).2 := by
    rintro memory ⟨⟨hsound, hmoves⟩, haged⟩
    have hstate := of_purge hqueue hgroup hsound q now hqueue' hgroup' (.inr hmove)
    refine ⟨⟨hsound.execute _, ?_⟩, ?_⟩
    · rw [hstate]
      split
      · next hsame =>
        -- the set belongs to the group alone
        have hgroup : group = group' := hsame.2.resolve_left (by rcases hmove with ⟨rfl, -⟩ | ⟨rfl, -⟩ <;> decide)
        refine hmoves.tail (hkind hsame.1 hgroup) ?_
        rcases hmove with ⟨-, rfl⟩ | ⟨-, rfl⟩ <;> exact haged hsame.1
      · exact hmoves
    · intro hsame
      rw [hstate]
      split
      · rcases hmove with ⟨-, rfl⟩ | ⟨-, rfl⟩ <;> exact haged hsame
      · exact haged hsame
  have hinv : ∀ memory, aged memory → inv memory := fun _ h => h.1
  refine keeps_sweep_of hinv ?_ ?_ ?_
  · rintro hqueue' hgroup' memory ⟨hsound, hmoves⟩
    refine ⟨hsound.execute _, ?_⟩
    rw [of_requeue hqueue hgroup hsound hqueue' hgroup']
    split
    · next hsame => exact hmoves.tail (hown hsame.1 hsame.2).1 trivial
    · exact hmoves
  · rintro hqueue' hgroup' memory ⟨hsound, hmoves⟩
    have hstate := of_purge hqueue hgroup hsound q now hqueue' hgroup' (.inl ⟨rfl, rfl⟩)
    refine ⟨⟨hsound.execute _, ?_⟩, ?_⟩
    · rw [Queue.groupSets, hstate]
      split
      · exact hmoves.tail hage trivial
      · exact hmoves
    · intro hsame
      rw [Queue.groupSets, hstate, if_pos ⟨hsame, Or.inl rfl⟩]
      exact Contents.live_live _ now
  · intro hqueue' hgroup' set hset
    rcases List.mem_pair.mp hset with rfl | rfl
    · exact hhistory (fun hq hg => (hown hq hg).2.1) (.inl ⟨rfl, rfl⟩) hqueue' hgroup'
    · exact hhistory (fun hq hg => (hown hq hg).2.2) (.inr ⟨rfl, rfl⟩) hqueue' hgroup'

/-! ## Requests -/

/-- **Every request is a sequence of moves** that stem from it. -/
theorem moves_perform (hsound : memory.Sound)
    (hnatural : ∀ queue group, ColonFree queue → ColonFree group →
      (memory.sets.contents (q.groupSets queue group).inProgressById.key).Natural
        ∧ (memory.sets.contents (q.groupSets queue group).done.key).Natural)
    {request : Request} (hop : request.isOperation = true) :
    Ensures now (request.perform q now).run memory fun _ after =>
      Moves (Move.stemsFrom now request queue group) (.of memory (q.groupSets queue group))
        (.of after (q.groupSets queue group)) := by
  let inv (after : Memory) : Prop := after.Sound
    ∧ Moves (Move.stemsFrom now request queue group) (.of memory (q.groupSets queue group))
        (.of after (q.groupSets queue group))
  -- adding, getting and acknowledging have their outcomes; all else keeps the moves made so far
  have hkept (h : Keeps inv now (request.perform q now).run) :
      Ensures now (request.perform q now).run memory fun _ after =>
        Moves (Move.stemsFrom now request queue group) (.of memory (q.groupSets queue group))
          (.of after (q.groupSets queue group)) :=
    (h.ensures memory ⟨hsound, .refl _⟩).mono fun _ after h => h.2
  have hsweep {queue' group' : String}
      (hown : queue = queue' → group = group' → request.sweeps queue group) :
      Keeps inv now (q.sweep now queue' group').run :=
    keeps_moves_sweep hqueue hgroup _ rfl fun hq hg =>
      ⟨⟨rfl, hown hq hg⟩, ⟨rfl, hown hq hg⟩, ⟨rfl, hown hq hg⟩⟩
  have htargets {targets : List SweepTarget}
      (hown : ⟨queue, group⟩ ∈ targets → request.sweeps queue group) :
      ∀ target ∈ targets, Keeps inv now (q.sweep now target.queue target.group).run := by
    intro target htarget
    refine hsweep fun hq hg => hown ?_
    rwa [hq, hg]
  have hpurge : Keeps inv now (ask .purgePayloads).run :=
    .ask fun after h => ⟨h.1.answer now .purgePayloads, h.2⟩
  cases request with
  | add cmd =>
      rw [Request.perform, ensures_operation_map]
      exact (ensures_add hsound cmd).mono fun _ after h =>
        moves_of_add hqueue hgroup h (fun _ => ⟨cmd, rfl⟩) fun hq _ => ⟨cmd, rfl, hq⟩
  | get cmd =>
      rw [Request.perform, ensures_operation_map]
      exact (ensures_get hsound (hnatural _ _)).mono fun _ after h =>
        moves_of_get hqueue hgroup h rfl fun hq hg => ⟨rfl, cmd, rfl, hq, hg, rfl⟩
  | ack cmd =>
      rw [Request.perform, ensures_operation_map]
      exact (ensures_ack hsound cmd).mono fun _ after h =>
        moves_of_ack hqueue hgroup h fun hq hg => ⟨rfl, cmd, rfl, hq, hg, rfl⟩
  | sweep queue' group' => exact hkept ((hsweep fun hq hg => ⟨hq.symm, hg.symm⟩).mapResult _)
  | len queue' role group' =>
      refine hkept ((keeps_len fun after h => ⟨h.1.execute _, ?_⟩).mapResult _)
      rw [of_len h.1]
      exact h.2
  | eventSet queue' role group' =>
      rw [Request.perform, ensures_operation_pure]
      exact .refl _
  | tick targets => exact hkept (((keeps_tick (htargets fun h => h) hpurge).map _).map _)
  | run targets interval rounds =>
      exact hkept (.map (.bind (keeps_run (htargets fun h => h) hpurge interval rounds) fun _ =>
        .pure _) _)
  | store call => contradiction

end Requests

/-! ## Turns -/

/-- The sets of a group are those of its namespace. -/
theorem Queue.groupSets_of_base {q q' : Queue} (h : q.base = q'.base) (queue group : String) :
    q.groupSets queue group = q'.groupSets queue group := by
  simp only [Queue.groupSets, Queue.eventSet, h]

namespace Session

/-- The state of a group after some turns. -/
def groupAfter (q : Queue) (queue group : String) (turns : List Turn) : GroupState :=
  .of (after turns).memory (q.groupSets queue group)

variable {q : Queue} {queue group : String} {turns : List Turn} {t : Turn}

/-- Natural scores where a get has to compare them. -/
theorem natural_history_after (hop : ∀ x ∈ turns, x.request.isOperation = true) (q : Queue)
    (hqueue : ColonFree queue) (hgroup : ColonFree group) :
    ((after turns).memory.sets.contents (q.groupSets queue group).inProgressById.key).Natural
      ∧ ((after turns).memory.sets.contents (q.groupSets queue group).done.key).Natural :=
  ⟨natural_own_after hop q hqueue hgroup (by decide) (by decide),
    natural_own_after hop q hqueue hgroup (by decide) (by decide)⟩

/-- **Every turn is a sequence of moves** that stem from its request, whichever services share the store. -/
theorem moves_of_own_turn (hqueue : ColonFree queue) (hgroup : ColonFree group)
    (hop : ∀ x ∈ turns, x.request.isOperation = true) (ht : t.WorksIn q.base) :
    Moves (Move.stemsFrom t.now t.request queue group) (groupAfter q queue group turns)
      (groupAfter q queue group (turns ++ [t])) := by
  have hmoves : Ensures t.now (t.request.perform t.queue t.now).run (after turns).memory fun _ last =>
      Moves (Move.stemsFrom t.now t.request queue group)
        (.of (after turns).memory (t.queue.groupSets queue group))
        (.of last (t.queue.groupSets queue group)) :=
    moves_perform hqueue hgroup (sound_after hop) (fun _ _ => natural_history_after hop t.queue) ht.1
  rw [groupAfter, groupAfter, ← Queue.groupSets_of_base ht.2]
  exact after_of_ensures hmoves

/-- Every turn of a run in one namespace is. -/
theorem moves_of_turn (hqueue : ColonFree queue) (hgroup : ColonFree group)
    (hturns : ∀ x ∈ turns, x.WorksIn q.base) (ht : t.WorksIn q.base) :
    Moves (Move.stemsFrom t.now t.request queue group) (groupAfter q queue group turns)
      (groupAfter q queue group (turns ++ [t])) :=
  moves_of_own_turn hqueue hgroup (fun x hx => (hturns x hx).1) ht

/-- Every turn is a sequence of moves that fit its request. -/
theorem moves_turn (hqueue : ColonFree queue) (hgroup : ColonFree group)
    (hturns : ∀ x ∈ turns, x.WorksIn q.base) (ht : t.WorksIn q.base) :
    Moves (Move.fits t.request queue group) (groupAfter q queue group turns)
      (groupAfter q queue group (turns ++ [t])) :=
  (moves_of_turn hqueue hgroup hturns ht).mono fun _ => Move.fits_of_stemsFrom

/-- **Every state that a run can reach is coherent.** -/
theorem coherent_after (hqueue : ColonFree queue) (hgroup : ColonFree group)
    (hturns : ∀ x ∈ turns, x.WorksIn q.base) : (groupAfter q queue group turns).Coherent := by
  induction turns using List.reverseRecOn with
  | nil => exact GroupState.coherent_fresh
  | append_singleton turns t ih =>
      have hbefore : ∀ x ∈ turns, x.WorksIn q.base := fun x hx => hturns x (List.mem_append_left _ hx)
      have ht := hturns t (List.mem_append_right _ (List.mem_singleton.mpr rfl))
      exact (ih hbefore).moves (moves_turn hqueue hgroup hbefore ht)

/-- How a turn that gets an event can end. -/
theorem getOutcome_of_turn (hop : ∀ x ∈ turns, x.request.isOperation = true) {cmd : GetCommand}
    (hrequest : t.request = .get cmd) :
    ∃ result, ((after turns).turn t).1 = result.map .event
      ∧ GetOutcome t.queue t.now cmd (after turns).memory result (after (turns ++ [t])).memory := by
  have houtcomes : Ensures t.now (t.request.perform t.queue t.now).run (after turns).memory
      fun response last => ∃ result, response = result.map .event
        ∧ GetOutcome t.queue t.now cmd (after turns).memory result last := by
    rw [hrequest, Request.perform, ensures_operation_map]
    exact (ensures_get (sound_after hop) (natural_history_after hop t.queue)).mono
      fun result _ h => ⟨result, rfl, h⟩
  rw [after_concat]
  exact turn_of_ensures houtcomes

/-- What a get comes to when it succeeds, for the service that it is made of. -/
theorem own_get_of_turn (hop : ∀ x ∈ turns, x.request.isOperation = true) {cmd : GetCommand}
    (hrequest : t.request = .get cmd) {event? : Option Event}
    (hresponse : ((after turns).turn t).1 = .ok (.event event?)) :
    ColonFree cmd.queue ∧ ColonFree cmd.group
      ∧ event?.map Event.id = ((groupAfter t.queue cmd.queue cmd.group turns).dropExpired t.now).next?
      ∧ groupAfter t.queue cmd.queue cmd.group (turns ++ [t])
        = (Move.dequeue t.now cmd.deadline).apply (groupAfter t.queue cmd.queue cmd.group turns) := by
  obtain ⟨result, hresult, houtcome⟩ := getOutcome_of_turn hop hrequest
  rw [hresponse] at hresult
  rw [groupAfter, groupAfter]
  generalize (after (turns ++ [t])).memory = last at houtcome ⊢
  cases houtcome with
  | refused failure hrefused => cases hresult
  | executed hqueue hgroup hreply hcontents hframe hlast =>
      cases result with
      | error failure => cases hresult
      | ok found =>
          cases hresult
          exact ⟨hqueue, hgroup, hreply.id_eq, GroupState.of_eq hcontents hlast⟩

/-- The state of a group is the same for all services in its namespace. -/
theorem groupAfter_of_base {q' : Queue} (h : q.base = q'.base) (queue group : String) (turns : List Turn) :
    groupAfter q queue group turns = groupAfter q' queue group turns := by
  rw [groupAfter, groupAfter, Queue.groupSets_of_base h]

/-- What a get comes to when it succeeds. -/
theorem get_of_turn (hturns : ∀ x ∈ turns, x.WorksIn q.base) (ht : t.WorksIn q.base) {cmd : GetCommand}
    (hrequest : t.request = .get cmd) {event? : Option Event}
    (hresponse : ((after turns).turn t).1 = .ok (.event event?)) :
    ColonFree cmd.queue ∧ ColonFree cmd.group
      ∧ event?.map Event.id = ((groupAfter q cmd.queue cmd.group turns).dropExpired t.now).next?
      ∧ groupAfter q cmd.queue cmd.group (turns ++ [t])
        = (Move.dequeue t.now cmd.deadline).apply (groupAfter q cmd.queue cmd.group turns) := by
  rw [← groupAfter_of_base ht.2, ← groupAfter_of_base ht.2]
  exact own_get_of_turn (fun x hx => (hturns x hx).1) hrequest hresponse

/-- What acknowledging an event in time comes to. -/
theorem ack_of_turn (hturns : ∀ x ∈ turns, x.WorksIn q.base) (ht : t.WorksIn q.base) {cmd : AckCommand}
    (hrequest : t.request = .ack cmd)
    (hresponse : ((after turns).turn t).1 = .ok (.acknowledged true)) :
    ColonFree cmd.queue ∧ ColonFree cmd.group
      ∧ (groupAfter q cmd.queue cmd.group turns).inTime t.now cmd.event = true
      ∧ groupAfter q cmd.queue cmd.group (turns ++ [t])
        = (Move.settle t.now cmd.event).apply (groupAfter q cmd.queue cmd.group turns) := by
  have hop : ∀ x ∈ turns, x.request.isOperation = true := fun x hx => (hturns x hx).1
  have houtcomes : Ensures t.now (t.request.perform t.queue t.now).run (after turns).memory
      fun response last => ∃ result, response = result.map .acknowledged
        ∧ AckOutcome t.queue t.now cmd (after turns).memory result last := by
    rw [hrequest, Request.perform, ensures_operation_map]
    exact (ensures_ack (sound_after hop) cmd).mono fun result _ h => ⟨result, rfl, h⟩
  obtain ⟨result, hresult, houtcome⟩ := turn_of_ensures houtcomes
  rw [hresponse] at hresult
  rw [groupAfter, ← Queue.groupSets_of_base ht.2, groupAfter, after_concat, ← Queue.groupSets_of_base ht.2]
  generalize ((after turns).turn t).2.memory = last at houtcome ⊢
  cases houtcome with
  | refused failure => cases hresult
  | executed hqueue hgroup hinTime hcontents hframe hlast =>
      cases hresult
      exact ⟨hqueue, hgroup, hinTime.symm, GroupState.of_eq hcontents hlast⟩

end Session

end GroupQueue
