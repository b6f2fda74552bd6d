import GroupQueue.Proofs.Session.Delivery
import GroupQueue.Proofs.Session.Foreign
import GroupQueue.Proofs.Session.Sweeping

/-!
# `Proofs.Session.RedoOrder` — what a sweep puts back is handed out first, and in order

A sweep puts the overdue events of a group among those to be handed out again. What is still alive there is
a list in order, the events that are **due**. A get of the group takes the first one of them, and whatever
else happens leaves them alone, or adds events behind them: new ones, if the key of the set should also be
that of a shared set in some other namespace. So the events that are due after a sweep are what the next
gets return, one by one.

## Contents
- `Session.due` — the live events to be handed out again, in order; `mem_due_iff`, `due_sorted`.
- `due_of_sweep` — what is due after a sweep.
- `due_of_get` — a get returns what is due first.
- `due_of_foreign` — other requests leave what is due in its place.
- `redelivered_in_order` — the gets after a sweep.
-/

namespace GroupQueue

/-- A turn takes the next event for a group of a service. -/
def Turn.GetsFor (q : Queue) (queue group : String) (t : Turn) : Prop :=
  t.queue.base = q.base ∧ t.request.gets queue group

instance (queue group : String) (request : Request) : Decidable (request.gets queue group) := by
  unfold Request.gets
  split <;> infer_instance

instance (q : Queue) (queue group : String) (t : Turn) : Decidable (t.GetsFor q queue group) :=
  inferInstanceAs (Decidable (_ ∧ _))

namespace Session

variable {q : Queue} {queue group : String} {now : Instant} {turns : List Turn} {t : Turn}

/-- The live events that are to be handed out to a group again, in order. -/
def due (q : Queue) (queue group : String) (now : Instant) (turns : List Turn) : List EventId :=
  (((after turns).memory.sets.contents (q.eventSet queue .redo group).key).live now).members.map Member.id

/-- The events to be handed out again have natural scores, whichever services share the store. -/
theorem natural_redo (hop : ∀ x ∈ turns, x.request.isOperation = true) (hqueue : ColonFree queue)
    (hgroup : ColonFree group) :
    ((after turns).memory.sets.contents (q.eventSet queue .redo group).key).Natural :=
  natural_own_after hop q hqueue hgroup (by decide) (by decide)

theorem due_sorted (hop : ∀ x ∈ turns, x.request.isOperation = true) (hqueue : ColonFree queue)
    (hgroup : ColonFree group) : (due q queue group now turns).Pairwise fun a b => a < b :=
  ((natural_redo hop hqueue hgroup).live now).sorted

theorem mem_due_iff (hop : ∀ x ∈ turns, x.request.isOperation = true) (hqueue : ColonFree queue)
    (hgroup : ColonFree group) {id : EventId} :
    id ∈ due q queue group now turns
      ↔ id ∈ (after turns).memory.sets.contents (q.eventSet queue .redo group).key
        ∧ now.score < id.score := by
  have hnatural : ((after turns).memory.sets.contents (q.eventSet queue .redo group).key).Natural :=
    natural_redo hop hqueue hgroup
  rw [due, (hnatural.live now).mem_ids, hnatural.mem_live]

/-! ## Sweeping -/

/-- **What is due after a sweep**: what was to be handed out again before, and what was overdue. -/
theorem due_of_sweep (hop : ∀ x ∈ turns ++ [t], x.request.isOperation = true)
    (hfaults : ∀ x ∈ turns ++ [t], x.faults = []) (hqueue : checkName "queue" queue = .ok ())
    (hgroup : checkName "group" group = .ok ()) (hbase : t.queue.base = q.base)
    (hrequest : t.request = .sweep queue group) :
    let g := groupAfter q queue group turns
    (∃ report, ((after turns).turn t).1 = .ok (.swept report))
      ∧ ∀ id, id ∈ due q queue group t.now (turns ++ [t])
        ↔ t.now.score < id.score ∧ (id ∈ g.redo
          ∨ ∃ deadline, g.inProgressByAck[id]? = some deadline ∧ deadline < t.now.score) := by
  intro g
  rw [List.forall_mem_append, List.forall_mem_singleton] at hfaults
  have hbefore : ∀ x ∈ turns, x.request.isOperation = true :=
    fun x hx => hop x (List.mem_append_left _ hx)
  have hsound := sound_after hbefore
  obtain ⟨hreply, hmemory, -⟩ := turn_of_faultless (faults_after hfaults.1) hfaults.2
  obtain ⟨purged, sets, hsweep, hcontents⟩ :=
    @Memory.converse_sweep t.queue t.now queue group _ hsound hqueue hgroup
  rw [hrequest, Request.perform, Memory.converse_mapResult, hsweep] at hreply hmemory
  refine ⟨⟨_, hreply⟩, fun id => ?_⟩
  have hredo : (after (turns ++ [t])).memory.sets.contents (q.eventSet queue .redo group).key
      = (g.requeue t.now).redo.live t.now := by
    rw [after_concat, hmemory]
    rw [Queue.groupSets_of_base hbase] at hcontents
    exact congrArg GroupContents.redo hcontents
  have hq := colonFree_of_checkName hqueue
  have hg := colonFree_of_checkName hgroup
  have hnatural : (g.requeue t.now).redo.Natural :=
    GroupContents.Natural.redo_requeue (natural_redo hbefore hq hg) t.now
  rw [mem_due_iff hop hq hg, hredo, hnatural.mem_live, GroupContents.mem_redo_requeue,
    GroupContents.mem_overdue_iff]
  constructor
  · rintro ⟨⟨hid, hlive⟩, -⟩
    exact ⟨hlive, hid.symm⟩
  · rintro ⟨hlive, hid⟩
    exact ⟨⟨hid.symm, hlive⟩, hlive⟩

/-! ## Getting -/

/-- An event that is due has its payload. -/
theorem handOut_due (hop : ∀ x ∈ turns, x.request.isOperation = true)
    (hnow : ∀ x ∈ turns, x.now ≤ now) (hlast : now < Instant.latest) (hqueue : ColonFree queue)
    (hgroup : ColonFree group) {id : EventId} (hid : id ∈ due q queue group now turns) :
    ∃ event : Event, event.id = id
      ∧ (after turns).memory.handOut now (some id) = .ok (some event) := by
  obtain ⟨hmem, hlive⟩ := (mem_due_iff hop hqueue hgroup).mp hid
  obtain ⟨payload, -, hkeyed, hhanded⟩ := handOut_of_mem hop hnow hlast hmem hlive
  exact ⟨payload.event, hkeyed, hhanded⟩

/-- **A get returns what is due first**, and the rest stays due. -/
theorem due_of_get (hop : ∀ x ∈ turns, x.request.isOperation = true)
    (hfaults : ∀ x ∈ turns ++ [t], x.faults = []) (hnow : ∀ x ∈ turns, x.now ≤ t.now)
    (hlast : t.now < Instant.latest) (hqueue : checkName "queue" queue = .ok ())
    (hgroup : checkName "group" group = .ok ()) (ht : t.GetsFor q queue group) {id : EventId}
    {rest : List EventId} (hdue : due q queue group t.now turns = id :: rest) :
    (∃ event, ((after turns).turn t).1 = .ok (.event (some event)) ∧ event.id = id)
      ∧ due q queue group t.now (turns ++ [t]) = rest := by
  have hq := colonFree_of_checkName hqueue
  have hg := colonFree_of_checkName hgroup
  obtain ⟨hbase, hgets⟩ := ht
  cases hrequest : t.request with
  | get cmd =>
      rw [hrequest] at hgets
      obtain ⟨rfl, rfl⟩ := hgets
      -- the first event that is due is the next one in turn
      let g := groupAfter q cmd.queue cmd.group turns
      obtain ⟨m, ms, hmembers, rfl, rfl⟩ := List.map_eq_cons_iff.mp hdue
      have hmembers : (g.redo.live t.now).members = m :: ms := hmembers
      have hfirst : (g.redo.live t.now).first? = some m.id := by
        rw [Contents.first?, hmembers]
        rfl
      have hnext : (g.dropExpired t.now).next? = some m.id := by
        rw [GroupContents.next?, GroupContents.dropExpired, hfirst]
      obtain ⟨event, hevent, hhanded⟩ := handOut_due hop hnow hlast hq hg (hdue ▸ List.mem_cons_self)
      have hreply : ((after turns).turn t).1 = .ok (.event (some event)) := by
        rw [reply_of_get hop hfaults hrequest hqueue hgroup, groupAfter_of_base hbase, hnext, hhanded]
        rfl
      refine ⟨⟨event, hreply, hevent⟩, ?_⟩
      -- what is left is due, as it was before
      obtain ⟨-, -, -, hafter⟩ := own_get_of_turn hop hrequest hreply
      rw [groupAfter_of_base hbase, groupAfter_of_base hbase] at hafter
      have hredo : (after (turns ++ [t])).memory.sets.contents
            (q.eventSet cmd.queue .redo cmd.group).key = (g.redo.live t.now).erase m.id := by
        have hdequeue : (groupAfter q cmd.queue cmd.group (turns ++ [t])).redo
            = (g.dequeue t.now cmd.deadline).redo := congrArg (fun s : GroupState => s.redo) hafter
        rw [GroupContents.dequeue_of_some hnext] at hdequeue
        refine hdequeue.trans ?_
        cases cmd.deadline <;> rfl
      rw [due, hredo, Contents.live_erase, Contents.live_live, Contents.members_erase_first hmembers]
  | _ => simp [hrequest, Request.gets] at hgets

/-! ## Other requests -/

/-- **Other requests leave what is due in its place**, and at most add events behind. -/
theorem due_of_foreign (hop : ∀ x ∈ turns ++ [t], x.request.isOperation = true)
    (hnow : ∀ x ∈ turns, x.now ≤ t.now) (hqueue : ColonFree queue) (hgroup : ColonFree group)
    (ht : t.queue.base = q.base → ¬ t.request.concerns queue group) :
    due q queue group t.now turns <+: due q queue group t.now (turns ++ [t]) := by
  rw [List.forall_mem_append, List.forall_mem_singleton] at hop
  let key := (q.eventSet queue .redo group).key
  have hsound := sound_after hop.1
  have hbacked := backed_after hop.1 hnow
  have hnatural : ((after turns).memory.sets.contents key).Natural := natural_redo hop.1 hqueue hgroup
  by_cases hadd : ∃ cmd, t.request = .add cmd
  · obtain ⟨cmd, hrequest⟩ := hadd
    have hkept : Ensures t.now (t.request.perform t.queue t.now).run (after turns).memory
        fun _ memory => due q queue group t.now turns
          <+: ((memory.sets.contents key).live t.now).members.map Member.id := by
      rw [hrequest, Request.perform, ensures_operation_map]
      refine (ensures_add hsound cmd).mono fun _ memory houtcome => ?_
      cases houtcome with
      | refused failure => exact List.prefix_rfl
      | issued failure id hlast hlater hsets =>
          rw [hsets]
          exact List.prefix_rfl
      | added id hcmd hlast hlater hsets =>
          rw [hsets]
          split
          · -- a new event is later than all others
            have hbefore : ∀ x ∈ ((after turns).memory.sets.contents key).live t.now, x < id := by
              intro x hx
              obtain ⟨⟨last, hlast, hle⟩, -⟩ := hbacked key x (Contents.mem_of_mem_live hx)
              exact Int.lt_of_le_of_lt hle (hlater last hlast)
            rw [hnatural.ids_live_insert hbefore]
            exact List.prefix_append _ _
          · exact List.prefix_rfl
    exact after_of_ensures hkept
  · -- no other request changes what is alive in the set
    have hlive : ((after (turns ++ [t])).memory.sets.contents key).live t.now
        = ((after turns).memory.sets.contents key).live t.now := by
      refine turn_keeps_sound (I := fun memory => (memory.sets.contents key).live t.now = _) hop.1 hop.2
        (fun call hcall memory hsound hmemory => ?_) rfl
      refine (hcall.live (fun cmd heq => hadd ⟨cmd, heq⟩) ?_ hsound).trans hmemory
      intro queue' group' hqueue' hgroup' hconcerns
      refine Queue.key_ne_of_mem_own hqueue hgroup hqueue' hgroup' ?_ (by decide)
      rintro ⟨hbase, rfl, rfl⟩
      exact ht hbase hconcerns
    have hdue : due q queue group t.now (turns ++ [t]) = due q queue group t.now turns :=
      congrArg (fun held => (Contents.members held).map Member.id) hlive
    exact ⟨[], by rw [List.append_nil, hdue]⟩

/-! ## The gets after a sweep -/

/-- What the gets of a group are told in some turns, in order. -/
def told (q : Queue) (queue group : String) (session : Session) (turns : List Turn) :
    List (Except Failure Response) :=
  ((session.transcript turns).filter fun entry => entry.1.GetsFor q queue group).map Prod.snd

theorem told_cons (turns : List Turn) (t : Turn) (later : List Turn) :
    (after turns).told q queue group (t :: later)
      = if t.GetsFor q queue group then
          ((after turns).turn t).1 :: (after (turns ++ [t])).told q queue group later
        else (after (turns ++ [t])).told q queue group later := by
  rw [told, transcript_cons, List.filter_cons]
  by_cases ht : t.GetsFor q queue group
  · simp [ht, told]
  · simp [ht, told]

theorem told_concat (turns : List Turn) (t : Turn) :
    fresh.told q queue group (turns ++ [t]) = fresh.told q queue group turns
      ++ if t.GetsFor q queue group then [((after turns).turn t).1] else [] := by
  rw [told, transcript_concat, List.filter_append, List.map_append, ← told]
  by_cases ht : t.GetsFor q queue group <;> simp [ht]

/-- **As long as something is due, gets return it in order**, by induction on the turns: each get takes the
    first event that is due, and all else leaves the events due in their place. -/
theorem told_of_due (hqueue : checkName "queue" queue = .ok ()) (hgroup : checkName "group" group = .ok ())
    (hlast : now < Instant.latest) {later : List Turn}
    (hrun : ∀ t ∈ turns ++ later, t.request.isOperation = true ∧ t.faults = [])
    (hbefore : ∀ t ∈ turns, t.now ≤ now)
    (hlater : ∀ t ∈ later, t.now = now ∧ (t.queue.base = q.base →
      t.request.concerns queue group → t.request.gets queue group))
    {remaining : List EventId} (hdue : remaining <+: due q queue group now turns) :
    ∀ (k : Nat) (hk : k < remaining.length) (reply : Except Failure Response),
      ((after turns).told q queue group later)[k]? = some reply →
        ∃ event, reply = .ok (.event (some event)) ∧ event.id = remaining[k] := by
  induction later generalizing turns remaining with
  | nil =>
      intro k hk reply hreply
      simp [told, transcript] at hreply
  | cons t later ih =>
      obtain ⟨⟨rfl, hown⟩, hrest⟩ := List.forall_mem_cons.mp hlater
      rw [List.append_cons] at hrun
      have hopTo : ∀ x ∈ turns ++ [t], x.request.isOperation = true :=
        fun x hx => (hrun x (List.mem_append_left _ hx)).1
      have hop : ∀ x ∈ turns, x.request.isOperation = true :=
        fun x hx => hopTo x (List.mem_append_left _ hx)
      have hfaults : ∀ x ∈ turns ++ [t], x.faults = [] :=
        fun x hx => (hrun x (List.mem_append_left _ hx)).2
      have hnow : ∀ x ∈ turns ++ [t], x.now ≤ t.now := by
        rw [List.forall_mem_append, List.forall_mem_singleton]
        exact ⟨hbefore, Int.le_refl _⟩
      rw [told_cons]
      intro k hk reply hreply
      by_cases ht : t.GetsFor q queue group
      · rw [if_pos ht] at hreply
        cases remaining with
        | nil => exact absurd hk (Nat.not_lt_zero k)
        | cons id remaining =>
            obtain ⟨rest, hrest'⟩ := hdue
            obtain ⟨htold, hleft⟩ := due_of_get hop hfaults hbefore hlast hqueue hgroup ht hrest'.symm
            cases k with
            | zero =>
                obtain rfl := Option.some.inj hreply
                exact htold
            | succ k =>
                exact ih hrun hnow hrest (hleft ▸ List.prefix_append remaining rest) k
                  (Nat.lt_of_succ_lt_succ hk) reply hreply
      · rw [if_neg ht] at hreply
        have hforeign : t.queue.base = q.base → ¬ t.request.concerns queue group :=
          fun hbase hconcerns => ht ⟨hbase, hown hbase hconcerns⟩
        have hkept := due_of_foreign hopTo hbefore (colonFree_of_checkName hqueue)
          (colonFree_of_checkName hgroup) hforeign
        exact ih hrun hnow hrest (hdue.trans hkept) k hk reply hreply

end Session

/-- **What nobody acknowledged is handed out again, first and in order.** In every state that a run without
    failing calls can reach, whichever services share the store: a sweep of a group succeeds, and what its
    next gets return, at the same clock reading and with or without deadlines, are the events that are still
    alive and were to be handed out again or overdue before the sweep, each once and in order. Anything else
    may happen in between, except to the group itself. -/
theorem redelivered_in_order {q : Queue} {queue group : String} {now : Instant} {turns later : List Turn}
    {sweep : Turn} (hqueue : checkName "queue" queue = .ok ())
    (hgroup : checkName "group" group = .ok ()) (hnow : now < Instant.latest)
    (hrun : ∀ t ∈ turns ++ [sweep] ++ later, t.request.isOperation = true ∧ t.faults = [])
    (hbefore : ∀ t ∈ turns, t.now ≤ now)
    (hsweep : sweep.queue.base = q.base ∧ sweep.request = .sweep queue group ∧ sweep.now = now)
    (hlater : ∀ t ∈ later, t.now = now ∧ (t.queue.base = q.base →
      t.request.concerns queue group → t.request.gets queue group)) :
    let g := Session.groupAfter q queue group turns
    (∃ report, ((Session.after turns).turn sweep).1 = .ok (.swept report))
      ∧ ∃ due : List EventId, due.Pairwise (fun a b => a < b)
        ∧ (∀ id, id ∈ due ↔ now.score < id.score ∧ (id ∈ g.redo
          ∨ ∃ deadline, g.inProgressByAck[id]? = some deadline ∧ deadline < now.score))
        ∧ ∀ (k : Nat) (hk : k < due.length) (reply : Except Failure Response),
          ((Session.after (turns ++ [sweep])).told q queue group later)[k]? = some reply →
            ∃ event, reply = .ok (.event (some event)) ∧ event.id = due[k] := by
  intro g
  obtain ⟨hbase, hrequest, rfl⟩ := hsweep
  have hop : ∀ t ∈ turns ++ [sweep], t.request.isOperation = true :=
    fun t ht => (hrun t (List.mem_append_left _ ht)).1
  have hfaults : ∀ t ∈ turns ++ [sweep], t.faults = [] :=
    fun t ht => (hrun t (List.mem_append_left _ ht)).2
  obtain ⟨hswept, hdue⟩ := Session.due_of_sweep hop hfaults hqueue hgroup hbase hrequest
  have hclock : ∀ t ∈ turns ++ [sweep], t.now ≤ sweep.now := by
    rw [List.forall_mem_append, List.forall_mem_singleton]
    exact ⟨hbefore, Int.le_refl _⟩
  refine ⟨hswept, Session.due q queue group sweep.now (turns ++ [sweep]),
    Session.due_sorted hop (colonFree_of_checkName hqueue) (colonFree_of_checkName hgroup), hdue, ?_⟩
  exact Session.told_of_due hqueue hgroup hnow hrun hclock hlater List.prefix_rfl

/-- A group takes two events and lets their deadline pass. After a sweep it is handed both again, in order,
    while another group takes an event and one more is added. -/
theorem redelivered_in_order_two :
    let q : Queue := {}
    let turn (micros : Int) (request : Request) : Turn := { queue := q, now := .ofMicros micros, request }
    let add (now micros : Int) :=
      turn now (.add { queue := "q", expire := .ofMicros micros, contents := "x" })
    let get (now : Int) (group : String) (deadline : Option Int) :=
      turn now (.get { queue := "q", group, deadline := deadline.map Instant.ofMicros })
    let turns := [add 1000 5000, add 1000 6000, get 1000 "g" (some 1500), get 1000 "g" (some 1500)]
    let sweep := turn 2000 (.sweep "q" "g")
    let later := [get 2000 "h" none, get 2000 "g" none, add 2000 5500, get 2000 "g" (some 9000)]
    let told := (Session.after (turns ++ [sweep])).told q "q" "g" later
    (∀ t ∈ turns ++ [sweep] ++ later, t.request.isOperation = true ∧ t.faults = [])
      ∧ (∀ t ∈ turns, t.now ≤ .ofMicros 2000)
      ∧ (∃ report, ((Session.after turns).turn sweep).1 = .ok (.swept report))
      ∧ told.length = 2
      ∧ ∃ due : List EventId, due.Pairwise (fun a b => a < b) ∧ ⟨5000⟩ ∈ due ∧ ⟨6000⟩ ∈ due
        ∧ ∀ (k : Nat) (hk : k < due.length) (reply : Except Failure Response), told[k]? = some reply →
          ∃ event, reply = .ok (.event (some event)) ∧ event.id = due[k] := by
  intro q turn add get turns sweep later told
  have hqueue : checkName "queue" "q" = .ok () := by decide +kernel
  have hgroup : checkName "group" "g" = .ok () := by decide +kernel
  have hrun : ∀ t ∈ turns ++ [sweep] ++ later, t.request.isOperation = true ∧ t.faults = [] := by decide
  have hbefore : ∀ t ∈ turns, t.now ≤ .ofMicros 2000 := by decide
  have hlater : ∀ t ∈ later, t.now = .ofMicros 2000 ∧ (t.queue.base = q.base →
      t.request.concerns "q" "g" → t.request.gets "q" "g") := by
    simp [later, add, get, turn, Request.concerns, Request.gets, Request.acks, Request.sweeps]
  obtain ⟨hswept, due, hsorted, hdue, htold⟩ := redelivered_in_order hqueue hgroup (by decide) hrun hbefore
    (⟨rfl, rfl, rfl⟩ : sweep.queue.base = q.base ∧ _ ∧ _) hlater
  refine ⟨hrun, hbefore, hswept, by decide +kernel, due, hsorted, ?_, ?_, htold⟩
  · exact (hdue ⟨5000⟩).mpr ⟨by decide, Or.inr ⟨1500, by decide +kernel, by decide⟩⟩
  · exact (hdue ⟨6000⟩).mpr ⟨by decide, Or.inr ⟨1500, by decide +kernel, by decide⟩⟩

end GroupQueue
