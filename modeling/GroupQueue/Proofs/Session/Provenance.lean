import GroupQueue.Proofs.Session.Backing
import GroupQueue.Proofs.Session.Faultless
import GroupQueue.Proofs.Session.Namespaces

/-!
# `Proofs.Session.Provenance` — where events come from, and with which contents

In a run without failing calls, every event in a set of a queue was added to that queue: some turn asked for
it, and its caller was told the identifier. What is filed under the identifier, for as long as something is,
are the contents that were given then. The first is a property of the sets of one queue only. Their plans draw
from no others, so nothing else gets into them (`HeldIn`); services in other namespaces have no part in it as
long as they are apart (`Queue.Apart`).

## Contents
- `Queue.Holds` — the keys of the sets of a queue; `heldIn_of_makes` — what calls put under them.
- `Memory.Files` — the contents that are filed under an identifier; what calls do to them.
- `Session.Enqueued` — an event is added to a queue, with some contents.
- `Session.memory_of_add` — what a turn that adds an event comes to.
- `Session.enqueued_after` — where the events in the sets of a queue come from.
- `Session.contents_of_enqueued` — what is filed under an identifier.
-/

namespace GroupQueue

/-! ## The sets of a queue -/

/-- A key is that of a set of a queue, for any role and group. -/
def Queue.Holds (q : Queue) (queue : String) (key : String) : Prop :=
  ∃ role group, ColonFree group ∧ key = (q.eventSet queue role group).key

section Calls

variable {q q' : Queue} {queue : String} {now : Instant} {request : Request} {call : StoreCall}
  {memory : Memory} {P : EventId → Prop}

/-- **No call brings an event into the sets of a queue that was in none of them**, unless it is made to add
    one. -/
theorem heldIn_of_makes (h : request.Makes q' now call) (hadd : ∀ cmd, request ≠ .add cmd)
    (hapart : q'.Apart q) (hqueue : ColonFree queue) (hsound : memory.Sound)
    (hheld : HeldIn (q.Holds queue) P memory.sets.contents) :
    HeldIn (q.Holds queue) P (memory.answer now call).2.sets.contents := by
  cases call with
  | execute plan =>
      obtain ⟨queue', hwrites, hdraws⟩ := h.onQueue
      by_cases hwriting : plan.writes = []
      · -- a plan that writes nowhere changes nothing
        rintro key hkey id hid
        rw [Memory.answer, Memory.contents_execute hsound.sets (by simp [hwriting])] at hid
        exact hheld key hkey id hid
      · by_cases hown : q'.base = q.base ∧ queue' = queue
        · obtain ⟨hbase, rfl⟩ := hown
          refine Memory.heldIn_execute hsound.sets (fun set hset => ?_) (fun id hid => ?_) hheld
          · obtain ⟨role, group, hgroup, rfl⟩ := hdraws hwriting set hset
            refine ⟨role, group, hgroup, ?_⟩
            rw [Queue.eventSet, Queue.eventSet, hbase]
          · rw [Memory.names_of_makes h hadd] at hid
            exact absurd hid List.not_mem_nil
        · -- a plan of another queue writes to other sets
          rintro key ⟨role, group, hgroup, rfl⟩ id hid
          refine hheld _ ⟨role, group, hgroup, rfl⟩ id ?_
          rwa [Memory.answer, Memory.contents_execute hsound.sets] at hid
          intro set hset hkey
          obtain ⟨role', group', hqueue', hgroup', rfl⟩ := hwrites set hset
          have hbase := base_eq_of_key_eq hapart hqueue' hqueue hgroup' hgroup hkey
          have hsame := (key_eventSet_eq_iff hbase hqueue' hqueue (fun _ => hgroup') fun _ => hgroup).mp hkey
          exact hown ⟨hbase, congrArg EventSet.queue hsame⟩
  | _ => exact hheld

end Calls

/-! ## What is filed under an identifier -/

namespace Memory

/-- An identifier has been issued, and the event that is filed under it, if there still is one, has these
    contents. -/
structure Files (memory : Memory) (id : EventId) (contents : String) : Prop where
  issued : ∃ last ∈ memory.lastId, id ≤ last
  event : ∀ payload, memory.payloads.byId[id]? = some payload → payload.event = .new id contents

variable {memory : Memory} {id : EventId} {contents : String}

/-- It does not depend on the sets. -/
theorem Files.withSets (h : memory.Files id contents) (sets : Sets) :
    Files { memory with sets } id contents :=
  ⟨h.issued, h.event⟩

/-- A call that is not made to add an event leaves it at that, or drops it. -/
theorem Files.of_makes (h : memory.Files id contents) {q : Queue} {now : Instant} {request : Request}
    {call : StoreCall} (hcall : request.Makes q now call) (hadd : ∀ cmd, request ≠ .add cmd) :
    (memory.answer now call).2.Files id contents := by
  refine ⟨by rw [lastId_of_makes hcall hadd]; exact h.issued, fun payload hpayload => h.event payload ?_⟩
  cases call with
  | newEventId expire => exact hpayload
  | putPayload event grace =>
      cases hcall with
      | keep cmd id => exact absurd rfl (hadd cmd)
  | getPayload x => exact Payloads.getElem?_of_get hpayload
  | execute plan =>
      change (memory.execute plan).2.payloads.byId[id]? = some payload at hpayload
      rwa [execute_eq] at hpayload
  | purgePayloads => exact Payloads.getElem?_of_purge hpayload

/-- The next event has an identifier of its own. -/
theorem Files.stored (h : memory.Files id contents) (q : Queue) (cmd : AddCommand) :
    (memory.stored q cmd).Files id contents := by
  have hlt : id < EventId.nextAfter cmd.expire memory.lastId := le_nextAfter h.issued
  refine ⟨⟨_, rfl, Int.le_of_lt hlt⟩, fun payload hpayload => h.event payload ?_⟩
  rw [Memory.stored, Payloads.put, getElem?_insert_ite, if_neg] at hpayload
  · exact hpayload
  · intro heq
    exact Int.lt_irrefl _ (heq ▸ hlt)

theorem files_stored (memory : Memory) (q : Queue) (cmd : AddCommand) :
    (memory.stored q cmd).Files (EventId.nextAfter cmd.expire memory.lastId) cmd.contents := by
  refine ⟨⟨_, rfl, Int.le_refl _⟩, fun payload hpayload => ?_⟩
  rw [Memory.stored, Payloads.put, getElem?_insert_ite, if_pos (by rfl)] at hpayload
  rw [← Option.some.inj hpayload]

end Memory

namespace Session

/-! ## Adding -/

/-- In one of the turns, a queue is given an event with some contents, and the caller is told its
    identifier. -/
def Enqueued (q : Queue) (queue : String) (id : EventId) (contents : String) (turns : List Turn) : Prop :=
  ∃ before x later cmd, turns = before ++ x :: later ∧ x.request = .add cmd ∧ x.queue.base = q.base
    ∧ cmd.queue = queue ∧ cmd.contents = contents ∧ ((after before).turn x).1 = .ok (.issued id)

variable {q : Queue} {queue contents : String} {id : EventId} {turns : List Turn} {t : Turn}

theorem Enqueued.concat (h : Enqueued q queue id contents turns) (t : Turn) :
    Enqueued q queue id contents (turns ++ [t]) := by
  obtain ⟨before, x, later, cmd, rfl, hx⟩ := h
  exact ⟨before, x, later ++ [t], cmd, by simp, hx⟩

/-- An event that has been added was added before the last turn, or in it. -/
theorem Enqueued.cases (h : Enqueued q queue id contents (turns ++ [t])) :
    Enqueued q queue id contents turns
      ∨ ∃ cmd, t.request = .add cmd ∧ t.queue.base = q.base ∧ cmd.queue = queue
        ∧ cmd.contents = contents ∧ ((after turns).turn t).1 = .ok (.issued id) := by
  obtain ⟨before, x, later, cmd, hsplit, hx⟩ := h
  rcases List.eq_nil_or_concat later with rfl | ⟨later, last, rfl⟩
  · obtain ⟨rfl, hlast⟩ := List.append_inj' hsplit rfl
    obtain rfl := List.singleton_inj.mp hlast
    exact Or.inr ⟨cmd, hx⟩
  · rw [List.concat_eq_append, ← List.cons_append, ← List.append_assoc] at hsplit
    obtain ⟨rfl, -⟩ := List.append_inj' hsplit rfl
    exact Or.inl ⟨before, x, later, cmd, rfl, hx⟩

/-- **What a turn that adds an event comes to**, when no call fails: it is refused, or the event is put into
    the shared set of its queue, with its payload. -/
theorem memory_of_add (hop : ∀ x ∈ turns, x.request.isOperation = true)
    (hfaults : ∀ x ∈ turns ++ [t], x.faults = []) {cmd : AddCommand} (hrequest : t.request = .add cmd) :
    let memory := (after turns).memory
    let id := EventId.nextAfter cmd.expire memory.lastId
    ((∃ reason, ((after turns).turn t).1 = .error (.validation reason))
        ∧ (after (turns ++ [t])).memory = memory)
      ∨ ColonFree cmd.queue ∧ ((after turns).turn t).1 = .ok (.issued id)
        ∧ ∃ sets, (after (turns ++ [t])).memory = { memory.stored t.queue cmd with sets }
          ∧ ∀ key, sets.contents key
            = if (t.queue.eventSet cmd.queue .available "").key = key then
                (memory.sets.contents key).insert id id.score
              else memory.sets.contents key := by
  intro memory id
  by_cases haccepted : t.request.Accepted
  · rw [List.forall_mem_append, List.forall_mem_singleton] at hfaults
    obtain ⟨hreply, hmemory, -⟩ := turn_of_faultless (faults_after hfaults.1) hfaults.2
    rw [hrequest] at haccepted
    obtain ⟨hqueue, hcontents⟩ := haccepted
    obtain ⟨sets, hadd, hsets⟩ := @Memory.converse_add _ t.queue t.now (sound_after hop) cmd hqueue hcontents
    rw [hrequest, Request.perform, Memory.converse_mapResult, hadd] at hreply hmemory
    rw [after_concat]
    exact Or.inr ⟨colonFree_of_checkName hqueue, hreply, sets, hmemory, hsets⟩
  · exact Or.inl (turn_of_refused hfaults haccepted)

/-- **Every event in a set of a queue was added to that queue**, by induction on the turns. -/
theorem enqueued_after (hop : ∀ x ∈ turns, x.request.isOperation = true)
    (hfaults : ∀ x ∈ turns, x.faults = []) (hapart : ∀ x ∈ turns, x.queue.Apart q)
    (hqueue : ColonFree queue) :
    HeldIn (q.Holds queue) (fun id => ∃ contents, Enqueued q queue id contents turns)
      (after turns).memory.sets.contents := by
  induction turns using List.reverseRecOn with
  | nil =>
      intro key hkey id hid
      change id ∈ Sets.contents {} key at hid
      rw [Sets.contents_fresh] at hid
      exact absurd hid Std.ExtTreeMap.not_mem_empty
  | append_singleton turns t ih =>
      have hrun := hop
      rw [List.forall_mem_append, List.forall_mem_singleton] at hop hapart
      have hbefore := ih hop.1 (fun x hx => hfaults x (List.mem_append_left _ hx)) hapart.1
      have hheld : HeldIn (q.Holds queue) (fun id => ∃ contents, Enqueued q queue id contents (turns ++ [t]))
          (after turns).memory.sets.contents := by
        intro key hkey id hid
        obtain ⟨contents, hadded⟩ := hbefore key hkey id hid
        exact ⟨contents, hadded.concat t⟩
      by_cases hadd : ∃ cmd, t.request = .add cmd
      · obtain ⟨cmd, hrequest⟩ := hadd
        rcases memory_of_add hop.1 hfaults hrequest with ⟨-, hmemory⟩ | ⟨hcmd, hreply, sets, hmemory, hsets⟩
        · rwa [hmemory]
        · rw [hmemory]
          rintro key ⟨role, group, hgroup, rfl⟩ id hid
          change id ∈ sets.contents _ at hid
          rw [hsets] at hid
          split at hid
          · next hkey =>
            -- the shared set that the event was put into is one of the sets of the queue
            have hbase := base_eq_of_key_eq hapart.2 hcmd hqueue (by decide) hgroup hkey
            have hset := (key_eventSet_eq_iff hbase hcmd hqueue (fun _ => by decide) fun _ => hgroup).mp hkey
            rcases Std.ExtTreeMap.mem_insert.mp hid with hid | hid
            · obtain rfl := Std.LawfulEqOrd.eq_of_compare hid
              exact ⟨cmd.contents, turns, t, [], cmd, rfl, hrequest, hbase, congrArg EventSet.queue hset, rfl,
                hreply⟩
            · exact hheld _ ⟨role, group, hgroup, rfl⟩ id hid
          · exact hheld _ ⟨role, group, hgroup, rfl⟩ id hid
      · refine turn_keeps_sound (I := fun memory => HeldIn _ _ memory.sets.contents) hop.1 hop.2 ?_ hheld
        exact fun call hcall memory hsound hmemory =>
          heldIn_of_makes hcall (fun cmd heq => hadd ⟨cmd, heq⟩) hapart.2 hqueue hsound hmemory

/-- **What is filed under the identifier of an event are the contents that it was added with**, by induction
    on the turns: later identifiers are later than it, and other requests only drop payloads. -/
theorem contents_of_enqueued (hop : ∀ x ∈ turns, x.request.isOperation = true)
    (hfaults : ∀ x ∈ turns, x.faults = []) (h : Enqueued q queue id contents turns) :
    (after turns).memory.Files id contents := by
  induction turns using List.reverseRecOn with
  | nil =>
      obtain ⟨before, x, later, cmd, hsplit, -⟩ := h
      simp at hsplit
  | append_singleton turns t ih =>
      rw [List.forall_mem_append, List.forall_mem_singleton] at hop
      have hearlier (hadded : Enqueued q queue id contents turns) : (after turns).memory.Files id contents :=
        ih hop.1 (fun x hx => hfaults x (List.mem_append_left _ hx)) hadded
      by_cases hadd : ∃ cmd, t.request = .add cmd
      · obtain ⟨cmd, hrequest⟩ := hadd
        rcases memory_of_add hop.1 hfaults hrequest with
          ⟨⟨failure, hfailed⟩, hmemory⟩ | ⟨-, hreply, sets, hmemory, -⟩
        · rw [hmemory]
          rcases h.cases with hadded | ⟨cmd', -, -, -, -, hissued⟩
          · exact hearlier hadded
          · rw [hfailed] at hissued
            cases hissued
        · rw [hmemory]
          rcases h.cases with hadded | ⟨cmd', hrequest', -, -, rfl, hissued⟩
          · exact ((hearlier hadded).stored t.queue cmd).withSets sets
          · obtain rfl : cmd = cmd' := by
              rw [hrequest] at hrequest'
              exact Request.add.inj hrequest'
            obtain rfl : EventId.nextAfter cmd.expire (after turns).memory.lastId = id := by
              rw [hreply] at hissued
              exact Response.issued.inj (Except.ok.inj hissued)
            exact (Memory.files_stored _ t.queue cmd).withSets sets
      · rcases h.cases with hadded | ⟨cmd, hrequest, -⟩
        · refine turn_keeps (I := fun memory => memory.Files id contents) hop.2 ?_ (hearlier hadded)
          exact fun call hcall memory hmemory => hmemory.of_makes hcall fun cmd heq => hadd ⟨cmd, heq⟩
        · exact absurd ⟨cmd, hrequest⟩ hadd

end Session

end GroupQueue
