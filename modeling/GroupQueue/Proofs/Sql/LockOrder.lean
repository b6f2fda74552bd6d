import GroupQueue.Proofs.Session.Runs
import GroupQueue.Proofs.Sql.Protocol

/-!
# `Proofs.Sql.LockOrder` — in which order two plans request their locks

A plan locks its sets in the order of sets, but what it locks is a key. Where two sets have one key, the
order of sets does not settle which of two keys comes first: two plans that name the key by different sets
can request the same locks crosswise. This is the only way (`exists_of_crossed`), and since the plans that
the operations of a queue have executed name each key by one set, they never do (`not_crossed_of_ownPlan`).

## Contents
- `requested` — the keys that are locked, in order; `requested_prefix`.
- `RequestedBefore` — both keys are requested, one earlier than the other; `sets_of_requestedBefore`.
- `Queue.OwnPlan.sets_cases` — which sets the plan of an operation names.
- `exists_of_crossed`, `not_crossed_of_ownPlan`, `locks_in_order` — the results.
-/

namespace GroupQueue

/-! ## The plans of a queue -/

/-- The plan of an operation names a single set, or sets of one group of a queue. -/
theorem Queue.OwnPlan.sets_cases {q : Queue} {now : Instant} {plan : Plan} (h : q.OwnPlan now plan) :
    (∃ only, ∀ set ∈ plan.sets, set = only)
      ∨ ∃ queue group, ColonFree queue ∧ ColonFree group
          ∧ ∀ set ∈ plan.sets, ∃ role, set = q.eventSet queue role group := by
  have hrole (role : Role) (queue group : String) :
      ∃ role', q.eventSet queue role group = q.eventSet queue role' group := ⟨role, rfl⟩
  cases h with
  | @add queue hqueue id =>
      refine Or.inl ⟨q.eventSet queue .available "", Plan.forall_sets_of_mentions ?_⟩
      simp [Queue.addPlan, Step.pick, Step.mentions, Selection.set?]
  | @get cmd hqueue hgroup =>
      refine Or.inr ⟨cmd.queue, cmd.group, hqueue, hgroup, Plan.forall_sets_of_mentions ?_⟩
      cases hd : cmd.deadline <;>
        simp [Queue.getPlan, Queue.takeSteps, dropExpired, Queue.groupSets, hd, Step.pick, Step.mentions,
          Selection.first, Selection.set?, Condition.mentions, Condition.mentionsOfAll, hrole]
  | @ack cmd hqueue hgroup =>
      refine Or.inr ⟨cmd.queue, cmd.group, hqueue, hgroup, Plan.forall_sets_of_mentions ?_⟩
      simp [Queue.ackPlan, Queue.groupSets, Step.pick, Step.mentions, Selection.set?, Condition.mentions,
        hrole]
  | @requeue queue group hqueue hgroup =>
      refine Or.inr ⟨queue, group, hqueue, hgroup, Plan.forall_sets_of_mentions ?_⟩
      simp [Queue.requeuePlan, Queue.groupSets, Step.pick, Step.mentions, Selection.set?, hrole]
  | purge queue role group =>
      refine Or.inl ⟨q.eventSet queue role group, Plan.forall_sets_of_mentions ?_⟩
      simp [Queue.purgePlan, dropExpired, Step.pick, Step.mentions, Selection.set?]
  | len queue role group =>
      refine Or.inl ⟨q.eventSet queue role group, Plan.forall_sets_of_mentions ?_⟩
      simp [Queue.lenPlan, Step.pick, Step.mentions, Selection.set?]

namespace Sql

/-! ## Requests for locks -/

/-- The key whose lock a statement requests until the end of the transaction. -/
def Statement.lockKey? : Statement → Option String
  | .lock key => some key
  | _ => none

/-- The keys whose locks are requested, in order. -/
def requested (sent : List Exchange) : List String :=
  (sent.map Exchange.statement).filterMap Statement.lockKey?

/-- Both keys are requested, the one before the other. What counts is the first request of a key. -/
def RequestedBefore (k l : String) (keys : List String) : Prop :=
  keys.idxOf k < keys.idxOf l ∧ l ∈ keys

instance (k l : String) (keys : List String) : Decidable (RequestedBefore k l keys) :=
  inferInstanceAs (Decidable (_ ∧ _))

theorem lockKeys_locks (sets : List EventSet) :
    (locks sets).filterMap Statement.lockKey? = sets.map EventSet.key := by
  induction sets with
  | nil => rfl
  | cons set sets ih => exact congrArg (set.key :: ·) ih

theorem lockKeys_aboutSets {sets : List EventSet} {asked : List Statement} (h : AboutSets sets asked) :
    asked.filterMap Statement.lockKey? = [] := by
  rw [List.filterMap_eq_nil_iff]
  intro statement hstatement
  obtain ⟨set, -, hkey⟩ := h statement hstatement
  cases statement with
  | lock key => contradiction
  | _ => rfl

/-- **The locks that are requested are those of the sets of the plan, in their order**, as far as it goes. -/
theorem requested_prefix (plan : Plan) {σ : Type} (server : SqlServer σ) (s : σ) :
    requested (hold server (executePlan plan).run s).2 <+: plan.sets.map EventSet.key := by
  obtain ⟨asked, main, hasked, -, hmain, hsent⟩ := ((always_course plan).hold server s).order
  have hkeys : requested (hold server (executePlan plan).run s).2 = main.filterMap Statement.lockKey? := by
    rw [requested]
    rcases hsent with hsent | hsent
    · rw [hsent]
    · rw [hsent, List.filterMap_append]
      exact List.append_nil _
  have hall : (opening plan ++ asked ++ [Statement.commit]).filterMap Statement.lockKey?
      = plan.sets.map EventSet.key := by
    rw [List.filterMap_append, List.filterMap_append, lockKeys_aboutSets hasked, opening,
      List.filterMap_cons_none rfl, lockKeys_locks]
    simp [Statement.lockKey?]
  rw [hkeys, ← hall]
  exact hmain.filterMap _

/-- What is requested first in a part of a list is requested first in the whole. -/
theorem RequestedBefore.of_prefix {k l : String} {keys whole : List String} (h : RequestedBefore k l keys)
    (hpart : keys <+: whole) : RequestedBefore k l whole := by
  obtain ⟨rest, rfl⟩ := hpart
  obtain ⟨hlt, hl⟩ := h
  have hk : k ∈ keys := List.idxOf_lt_length_iff.mp (Nat.lt_trans hlt (List.idxOf_lt_length_of_mem hl))
  refine ⟨?_, List.mem_append_left rest hl⟩
  rwa [List.idxOf_append_of_mem hk, List.idxOf_append_of_mem hl]

/-- Where the sets are in order, keys are requested one before the other for sets that are. -/
theorem sets_of_requestedBefore {sets : List EventSet} (hsets : EventSet.Increasing sets) {k l : String}
    (h : RequestedBefore k l (sets.map EventSet.key)) :
    ∃ a ∈ sets, ∃ b ∈ sets, a.key = k ∧ b.key = l ∧ a.compare b = .lt := by
  obtain ⟨hlt, hl⟩ := h
  have hj := List.idxOf_lt_length_of_mem hl
  have hi := Nat.lt_trans hlt hj
  have hkey {x : String} (hx : (sets.map EventSet.key).idxOf x < (sets.map EventSet.key).length) :
      (sets.get ⟨_, List.length_map EventSet.key ▸ hx⟩).key = x := by
    rw [List.get_eq_getElem, ← List.getElem_map EventSet.key, List.getElem_idxOf]
    exact hx
  exact ⟨_, List.getElem_mem _, _, List.getElem_mem _, hkey hi, hkey hj,
    List.pairwise_iff_getElem.mp hsets _ _ _ _ hlt⟩

/-- **Plans request two locks crosswise only if they name one of the keys by different sets.** -/
theorem exists_of_crossed {sets sets' : List EventSet} (hsets : EventSet.Increasing sets)
    (hsets' : EventSet.Increasing sets') {k l : String}
    (h : RequestedBefore k l (sets.map EventSet.key)) (h' : RequestedBefore l k (sets'.map EventSet.key)) :
    ∃ a ∈ sets, ∃ b ∈ sets', a ≠ b ∧ a.key = b.key ∧ (a.key = k ∨ a.key = l) := by
  obtain ⟨a, ha, b, hb, rfl, rfl, hlt⟩ := sets_of_requestedBefore hsets h
  obtain ⟨b', hb', a', ha', hkeyb, hkeya, hlt'⟩ := sets_of_requestedBefore hsets' h'
  by_cases hsame : a = a'
  · refine ⟨b, hb, b', hb', ?_, hkeyb.symm, Or.inr rfl⟩
    -- else the two sets would come in both orders
    rintro rfl
    rw [← hsame] at hlt'
    exact EventSet.ne_of_compare_lt (Std.TransCmp.lt_trans hlt hlt') rfl
  · exact ⟨a, ha, a', ha', hsame, hkeya.symm, Or.inl rfl⟩

/-! ## The plans of two services -/

section OwnPlans

variable {q q' : Queue} {now now' : Instant} {plan plan' : Plan}

/-- **The plans of two services never request two locks crosswise**, whatever their namespaces are. -/
theorem not_crossed_of_ownPlan (hplan : q.OwnPlan now plan) (hplan' : q'.OwnPlan now' plan') {k l : String}
    (h : RequestedBefore k l (plan.sets.map EventSet.key)) :
    ¬ RequestedBefore l k (plan'.sets.map EventSet.key) := by
  intro h'
  obtain ⟨a, ha, b, hb, rfl, rfl, hlt⟩ := sets_of_requestedBefore plan.increasing_sets h
  obtain ⟨b', hb', a', ha', hkeyb, hkeya, hlt'⟩ := sets_of_requestedBefore plan'.increasing_sets h'
  -- each plan names two sets, so they are sets of one group each
  rcases hplan.sets_cases with ⟨only, honly⟩ | ⟨queue, group, hqueue, hgroup, hsets⟩
  · exact EventSet.ne_of_compare_lt hlt ((honly a ha).trans (honly b hb).symm)
  rcases hplan'.sets_cases with ⟨only, honly⟩ | ⟨queue', group', hqueue', hgroup', hsets'⟩
  · exact EventSet.ne_of_compare_lt hlt' ((honly b' hb').trans (honly a' ha').symm)
  by_cases hbase : q.base = q'.base
  · -- inside a namespace a key is that of one set
    obtain ⟨x, hx, y, hy, hne, hkey, -⟩ :=
      exists_of_crossed plan.increasing_sets plan'.increasing_sets h h'
    obtain ⟨role, rfl⟩ := hsets x hx
    obtain ⟨role', rfl⟩ := hsets' y hy
    exact hne ((key_eventSet_eq_iff hbase hqueue hqueue' (fun _ => hgroup) fun _ => hgroup').mp hkey)
  · -- namespaces that overlap have one key in common, that of a shared set
    obtain ⟨ra, rfl⟩ := hsets a ha
    obtain ⟨rb, rfl⟩ := hsets b hb
    obtain ⟨ra', rfl⟩ := hsets' a' ha'
    obtain ⟨rb', rfl⟩ := hsets' b' hb'
    rcases (key_eq_iff_of_base_ne hbase hqueue hqueue' hgroup hgroup').mp hkeya.symm with
        ⟨rfl, hover⟩ | ⟨rfl, hover⟩ <;>
      rcases (key_eq_iff_of_base_ne hbase hqueue hqueue' hgroup hgroup').mp hkeyb.symm with
        ⟨rfl, hover'⟩ | ⟨rfl, hover'⟩
    · exact EventSet.ne_of_compare_lt hlt rfl
    · exact Queue.not_extends_of_extends ⟨_, hqueue', hover.2.1⟩ ⟨_, hqueue, hover'.2.1⟩
    · exact Queue.not_extends_of_extends ⟨_, hqueue, hover.2.1⟩ ⟨_, hqueue', hover'.2.1⟩
    · exact EventSet.ne_of_compare_lt hlt' rfl

end OwnPlans

/-! ## Two plans -/

/-- **Where two plans request their locks in different orders, they name a key by different sets**; the plans
    of queue services do not. Nothing is assumed of the servers. -/
theorem locks_in_order (plan plan' : Plan) {σ σ' : Type} (server : SqlServer σ) (server' : SqlServer σ')
    (s : σ) (s' : σ') :
    let keys := requested (hold server (executePlan plan).run s).2
    let keys' := requested (hold server' (executePlan plan').run s').2
    (∀ k l, RequestedBefore k l keys → RequestedBefore l k keys' →
      ∃ a ∈ plan.sets, ∃ b ∈ plan'.sets, a ≠ b ∧ a.key = b.key ∧ (a.key = k ∨ a.key = l))
    ∧ ∀ q q' now now', Queue.OwnPlan q now plan → Queue.OwnPlan q' now' plan' →
      ∀ k l, RequestedBefore k l keys → ¬ RequestedBefore l k keys' := by
  intro keys keys'
  have hkeys : keys <+: plan.sets.map EventSet.key := requested_prefix plan server s
  have hkeys' : keys' <+: plan'.sets.map EventSet.key := requested_prefix plan' server' s'
  refine ⟨fun k l h h' => ?_, fun q q' now now' hplan hplan' k l h h' => ?_⟩
  · exact exists_of_crossed plan.increasing_sets plan'.increasing_sets (h.of_prefix hkeys) (h'.of_prefix hkeys')
  · exact not_crossed_of_ownPlan hplan hplan' (h.of_prefix hkeys) (h'.of_prefix hkeys')

/-- Taking an event and acknowledging one, for one group. -/
theorem locks_in_order_get_ack :
    let q : Queue := {}
    let getting := q.getPlan (Instant.ofMicros 0) ⟨"q", "g", some (Instant.ofMicros 9000), ""⟩
    let settling := q.ackPlan (Instant.ofMicros 1000) ⟨"q", "g", ⟨5000⟩, ""⟩
    RequestedBefore "scoreq:q:inprog_id:g" "scoreq:q:done:g"
        (requested (hold Server.answer (executePlan getting).run {}).2)
      ∧ ¬ RequestedBefore "scoreq:q:done:g" "scoreq:q:inprog_id:g"
          (requested (hold Server.answer (executePlan settling).run {}).2) := by
  intro q getting settling
  have hgetting : RequestedBefore "scoreq:q:inprog_id:g" "scoreq:q:done:g"
      (requested (hold Server.answer (executePlan getting).run {}).2) := by decide +kernel
  exact ⟨hgetting, (locks_in_order getting settling Server.answer Server.answer {} {}).2 q q _ _
    (.get (by decide) (by decide)) (.ack (by decide) (by decide)) _ _ hgetting⟩

/-- Two validated plans that request two locks crosswise: one names a key by a shared set, the other by a set
    of a group. -/
theorem locks_taken_crosswise :
    let plan : Plan := ⟨"a", Instant.ofMicros 0,
      [.removeFrom [⟨"a", .available, "q:redo", none⟩, ⟨"a", .inProgressById, "q", some "g"⟩]]⟩
    let plan' : Plan := ⟨"a", Instant.ofMicros 0,
      [.removeFrom [⟨"a", .redo, "q", some "available"⟩, ⟨"a", .inProgressById, "q", some "g"⟩]]⟩
    plan.validate = .ok () ∧ plan'.validate = .ok ()
      ∧ RequestedBefore "a:q:redo:available" "a:q:inprog_id:g"
          (requested (hold Server.answer (executePlan plan).run {}).2)
      ∧ RequestedBefore "a:q:inprog_id:g" "a:q:redo:available"
          (requested (hold Server.answer (executePlan plan').run {}).2) := by
  decide +kernel

end Sql
end GroupQueue
