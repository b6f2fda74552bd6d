import GroupQueue.Proofs.Plan.Calls
import GroupQueue.Proofs.Store.Memory

/-!
# `Proofs.Plan.Locality` — a plan neither sees nor touches any other set

Since the evaluation of a plan asks only for the sets of the plan (`asksOnly_evaluate`), it is enough to look
at one call. A call reads only the contents under the key it is about, and changes only those
(`AgreeOn.answer`, `byKey_answer_of_ne`). Along a conversation, by induction on its tree, two stores that
agree under some keys therefore give the same replies and still agree under them (`AgreeOn.converse`), and
everything else stays what it was, down to the way it is kept (`byKey_converse_of_ne`).

The keys matter here, not the sets: two sets that share a key are one set to a store, and a plan that names
either of them sees both.

## Contents
- `Sets.AgreeOn` — the same contents under some keys; kept by `AgreeOn.answer` and `AgreeOn.converse`.
- `Sets.byKey_answer_of_ne`, `Sets.byKey_converse_of_ne` — what stays.
- `Plan.keys`, `Memory.sets_execute_of_not_mem_keys` — the same for a whole plan.
- `execute_within_sets` — the footprint of a plan.
-/

namespace GroupQueue
namespace Sets

/-! ## One call -/

section Answer

variable {sets : Sets} {key k : String}

theorem byKey_add_of_ne (h : key ≠ k) (ms : List Member) :
    (sets.add key ms).byKey[k]? = sets.byKey[k]? := by
  unfold add
  rw [getElem?_insert_ite, if_neg h]

theorem byKey_remove_of_ne (h : key ≠ k) (ids : List EventId) :
    (sets.remove key ids).byKey[k]? = sets.byKey[k]? := by
  cases hset : sets.byKey[key]? with
  | none => simp only [remove, hset]
  | some set =>
      simp only [remove, hset]
      split
      · rw [getElem?_erase_ite, if_neg h]
      · rw [getElem?_insert_ite, if_neg h]

/-- A call changes nothing under another key. -/
theorem byKey_answer_of_ne {call : SetCall} (h : call.set.key ≠ k) :
    (sets.answer call).2.byKey[k]? = sets.byKey[k]? := by
  cases call with
  | add set ms => exact byKey_add_of_ne h ms
  | remove set ids => exact byKey_remove_of_ne h ids
  | _ => rfl

end Answer

/-- Sound sets that have the same contents under some keys. -/
structure AgreeOn (keys : List String) (a b : Sets) : Prop where
  left : a.Sound
  right : b.Sound
  contents : ∀ key ∈ keys, a.contents key = b.contents key

section Agreement

variable {keys : List String} {a b : Sets}

theorem AgreeOn.add (h : AgreeOn keys a b) (key : String) (ms : List Member) :
    AgreeOn keys (a.add key ms) (b.add key ms) := by
  refine ⟨h.left.add key ms, h.right.add key ms, fun k hk => ?_⟩
  rw [contents_add, contents_add, h.contents k hk]

theorem AgreeOn.remove (h : AgreeOn keys a b) (key : String) (ids : List EventId) :
    AgreeOn keys (a.remove key ids) (b.remove key ids) := by
  refine ⟨h.left.remove key ids, h.right.remove key ids, fun k hk => ?_⟩
  rw [contents_remove, contents_remove, h.contents k hk]

/-- **A call tells such sets apart only by what it is not about.** -/
theorem AgreeOn.answer (h : AgreeOn keys a b) {call : SetCall} (hkey : call.set.key ∈ keys) :
    (a.answer call).1 = (b.answer call).1 ∧ AgreeOn keys (a.answer call).2 (b.answer call).2 := by
  have hcontents : a.contents call.set.key = b.contents call.set.key := h.contents _ hkey
  cases call with
  | rangeByScore set range =>
      refine ⟨?_, h⟩
      rw [h.left.answer_rangeByScore, h.right.answer_rangeByScore]
      exact congrArg (Contents.window · _ _ _) hcontents
  | rangeByRank set start stop =>
      refine ⟨?_, h⟩
      rw [answer_rangeByRank, answer_rangeByRank, h.left.members_eq, h.right.members_eq]
      exact congrArg (fun held => ((Contents.members held).drop start).take (stop - start + 1)) hcontents
  | scoreOf set event =>
      refine ⟨?_, h⟩
      rw [answer_scoreOf, answer_scoreOf]
      exact congrArg (·[event]?) hcontents
  | add set ms => exact ⟨rfl, h.add set.key ms⟩
  | remove set ids => exact ⟨rfl, h.remove set.key ids⟩
  | isEmpty set =>
      refine ⟨?_, h⟩
      rw [answer_isEmpty, answer_isEmpty]
      exact congrArg Std.ExtTreeMap.isEmpty hcontents

end Agreement

/-! ## A whole conversation -/

section Converse

variable {α : Type} {keys : List String}

/-- **A conversation changes nothing that it does not ask for.** -/
theorem byKey_converse_of_ne {key : String} {d : SetDialogue α}
    (h : d.AsksOnly (SetCall.About fun set => set.key ≠ key)) (sets : Sets) :
    (converse d sets).2.byKey[key]? = sets.byKey[key]? := by
  induction d generalizing sets with
  | done a => rfl
  | ask call next ih =>
      rw [converse_ask, ih _ (h.2 _)]
      exact byKey_answer_of_ne h.1

/-- **A conversation depends on nothing that it does not ask for.** -/
theorem AgreeOn.converse {a b : Sets} (h : AgreeOn keys a b) {d : SetDialogue α}
    (hd : d.AsksOnly (SetCall.About fun set => set.key ∈ keys)) :
    (Sets.converse d a).1 = (Sets.converse d b).1
      ∧ AgreeOn keys (Sets.converse d a).2 (Sets.converse d b).2 := by
  induction d generalizing a b with
  | done result => exact ⟨rfl, h⟩
  | ask call next ih =>
      obtain ⟨hreply, hafter⟩ := h.answer hd.1
      rw [converse_ask, converse_ask, hreply]
      exact ih _ hafter (hd.2 _)

end Converse

end Sets

/-! ## A whole plan -/

namespace Plan

/-- The keys of the sets that a plan names. -/
def keys (plan : Plan) : List String := plan.sets.map EventSet.key

theorem asksOnly_keys (plan : Plan) :
    plan.evaluate.AsksOnly (SetCall.About fun set => set.key ∈ plan.keys) :=
  (asksOnly_evaluate plan).mono fun _ h => List.mem_map_of_mem h

end Plan

namespace Memory

variable {plan : Plan}

/-- What a plan that validates does to a store. -/
theorem execute_eq_of_valid (h : plan.validate = .ok ()) (memory : Memory) :
    let evaluated := Sets.converse plan.evaluate memory.sets
    memory.execute plan
      = (.ok ⟨evaluated.1.events, evaluated.1.notices
            ++ [.planExecuted plan.base plan.steps.length evaluated.1.selected.length]⟩,
          { memory with sets := evaluated.2 }) := by
  intro evaluated
  rw [execute, Sets.execute_of_valid h]

/-- **Under any other key, a plan leaves a store exactly as it was**, whether it validates or not. -/
theorem sets_execute_of_not_mem_keys {key : String} (hkey : key ∉ plan.keys) (memory : Memory) :
    (memory.execute plan).2.sets.byKey[key]? = memory.sets.byKey[key]? := by
  cases hvalid : plan.validate with
  | error fault => rw [execute_of_invalid hvalid]
  | ok u =>
      rw [execute_eq_of_valid hvalid]
      refine Sets.byKey_converse_of_ne (plan.asksOnly_keys.mono fun call hcall heq => ?_) memory.sets
      exact hkey (heq ▸ hcall)

/-- **A plan gives the same result in stores that agree on its sets**, which agree on them afterwards. -/
theorem execute_of_agreeOn (hvalid : plan.validate = .ok ()) {a b : Memory}
    (h : Sets.AgreeOn plan.keys a.sets b.sets) :
    (a.execute plan).1 = (b.execute plan).1
      ∧ Sets.AgreeOn plan.keys (a.execute plan).2.sets (b.execute plan).2.sets := by
  obtain ⟨hresult, hafter⟩ := h.converse plan.asksOnly_keys
  rw [execute_eq_of_valid hvalid, execute_eq_of_valid hvalid]
  refine ⟨?_, hafter⟩
  rw [hresult]

/-- A store that differs from another one at most in what is under some keys. -/
structure SameExcept (keys : List String) (before after : Memory) : Prop where
  sets : ∀ key, key ∉ keys → after.sets.byKey[key]? = before.sets.byKey[key]?
  payloads : after.payloads = before.payloads
  lastId : after.lastId = before.lastId

theorem sameExcept_execute (plan : Plan) (memory : Memory) :
    SameExcept plan.keys memory (memory.execute plan).2 where
  sets := fun _ hkey => sets_execute_of_not_mem_keys hkey memory
  payloads := by rw [execute_eq]
  lastId := by rw [execute_eq]

end Memory

/-- **The footprint of a plan is its sets.** A plan that validates returns the same in two stores that hold
    the same under the keys of its sets, leaves the same under these keys, and leaves everything else as it
    was in either store. And whoever holds the sets, and whichever calls it fails: every call it gets is
    about one of the plan's sets, in the plan's namespace. -/
theorem execute_within_sets (plan : Plan) :
    (plan.validate = .ok () → ∀ a b : Memory, Sets.AgreeOn plan.keys a.sets b.sets →
      (∃ executed, (a.execute plan).1 = .ok executed ∧ (b.execute plan).1 = .ok executed)
        ∧ (∀ key ∈ plan.keys,
            (a.execute plan).2.sets.contents key = (b.execute plan).2.sets.contents key)
        ∧ Memory.SameExcept plan.keys a (a.execute plan).2
        ∧ Memory.SameExcept plan.keys b (b.execute plan).2)
      ∧ ∀ (σ : Type) (holder : SetHolder σ) (s : σ), ∀ call ∈ plan.calls holder s,
          call.set ∈ plan.sets ∧ call.set.base = plan.base := by
  refine ⟨fun hvalid a b hagree => ?_, fun σ holder s call hcall =>
    Plan.set_mem_sets_of_mem_calls hcall⟩
  obtain ⟨hresult, hafter⟩ := Memory.execute_of_agreeOn hvalid hagree
  refine ⟨?_, hafter.contents, Memory.sameExcept_execute plan a, Memory.sameExcept_execute plan b⟩
  rw [← hresult, Memory.execute_eq_of_valid hvalid]
  exact ⟨_, rfl, rfl⟩

/-- The second store holds one set more, of which a plan with conditions inside conditions takes no
    notice. -/
theorem execute_within_sets_guarded :
    let now := Instant.ofMicros 0
    let available : EventSet := ⟨"ns", .available, "q", none⟩
    let redo : EventSet := ⟨"ns", .redo, "q", some "g"⟩
    let done : EventSet := ⟨"ns", .done, "q", some "g"⟩
    let other : EventSet := ⟨"ns", .done, "r", some "g"⟩
    let fill (set : EventSet) : Plan := ⟨"ns", now, [.pick (.events [⟨3⟩, ⟨1⟩]), .addTo [set] none]⟩
    let plan : Plan := ⟨"ns", now, [
      .select ⟨.first available, false, some (.all [.ifNoInput, .all [.ifEmpty redo]])⟩,
      .addTo [done] (some 7),
      .removeFrom [available],
      .breakIf (.all [.ifInput, .ifEmpty available])]⟩
    let a := Memory.afterPlans [fill available]
    let b := Memory.afterPlans [fill available, fill other]
    let holder : SetHolder Sets := fun call => ExceptT.lift fun sets => sets.answer call
    plan.validate = .ok () ∧ Sets.AgreeOn plan.keys a.sets b.sets
      ∧ (a.execute plan).1 = (b.execute plan).1
      ∧ (b.execute plan).2.sets.byKey[other.key]? = b.sets.byKey[other.key]?
      ∧ (plan.calls holder b.sets).map SetCall.set
        = [redo, available, done, available, available]
      ∧ ∀ call ∈ plan.calls holder b.sets, call.set ∈ plan.sets := by
  intro now available redo done other fill plan a b holder
  have hvalid : plan.validate = .ok () := by decide +kernel
  have hother : ∀ key ∈ plan.keys, key ∉ (fill other).keys := by decide +kernel
  have hagree : Sets.AgreeOn plan.keys a.sets b.sets := by
    refine ⟨Memory.sound_afterPlans _, Memory.sound_afterPlans _, fun key hkey => ?_⟩
    have hsame := Memory.sets_execute_of_not_mem_keys (hother key hkey) a
    exact congrArg (fun set => (set.map SortedSet.scores).getD ∅) hsame.symm
  obtain ⟨⟨executed, ha, hb⟩, -, -, hexcept⟩ := (execute_within_sets plan).1 hvalid a b hagree
  have hcalls := (execute_within_sets plan).2 Sets holder b.sets
  exact ⟨hvalid, hagree, ha.trans hb.symm, hexcept.sets other.key (by decide +kernel),
    by decide +kernel, fun call hcall => (hcalls call hcall).1⟩

end GroupQueue
