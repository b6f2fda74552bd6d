import GroupQueue.Proofs.Store.Memory
import GroupQueue.Proofs.Store.Natural

/-!
# `Proofs.Store.Tight` — a store in memory is determined by what it holds

A set comes into being with its first member and is dropped with its last one, and a plan never puts nothing
into a set: with nothing selected, it makes no call. So the sets in memory are always **tight**: none of them is
held without members. Tight sets that are sound are determined by their contents, and two ways through a store
that lead to the same contents, payloads and last identifier lead to the same store.

## Contents
- `Sets.Tight`, with `Tight.add` and `Tight.remove`; `Sets.eq_of_contents`.
- `Sets.Tight.evaluateFrom` — kept by the steps of a plan.
- `Memory.Canonical`, with `canonical_afterPlans` and `Canonical.answer`; `Memory.eq_of_contents`.
-/

namespace GroupQueue

namespace Sets

variable {sets : Sets}

/-- No set is held without members. -/
def Tight (sets : Sets) : Prop :=
  ∀ (key : String) (set : SortedSet), sets.byKey[key]? = some set → set.isEmpty = false

theorem tight_fresh : Tight {} := by
  intro key set h
  rw [Std.ExtTreeMap.getElem?_empty] at h
  contradiction

theorem Tight.insert (h : sets.Tight) (key : String) {set : SortedSet} (hset : set.isEmpty = false) :
    Tight ⟨sets.byKey.insert key set⟩ := by
  intro k s hs
  rw [getElem?_insert_ite] at hs
  split at hs
  · cases hs
    exact hset
  · exact h k s hs

/-- A set into which something is put has members. -/
theorem Tight.add (h : sets.Tight) (key : String) {ms : List Member} (hms : ms ≠ []) :
    (sets.add key ms).Tight := by
  refine h.insert key ?_
  obtain ⟨m, hm⟩ := List.exists_mem_of_ne_nil ms hms
  rw [SortedSet.isEmpty_eq, SortedSet.scores_foldl_insert, ← Bool.not_eq_true, Std.ExtTreeMap.isEmpty_iff]
  intro hnone
  exact Contents.eq_empty_iff.mp hnone m.id (Contents.mem_upsert_iff.mpr (Or.inl (List.mem_map_of_mem hm)))

/-- A set that loses its last member is dropped. -/
theorem Tight.remove (h : sets.Tight) (key : String) (ids : List EventId) : (sets.remove key ids).Tight := by
  cases hset : sets.byKey[key]? with
  | none =>
      simp only [Sets.remove, hset]
      exact h
  | some set =>
      simp only [Sets.remove, hset]
      by_cases hempty : (ids.foldl SortedSet.remove set).isEmpty = true
      · rw [if_pos hempty]
        intro k s hs
        rw [getElem?_erase_ite] at hs
        split at hs
        · contradiction
        · exact h k s hs
      · rw [if_neg hempty]
        exact h.insert key (Bool.eq_false_iff.mpr hempty)

/-- **Tight sets are determined by their contents.** -/
theorem eq_of_contents {a b : Sets} (ha : a.Sound) (hb : b.Sound) (ha' : a.Tight) (hb' : b.Tight)
    (h : ∀ key, a.contents key = b.contents key) : a = b := by
  -- a set that is held has members, and so has contents that no missing set has
  have hnone {x y : Sets} (hx : x.Tight) {key : String} (hsame : x.contents key = y.contents key)
      (hy : y.byKey[key]? = none) : x.byKey[key]? = none := by
    refine Option.eq_none_iff_forall_ne_some.mpr fun set hset => ?_
    rw [contents_of_some hset, contents_of_none hy] at hsame
    have hfull := hx key set hset
    rw [SortedSet.isEmpty_eq, hsame, Std.ExtTreeMap.isEmpty_empty] at hfull
    contradiction
  have hkeys : a.byKey = b.byKey := by
    refine Std.ExtTreeMap.ext_getElem? fun key => ?_
    cases hset : a.byKey[key]? with
    | none => exact (hnone hb' (h key).symm hset).symm
    | some s =>
        cases hset' : b.byKey[key]? with
        | none =>
            rw [hnone ha' (h key) hset'] at hset
            contradiction
        | some s' =>
            have hscores : s.scores = s'.scores := by
              rw [← contents_of_some hset, h key, contents_of_some hset']
            exact congrArg some ((ha key s hset).eq_of_scores (hb key s' hset') hscores)
  cases a
  cases b
  exact congrArg Sets.mk hkeys

/-! ## Plans -/

theorem Tight.addToEach (h : sets.Tight) {ms : List Member} (hms : ms ≠ []) (targets : List EventSet) :
    (converse (addToEach ms targets) sets).2.Tight := by
  induction targets generalizing sets with
  | nil => exact h
  | cons set targets ih => exact ih (h.add set.key hms)

theorem Tight.removeFromEach (h : sets.Tight) (ids : List EventId) (targets : List EventSet) :
    (converse (removeFromEach ids targets) sets).2.Tight := by
  induction targets generalizing sets with
  | nil => exact h
  | cons set targets ih => exact ih (h.remove set.key ids)

/-- **The steps of a plan keep the sets tight**, by induction on the steps. -/
theorem Tight.evaluateFrom (h : sets.Tight) (hsound : sets.Sound) (index : Nat) (acc : List Member)
    (steps : List Step) : (converse (Plan.evaluateFrom index acc steps) sets).2.Tight := by
  induction steps generalizing sets index acc with
  | nil => exact h
  | cons step rest ih =>
      -- what is looked up changes nothing
      have hread : Represents sets (Position.mk sets.ledger acc).ledger := represents_ledger hsound
      cases step with
      | select choice =>
          rw [Plan.evaluateFrom, converse_bind, converse_isWanted (p := ⟨sets.ledger, acc⟩) hread]
          split
          · rw [converse_bind, converse_members (p := ⟨sets.ledger, acc⟩) hread]
            exact ih h hsound _ _
          · rw [converse_bind]
            exact ih h hsound _ _
      | addTo targets score =>
          rw [Plan.evaluateFrom]
          by_cases hacc : acc.isEmpty = true
          · rw [if_pos hacc]
            exact ih h hsound _ _
          · have hsome : scored score acc ≠ [] := by
              intro hnil
              exact hacc (List.isEmpty_iff.mpr (List.map_eq_nil_iff.mp hnil))
            obtain ⟨after, heq, hafter⟩ := converse_addToEach hread (scored score acc) targets
            have htight := h.addToEach hsome targets
            rw [heq] at htight
            rw [if_neg hacc, converse_bind, heq]
            exact ih htight hafter.1 _ _
      | removeFrom targets =>
          rw [Plan.evaluateFrom]
          by_cases hacc : acc.isEmpty = true
          · rw [if_pos hacc]
            exact ih h hsound _ _
          · obtain ⟨after, heq, hafter⟩ := converse_removeFromEach hread (acc.map Member.id) targets
            have htight := h.removeFromEach (acc.map Member.id) targets
            rw [heq] at htight
            rw [if_neg hacc, converse_bind, heq]
            exact ih htight hafter.1 _ _
      | breakIf condition =>
          rw [Plan.evaluateFrom, converse_bind, converse_holds (p := ⟨sets.ledger, acc⟩) hread]
          split
          · exact h
          · exact ih h hsound _ _

end Sets

/-! ## Stores -/

namespace Memory

/-- A store whose sets are sound, with each payload filed where it belongs, and tight. -/
structure Canonical (memory : Memory) : Prop extends memory.Sound where
  tight : memory.sets.Tight

theorem canonical_fresh : Canonical {} := ⟨sound_fresh, Sets.tight_fresh⟩

variable {memory : Memory}

theorem Canonical.execute (h : memory.Canonical) (plan : Plan) : (memory.execute plan).2.Canonical := by
  refine ⟨h.toSound.execute plan, ?_⟩
  cases hvalid : plan.validate with
  | error fault =>
      rw [execute_of_invalid hvalid]
      exact h.tight
  | ok u =>
      rw [Memory.execute, Sets.execute_of_valid hvalid]
      exact h.tight.evaluateFrom h.sets 0 [] plan.steps

theorem canonical_afterPlans (plans : List Plan) : (afterPlans plans).Canonical :=
  List.foldlRecOn plans _ canonical_fresh fun _ h plan _ => h.execute plan

theorem Canonical.answer (h : memory.Canonical) (now : Instant) (call : StoreCall) :
    (memory.answer now call).2.Canonical := by
  refine ⟨h.toSound.answer now call, ?_⟩
  cases call with
  | execute plan => exact (h.execute plan).tight
  | _ => exact h.tight

/-- **Such a store is determined by what it holds**: the contents of its sets, its payloads, and the last
    identifier. -/
theorem eq_of_contents {a b : Memory} (ha : a.Canonical) (hb : b.Canonical)
    (hcontents : ∀ key, a.sets.contents key = b.sets.contents key) (hpayloads : a.payloads = b.payloads)
    (hlast : a.lastId = b.lastId) : a = b := by
  have hsets : a.sets = b.sets := Sets.eq_of_contents ha.sets hb.sets ha.tight hb.tight hcontents
  cases a
  cases b
  cases hsets
  cases hpayloads
  cases hlast
  rfl

end Memory

end GroupQueue
