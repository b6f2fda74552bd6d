import GroupQueue.Proofs.Plan.Locality
import GroupQueue.Proofs.Plan.SetOrder

/-!
# `Proofs.Plan.Refusal` — a plan is refused as a whole, or it is executed

A store in memory changes its sets in place and takes nothing back. That a plan is executed as a whole or not at
all therefore rests on two things: a plan that validates cannot fail any more, and one that does not is refused
before its first step. So the check of a plan has to see every set in it, wherever it stands: in a selection, in
a guard, in a step that writes, in a break, and inside conjunctions of conjunctions, also where the steps never
get to. What it means that a set stands somewhere is said here by rules, one for each place (`Plan.RefersTo`),
and the sets that the check goes through are exactly these (`mem_sets_iff`).

## Contents
- `Condition.RefersTo`, `Selection.RefersTo`, `Step.RefersTo`, `Plan.RefersTo` — where a set can stand.
- `Plan.mem_sets_iff` — the sets that the check goes through.
- `Plan.IsLeastStray` — the set that a refusal names; `isLeastStray_of_stray?`, `stray?_eq_none_iff`.
- `refused_iff_stray` — when a plan is refused, and what a refusal leaves.
-/

namespace GroupQueue

/-! ## Where a set can stand -/

/-- A condition refers to a set: it asks for the set itself, or one of its parts refers to it. -/
inductive Condition.RefersTo (set : EventSet) : Condition → Prop
  | asked : RefersTo set (.ifEmpty set)
  | part {conditions : List Condition} {condition : Condition} (hpart : condition ∈ conditions)
      (h : RefersTo set condition) : RefersTo set (.all conditions)

/-- A selection refers to the set that it draws from. -/
inductive Selection.RefersTo (set : EventSet) : Selection → Prop
  | scoreRange (range : ScoreRange) : RefersTo set (.scoreRange set range)
  | rank (start stop : Nat) : RefersTo set (.rank set start stop)
  | scoreOf (event : EventId) (min max : Option Int) : RefersTo set (.scoreOf set event min max)

/-- A step refers to the sets that it selects from or writes to, and to those of its condition. -/
inductive Step.RefersTo (set : EventSet) : Step → Prop
  | selection {choice : Select} (h : choice.selection.RefersTo set) : RefersTo set (.select choice)
  | guard {choice : Select} {condition : Condition} (hguard : choice.guard = some condition)
      (h : condition.RefersTo set) : RefersTo set (.select choice)
  | addTo {sets : List EventSet} {score : Option Int} (h : set ∈ sets) : RefersTo set (.addTo sets score)
  | removeFrom {sets : List EventSet} (h : set ∈ sets) : RefersTo set (.removeFrom sets)
  | breakIf {condition : Condition} (h : condition.RefersTo set) : RefersTo set (.breakIf condition)

/-- A plan refers to the sets that its steps refer to, whether or not they are ever taken. -/
def Plan.RefersTo (plan : Plan) (set : EventSet) : Prop := ∃ step ∈ plan.steps, step.RefersTo set

section Mentions

variable {set : EventSet}

theorem Condition.refersTo_all {conditions : List Condition} :
    (Condition.all conditions).RefersTo set ↔ ∃ condition ∈ conditions, condition.RefersTo set := by
  refine ⟨fun h => ?_, fun ⟨condition, hpart, h⟩ => .part hpart h⟩
  cases h with
  | part hpart h => exact ⟨_, hpart, h⟩

mutual

theorem Condition.mem_mentions_iff (condition : Condition) :
    set ∈ condition.mentions ↔ condition.RefersTo set := by
  cases condition with
  | ifInput => exact ⟨fun h => absurd h List.not_mem_nil, nofun⟩
  | ifNoInput => exact ⟨fun h => absurd h List.not_mem_nil, nofun⟩
  | ifEmpty asked =>
      refine ⟨fun h => ?_, fun h => ?_⟩
      · rw [List.mem_singleton.mp h]
        exact .asked
      · cases h
        exact List.mem_singleton_self _
  | all conditions =>
      rw [Condition.mentions, Condition.refersTo_all]
      exact Condition.mem_mentionsOfAll_iff conditions

theorem Condition.mem_mentionsOfAll_iff (conditions : List Condition) :
    set ∈ Condition.mentionsOfAll conditions ↔ ∃ condition ∈ conditions, condition.RefersTo set := by
  cases conditions with
  | nil => simp [Condition.mentionsOfAll]
  | cons condition rest =>
      rw [Condition.mentionsOfAll, List.mem_append, Condition.mem_mentions_iff condition,
        Condition.mem_mentionsOfAll_iff rest, List.exists_mem_cons_iff]

end

theorem Selection.mem_set?_iff (selection : Selection) :
    set ∈ selection.set? ↔ selection.RefersTo set := by
  cases selection with
  | events ids => exact ⟨nofun, nofun⟩
  | scoreRange drawn range =>
      exact ⟨fun h => Option.some.inj h ▸ .scoreRange range, fun h => by cases h; rfl⟩
  | rank drawn start stop =>
      exact ⟨fun h => Option.some.inj h ▸ .rank start stop, fun h => by cases h; rfl⟩
  | scoreOf drawn event min max =>
      exact ⟨fun h => Option.some.inj h ▸ .scoreOf event min max, fun h => by cases h; rfl⟩

/-- A set is among those that the check collects from a step if the step refers to it. -/
theorem Step.mem_mentions_iff (step : Step) : set ∈ step.mentions ↔ step.RefersTo set := by
  cases step with
  | select choice =>
      rw [Step.mem_mentions_select]
      constructor
      · rintro (h | ⟨condition, hguard, h⟩)
        · exact .selection ((Selection.mem_set?_iff _).mp h)
        · exact .guard hguard ((Condition.mem_mentions_iff condition).mp h)
      · intro h
        cases h with
        | selection h => exact Or.inl ((Selection.mem_set?_iff _).mpr h)
        | guard hguard h => exact Or.inr ⟨_, hguard, (Condition.mem_mentions_iff _).mpr h⟩
  | addTo sets score => exact ⟨.addTo, fun h => by cases h with | addTo h => exact h⟩
  | removeFrom sets => exact ⟨.removeFrom, fun h => by cases h with | removeFrom h => exact h⟩
  | breakIf condition =>
      refine ⟨fun h => .breakIf ((Condition.mem_mentions_iff condition).mp h), fun h => ?_⟩
      cases h with
      | breakIf h => exact (Condition.mem_mentions_iff condition).mpr h

end Mentions

namespace Plan

variable {plan : Plan} {set : EventSet}

/-- **The check of a plan goes through the sets that the plan refers to**, and no others. -/
theorem mem_sets_iff : set ∈ plan.sets ↔ plan.RefersTo set := by
  rw [mem_sets]
  exact exists_congr fun step => and_congr_right fun _ => Step.mem_mentions_iff step

/-! ## The set that a refusal names -/

/-- Of the sets outside the plan's namespace that a plan refers to, the first one in the order of sets. -/
structure IsLeastStray (plan : Plan) (set : EventSet) : Prop where
  named : plan.RefersTo set
  outside : set.base ≠ plan.base
  least : ∀ other, plan.RefersTo other → other.base ≠ plan.base → other = set ∨ set.compare other = .lt

theorem stray?_eq_none_iff : plan.stray? = none ↔ ∀ set, plan.RefersTo set → set.base = plan.base := by
  rw [stray?, List.find?_eq_none]
  refine forall_congr' fun set => imp_congr mem_sets_iff ?_
  rw [bne_iff_ne, not_not]

/-- The sets come in order, so the first one that is found outside the namespace is the least one. -/
theorem isLeastStray_of_stray? (h : plan.stray? = some set) : plan.IsLeastStray set := by
  obtain ⟨houtside, before, after, hsplit, hbefore⟩ := List.find?_eq_some_iff_append.mp h
  have hmem : set ∈ plan.sets := by
    rw [hsplit]
    exact List.mem_append_right _ List.mem_cons_self
  refine ⟨mem_sets_iff.mp hmem, bne_iff_ne.mp houtside, fun other hother hstray => ?_⟩
  have hincreasing := plan.increasing_sets
  rw [hsplit] at hincreasing
  rw [← mem_sets_iff, hsplit, List.mem_append, List.mem_cons] at hother
  rcases hother with hother | rfl | hother
  · have hinside := hbefore other hother
    rw [Bool.not_eq_true', bne_eq_false_iff_eq] at hinside
    exact absurd hinside hstray
  · exact Or.inl rfl
  · exact Or.inr ((List.pairwise_cons.mp (List.pairwise_append.mp hincreasing).2.1).1 other hother)

end Plan

/-- **A plan is refused exactly if it refers to a set outside its namespace**, wherever in the plan that is, and
    whatever the store holds. The refusal names the first such set in the order of sets, and leaves the store as it
    was; any other plan is executed. -/
theorem refused_iff_stray (plan : Plan) (memory : Memory) :
    ((∃ failure, (memory.execute plan).1 = .error failure)
        ↔ ∃ set, plan.RefersTo set ∧ set.base ≠ plan.base)
      ∧ ∀ failure, (memory.execute plan).1 = .error failure →
          (∃ set, failure = .invalidPlan (.strayBase set plan.base) ∧ plan.IsLeastStray set)
            ∧ (memory.execute plan).2 = memory := by
  cases hstray : plan.stray? with
  | none =>
      have hvalid : plan.validate = .ok () := by rw [Plan.validate, hstray]
      have hinside := Plan.stray?_eq_none_iff.mp hstray
      rw [Memory.execute_eq_of_valid hvalid]
      refine ⟨⟨nofun, fun ⟨set, hset, hbase⟩ => absurd (hinside set hset) hbase⟩, nofun⟩
  | some set =>
      have hvalid : plan.validate = .error (.strayBase set plan.base) := by rw [Plan.validate, hstray]
      have hleast := Plan.isLeastStray_of_stray? hstray
      rw [Memory.execute_of_invalid hvalid]
      refine ⟨⟨fun _ => ⟨set, hleast.named, hleast.outside⟩, fun _ => ⟨_, rfl⟩⟩, fun failure hfailure => ?_⟩
      obtain rfl := Except.error.inj hfailure
      exact ⟨⟨set, rfl, hleast⟩, rfl⟩

/-- Two foreign sets lie behind a break that is always taken, the lesser one deeper. It is the one that is named. -/
example :
    let foreign (queue : String) : EventSet := ⟨"other", .available, queue, none⟩
    let plan : Plan :=
      { base := "scoreq", now := .ofMicros 0
        steps := [.breakIf .ifNoInput, .removeFrom [foreign "r"], .breakIf (.all [.all [.ifEmpty (foreign "q")]])] }
    plan.stray? = some (foreign "q") := by
  decide +kernel

end GroupQueue
