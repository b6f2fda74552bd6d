import GroupQueue.Failure
import GroupQueue.Plan.ScoreRange

/-!
# `GroupQueue.Plan.Basic` — plans over event sets

A plan is a list of steps that a store executes as one atomic unit. The steps share a namespace and a
reference time, and thread a selection of events from left to right: they select events, put the
selected ones into sets, take them out of sets, or end the plan.

## Contents
- `Condition`, `Selection`, `Select`, `Step`, `Plan`.
- `Plan.mentions` — the sets that a plan names, in the order of the text; `Plan.sets` — the distinct
  ones, in the order of sets; `mem_sets`.
- `Plan.validate` — every set lies in the plan's namespace; `validate_eq_ok_iff`.
-/

namespace GroupQueue

/-- A predicate on the current selection and the sets. -/
inductive Condition where
  /-- Something is selected. -/
  | ifInput
  /-- Nothing is selected. -/
  | ifNoInput
  /-- The set has no members. -/
  | ifEmpty (set : EventSet)
  /-- Every condition holds. -/
  | all (conditions : List Condition)
deriving Repr

/-- Where a step draws its events from. -/
inductive Selection where
  /-- Known events, with their natural scores. No set is consulted. -/
  | events (ids : List EventId)
  /-- The members of a set in a range of scores. -/
  | scoreRange (set : EventSet) (range : ScoreRange)
  /-- The members at the ranks `start … stop`, lowest score first. -/
  | rank (set : EventSet) (start stop : Nat)
  /-- An event, if it is in the set with a score in `min … max`. -/
  | scoreOf (set : EventSet) (event : EventId) (min max : Option Int)
deriving Repr

/-- A step that selects. -/
structure Select where
  selection : Selection
  /-- Extend the current selection instead of replacing it. -/
  union : Bool := false
  /-- If this does not hold, the step is skipped. -/
  guard : Option Condition := none
deriving Repr

/-- One step of a plan. -/
inductive Step where
  /-- Replace or extend the current selection. -/
  | select (choice : Select)
  /-- Put every selected event into each set, with its natural score or with `score`. -/
  | addTo (sets : List EventSet) (score : Option Int)
  /-- Take every selected event out of each set. -/
  | removeFrom (sets : List EventSet)
  /-- End the plan if the condition holds. What has been done stays done. -/
  | breakIf (condition : Condition)
deriving Repr

/-- Steps to be executed as one unit. -/
structure Plan where
  /-- The namespace of every set that the plan names. -/
  base : String
  /-- The reference time. -/
  now : Instant
  steps : List Step
deriving Repr

/-- The member of lowest score. -/
def Selection.first (set : EventSet) : Selection := .rank set 0 0

/-- A step that replaces the current selection. -/
def Step.pick (selection : Selection) : Step := .select { selection }

/-! ## The sets of a plan -/

mutual

/-- The sets that a condition names. -/
def Condition.mentions : Condition → List EventSet
  | .ifInput | .ifNoInput => []
  | .ifEmpty set => [set]
  | .all conditions => Condition.mentionsOfAll conditions

/-- The sets that some conditions name. -/
def Condition.mentionsOfAll : List Condition → List EventSet
  | [] => []
  | condition :: rest => condition.mentions ++ Condition.mentionsOfAll rest

end

/-- The set that a selection consults. -/
def Selection.set? : Selection → Option EventSet
  | .events _ => none
  | .scoreRange set _ | .rank set _ _ | .scoreOf set _ _ _ => some set

/-- The sets that a step names. -/
def Step.mentions : Step → List EventSet
  | .select choice =>
    choice.selection.set?.toList ++ (choice.guard.map Condition.mentions).getD []
  | .addTo sets _ | .removeFrom sets => sets
  | .breakIf condition => condition.mentions

namespace Plan

/-- The sets that a plan names, in the order of the text. -/
def mentions (plan : Plan) : List EventSet := plan.steps.flatMap Step.mentions

/-- The distinct sets that a plan names, in the order of sets. -/
def sets (plan : Plan) : List EventSet := EventSet.sorted plan.mentions

theorem mem_sets {plan : Plan} {set : EventSet} :
    set ∈ plan.sets ↔ ∃ step ∈ plan.steps, set ∈ step.mentions := by
  simp [sets, mentions]

/-- The first set, in the order of sets, that lies outside the namespace of the plan. -/
def stray? (plan : Plan) : Option EventSet :=
  plan.sets.find? fun set => set.base != plan.base

/-- Refuse a plan that names a set outside its namespace. -/
def validate (plan : Plan) : Except PlanFault Unit :=
  match plan.stray? with
  | some set => .error (.strayBase set plan.base)
  | none => .ok ()

theorem validate_eq_ok_iff {plan : Plan} :
    plan.validate = .ok () ↔ ∀ set ∈ plan.sets, set.base = plan.base := by
  unfold validate
  cases h : plan.stray? with
  | none => simpa [stray?] using h
  | some set =>
    have hs := List.find?_some h
    have hm := List.mem_of_find?_eq_some h
    simp only [reduceCtorEq, false_iff]
    intro hall
    simp [hall set hm] at hs

end Plan

end GroupQueue
