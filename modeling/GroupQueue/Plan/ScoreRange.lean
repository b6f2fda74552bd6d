import GroupQueue.EventSet

/-!
# `GroupQueue.Plan.ScoreRange` — windows of scores

A range selects the members of a set whose scores lie between two bounds, in ascending or descending
order, and no more of them than its limit. Its lower bound may be left open until a plan runs: it is
then the smallest score selected so far.

## Contents
- `Bound`, with `Bound.isBelow` and `Bound.isAbove` — one end of a range, and the scores on its inner
  side.
- `ScoreRange` — with the constructors `all`, `above`, `below`, `afterInput` and the modifiers
  `atMost`, `limitTo`, `reversed`.
- `ScoreRange.admits` — whether a score lies between the bounds.
- `ScoreRange.resolve` — fix the lower bound; `resolve_eq_none_iff`.
- `ScoreRange.isEmpty` — bounds that leave no room; `admits_eq_false_of_isEmpty`.
-/

namespace GroupQueue

/-- One end of a range of scores. -/
inductive Bound where
  | included (score : Int)
  | excluded (score : Int)
  | unbounded
deriving DecidableEq, Repr

namespace Bound

/-- As a lower bound, leave room for `score`. -/
def isBelow (bound : Bound) (score : Int) : Bool :=
  match bound with
  | included low => low ≤ score
  | excluded low => low < score
  | unbounded => true

/-- As an upper bound, leave room for `score`. -/
def isAbove (bound : Bound) (score : Int) : Bool :=
  match bound with
  | included high => score ≤ high
  | excluded high => score < high
  | unbounded => true

theorem isBelow_mono {bound : Bound} {s t : Int} (h : bound.isBelow s) (hst : s ≤ t) :
    bound.isBelow t := by
  cases bound <;> simp_all [isBelow] <;> omega

theorem isAbove_anti {bound : Bound} {s t : Int} (h : bound.isAbove t) (hst : s ≤ t) :
    bound.isAbove s := by
  cases bound <;> simp_all [isAbove] <;> omega

end Bound

/-- A window of scores over one set. -/
structure ScoreRange where
  lower : Bound := .unbounded
  upper : Bound := .unbounded
  /-- Take the value of the lower bound from the smallest score selected so far. The bound stays
      excluded if it is, and is included otherwise. -/
  lowerFromInput : Bool := false
  limit : Option Nat := none
  /-- Highest scores first. -/
  descending : Bool := false
deriving DecidableEq, Repr

namespace ScoreRange

/-! ## Constructors -/

/-- All scores. -/
def all : ScoreRange := {}

/-- Scores strictly greater than `score`. -/
def above (score : Int) : ScoreRange := { lower := .excluded score }

/-- Scores strictly less than `score`. -/
def below (score : Int) : ScoreRange := { upper := .excluded score }

/-- Scores strictly greater than the smallest score selected so far. -/
def afterInput : ScoreRange := { lower := .excluded 0, lowerFromInput := true }

/-- No score greater than `score`. -/
def atMost (range : ScoreRange) (score : Int) : ScoreRange := { range with upper := .included score }

/-- No more than `n` members. -/
def limitTo (range : ScoreRange) (n : Nat) : ScoreRange := { range with limit := some n }

/-- Highest scores first. -/
def reversed (range : ScoreRange) : ScoreRange := { range with descending := true }

/-! ## Bounds -/

/-- Whether a score lies between the bounds. -/
def admits (range : ScoreRange) (score : Int) : Bool :=
  range.lower.isBelow score && range.upper.isAbove score

/-- Fix the lower bound to the smallest score selected so far. Without one, nothing can match. -/
def resolve (range : ScoreRange) (inputMin : Option Int) : Option ScoreRange :=
  if range.lowerFromInput then
    inputMin.map fun score =>
      { range with
        lower := match range.lower with
          | .excluded _ => .excluded score
          | _ => .included score
        lowerFromInput := false }
  else some range

theorem resolve_eq_none_iff {range : ScoreRange} {inputMin : Option Int} :
    range.resolve inputMin = none ↔ range.lowerFromInput = true ∧ inputMin = none := by
  cases h : range.lowerFromInput <;> simp [resolve, h]

theorem lowerFromInput_resolve {range resolved : ScoreRange} {inputMin : Option Int}
    (h : range.resolve inputMin = some resolved) : resolved.lowerFromInput = false := by
  unfold resolve at h
  split at h
  · obtain ⟨score, -, rfl⟩ := Option.map_eq_some_iff.1 h
    rfl
  · simp_all

/-- Whether no score can lie between the bounds. Two excluded bounds one apart are not noticed. -/
def isEmpty (range : ScoreRange) : Bool :=
  match range.lower, range.upper with
  | .included low, .included high => high < low
  | .included low, .excluded high | .excluded low, .included high | .excluded low, .excluded high =>
    high ≤ low
  | _, _ => false

theorem admits_eq_false_of_isEmpty {range : ScoreRange} (h : range.isEmpty) (score : Int) :
    range.admits score = false := by
  obtain ⟨lower, upper, _, _, _⟩ := range
  cases lower <;> cases upper <;>
    simp_all [isEmpty, admits, Bound.isBelow, Bound.isAbove] <;> omega

end ScoreRange

end GroupQueue
