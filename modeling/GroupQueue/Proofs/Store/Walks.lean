import GroupQueue.Proofs.Store.SortedSet

/-!
# `Proofs.Store.Walks` — reading ranges and ranks without a misstep

A range of scores is read by a walk along the members, in their order, from one edge to another. The edges are
members themselves: a bound on the score stands before all members with that score or behind them all, and is
written down as the member with the least identifier or the greatest one (`Bound.lowerEdge`, `Bound.upperEdge`).
Two kinds of walks are **missteps**, at which the program stops where it is: one whose start is behind its end, and
one that starts and ends at the same member and excludes it both times. A third misstep is to count the ranks from
`start` to `stop` if `stop` comes first.

Without the bounds being looked at first there would be missteps (`misstep_edges_iff`): if they have crossed, or if
both exclude the same score. A range that leaves room between its bounds leads to none, whatever the scores are, the
least and the greatest ones included. And if the identifiers are machine words, as the edges are, then what the walk
finds are the members in the range (`Sound.walkRange_eq`).

## Contents
- `Misstep`, `Edge`, `Edge.misstep?` — walks, and what may be wrong with them.
- `Bound.lowerEdge`, `Bound.upperEdge`; `ScoreRange.misstep_edges_iff`, `ScoreRange.between_edges`.
- `SortedSet.walkRange`, `SortedSet.walkRanks` — the reads of a sorted set, with their missteps.
- `SortedSet.walkRange_ok`, `SortedSet.walkRanks_ok` — when there is none; `Sound.walkRange_eq`.
-/

namespace GroupQueue

/-! ## Walks -/

/-- What the program is not prepared for: it stops where it is. -/
inductive Misstep where
  /-- A walk starts behind its end. -/
  | startBehindEnd
  /-- A walk starts and ends at the same member, and excludes it both times. -/
  | excludedTwice
  /-- A greater number is taken from a smaller one. -/
  | negative
deriving DecidableEq, Repr

/-- An end of a walk along the members. -/
inductive Edge where
  | included (m : Member)
  | excluded (m : Member)
  | unbounded
deriving DecidableEq, Repr

namespace Edge

/-- As the start of a walk, leave `m` to the walk. -/
def isBefore (edge : Edge) (m : Member) : Bool :=
  match edge with
  | included e => !m.precedes e
  | excluded e => e.precedes m
  | unbounded => true

/-- As the end of a walk, leave `m` to the walk. -/
def isBehind (edge : Edge) (m : Member) : Bool :=
  match edge with
  | included e => !e.precedes m
  | excluded e => m.precedes e
  | unbounded => true

/-- What is wrong with a walk, if anything is. -/
def misstep? (start stop : Edge) : Option Misstep :=
  match start, stop with
  | unbounded, _ | _, unbounded => none
  | excluded a, excluded b =>
    if a = b then some .excludedTwice else if b.precedes a then some .startBehindEnd else none
  | included a, included b | included a, excluded b | excluded a, included b =>
    if b.precedes a then some .startBehindEnd else none

end Edge

/-! ## Bounds as edges -/

/-- An identifier is a machine word. -/
def EventId.FitsWord (id : EventId) : Prop := Text.minWord ≤ id.score ∧ id.score ≤ Text.maxWord

instance (id : EventId) : Decidable id.FitsWord := inferInstanceAs (Decidable (_ ∧ _))

/-- The first member there can be with a score. -/
def Member.first (score : Int) : Member := ⟨⟨Text.minWord⟩, score⟩

/-- The last member there can be with a score. -/
def Member.last (score : Int) : Member := ⟨⟨Text.maxWord⟩, score⟩

namespace Member

variable {s t : Int}

@[simp] theorem first_precedes_first : (first s).precedes (first t) = true ↔ s < t := by
  simp [precedes_iff, first, EventId.lt_def]

@[simp] theorem last_precedes_last : (last s).precedes (last t) = true ↔ s < t := by
  simp [precedes_iff, last, EventId.lt_def]

@[simp] theorem first_precedes_last : (first s).precedes (last t) = true ↔ s ≤ t := by
  simp only [precedes_iff, first, last, EventId.lt_def, Text.minWord, Text.maxWord]
  omega

@[simp] theorem last_precedes_first : (last s).precedes (first t) = true ↔ s < t := by
  simp only [precedes_iff, first, last, EventId.lt_def, Text.minWord, Text.maxWord]
  omega

@[simp] theorem last_ne_first : last s ≠ first t := by
  simp [last, first, Text.minWord, Text.maxWord]

end Member

namespace Bound

/-- Where a walk starts that keeps to a lower bound. -/
def lowerEdge : Bound → Edge
  | included low => .included (.first low)
  | excluded low => .excluded (.last low)
  | unbounded => .unbounded

/-- Where a walk ends that keeps to an upper bound. -/
def upperEdge : Bound → Edge
  | included high => .included (.last high)
  | excluded high => .excluded (.first high)
  | unbounded => .unbounded

variable {bound : Bound} {m : Member}

/-- A lower bound leaves room for a score if its edge leaves the members with that score to the walk. -/
theorem isBefore_lowerEdge (h : m.id.FitsWord) : bound.lowerEdge.isBefore m = bound.isBelow m.score := by
  obtain ⟨hmin, hmax⟩ := h
  rw [Bool.eq_iff_iff]
  cases bound with
  | included low =>
      simp only [lowerEdge, Edge.isBefore, Member.first, Bool.not_eq_true', Bool.eq_false_iff, ne_eq,
        Member.precedes_iff, EventId.lt_def, isBelow, decide_eq_true_eq]
      omega
  | excluded low =>
      simp only [lowerEdge, Edge.isBefore, Member.last, Member.precedes_iff, EventId.lt_def, isBelow,
        decide_eq_true_eq]
      omega
  | unbounded => simp [lowerEdge, Edge.isBefore, isBelow]

theorem isBehind_upperEdge (h : m.id.FitsWord) : bound.upperEdge.isBehind m = bound.isAbove m.score := by
  obtain ⟨hmin, hmax⟩ := h
  rw [Bool.eq_iff_iff]
  cases bound with
  | included high =>
      simp only [upperEdge, Edge.isBehind, Member.last, Bool.not_eq_true', Bool.eq_false_iff, ne_eq,
        Member.precedes_iff, EventId.lt_def, isAbove, decide_eq_true_eq]
      omega
  | excluded high =>
      simp only [upperEdge, Edge.isBehind, Member.first, Member.precedes_iff, EventId.lt_def, isAbove,
        decide_eq_true_eq]
      omega
  | unbounded => simp [upperEdge, Edge.isBehind, isAbove]

end Bound

namespace ScoreRange

variable {range : ScoreRange}

/-- One bound excludes the score that the other one includes. -/
def Touches (range : ScoreRange) : Prop :=
  match range.lower, range.upper with
  | .included low, .excluded high | .excluded low, .included high => low = high
  | _, _ => False

/-- **When a walk between the bounds of a range would be a misstep**: nothing can lie in the range, and not just
    because the bounds touch. -/
theorem misstep_edges_iff :
    Edge.misstep? range.lower.lowerEdge range.upper.upperEdge ≠ none
      ↔ range.isEmpty = true ∧ ¬ range.Touches := by
  obtain ⟨lower, upper, _, _, _⟩ := range
  cases lower with
  | unbounded => simp [Bound.lowerEdge, Edge.misstep?, isEmpty]
  | included low =>
      cases upper with
      | unbounded => simp [Bound.lowerEdge, Bound.upperEdge, Edge.misstep?, isEmpty]
      | included high => simp [Bound.lowerEdge, Bound.upperEdge, Edge.misstep?, isEmpty, Touches]
      | excluded high =>
          have hcrossed : high < low ↔ high ≤ low ∧ ¬ low = high := by omega
          simp [Bound.lowerEdge, Bound.upperEdge, Edge.misstep?, isEmpty, Touches, hcrossed]
  | excluded low =>
      cases upper with
      | unbounded => simp [Bound.lowerEdge, Bound.upperEdge, Edge.misstep?, isEmpty]
      | included high =>
          have hcrossed : high < low ↔ high ≤ low ∧ ¬ low = high := by omega
          simp [Bound.lowerEdge, Bound.upperEdge, Edge.misstep?, isEmpty, Touches, hcrossed]
      | excluded high => simp [Bound.lowerEdge, Bound.upperEdge, Edge.misstep?, isEmpty, Touches]

/-- With room between the bounds, it is none. -/
theorem misstep_edges_of_not_isEmpty (h : range.isEmpty = false) :
    Edge.misstep? range.lower.lowerEdge range.upper.upperEdge = none := by
  refine Decidable.byContradiction fun hmisstep => ?_
  rw [(misstep_edges_iff.mp hmisstep).1] at h
  contradiction

/-- A walk between the bounds is left the members whose scores lie between them. -/
theorem between_edges {m : Member} (h : m.id.FitsWord) :
    (range.lower.lowerEdge.isBefore m && range.upper.upperEdge.isBehind m) = range.admits m.score := by
  rw [Bound.isBefore_lowerEdge h, Bound.isBehind_upperEdge h, admits]

end ScoreRange

/-! ## Reads -/

namespace SortedSet

variable {set : SortedSet} {range : ScoreRange}

/-- Walk along the members, from one edge to another. -/
def walk (set : SortedSet) (start stop : Edge) : Except Misstep (List Member) :=
  match Edge.misstep? start stop with
  | some misstep => .error misstep
  | none => .ok (set.ordered.filter fun m => start.isBefore m && stop.isBehind m)

/-- Read a range by a walk, unless nothing can lie in it. -/
def walkRange (set : SortedSet) (range : ScoreRange) : Except Misstep (List Member) := do
  if range.isEmpty then return []
  let found ← set.walk range.lower.lowerEdge range.upper.upperEdge
  let directed := if range.descending then found.reverse else found
  match range.limit with
  | some limit => return directed.take limit
  | none => return directed

/-- Read the ranks `start … stop`; how many there are is counted first. -/
def walkRanks (set : SortedSet) (start stop : Nat) : Except Misstep (List Member) :=
  if stop < start then .error .negative else .ok (set.ranks start stop)

/-- Reading a range is no misstep, whatever is in the set. -/
theorem walkRange_ok (set : SortedSet) (range : ScoreRange) : ∃ found, set.walkRange range = .ok found := by
  unfold walkRange
  cases hempty : range.isEmpty with
  | true => exact ⟨[], rfl⟩
  | false =>
      rw [walk, ScoreRange.misstep_edges_of_not_isEmpty hempty]
      cases range.limit <;> exact ⟨_, rfl⟩

theorem walkRanks_ok (set : SortedSet) {start stop : Nat} (h : start ≤ stop) :
    set.walkRanks start stop = .ok (set.ranks start stop) :=
  if_neg (Nat.not_lt.mpr h)

/-- **A walk finds the members in the range.** -/
theorem Sound.walkRange_eq (h : set.Sound) (hwords : ∀ m ∈ set.ordered, m.id.FitsWord) (range : ScoreRange) :
    set.walkRange range = .ok (set.range range) := by
  rw [h.range_eq_window]
  unfold walkRange
  cases hempty : range.isEmpty with
  | true => rw [Contents.window_eq_nil (ScoreRange.admits_eq_false_of_isEmpty hempty)]; rfl
  | false =>
      have hfound : (set.ordered.filter fun m =>
            range.lower.lowerEdge.isBefore m && range.upper.upperEdge.isBehind m)
          = Contents.members (set.scores.filter fun _ score => range.admits score) := by
        rw [Contents.members_filter, ← h]
        exact List.filter_congr fun m hm => ScoreRange.between_edges (hwords m hm)
      rw [walk, ScoreRange.misstep_edges_of_not_isEmpty hempty]
      dsimp only
      rw [hfound]
      unfold Contents.window
      cases range.limit <;> rfl

end SortedSet

end GroupQueue
