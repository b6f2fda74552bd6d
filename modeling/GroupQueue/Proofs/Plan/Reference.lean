import GroupQueue.Plan.Evaluation
import GroupQueue.Proofs.Store.Contents
import Mathlib.Data.List.Basic

/-!
# `Proofs.Plan.Reference` — what a plan means over plain maps

The reference reading of the plan language. Its state is a **ledger**, a finite map from keys to contents,
and the current selection; it knows neither calls nor ordered lists, and takes no short cuts. A plan is a
fold of its steps over that state, which a break ends early.

## Contents
- `Ledger`, `Ledger.contents`, `Ledger.put`, `Ledger.drop`, with `contents_put` and `contents_drop`.
- `Position` — a ledger with a selection — and `Position.satisfies`, `Position.reads`, `Position.run`.
- `Position.run_select`, `run_addTo`, `run_removeFrom`, `run_breakIf` — one equation for each step.
- `Plan.reference` — the reading of a whole plan.
-/

namespace GroupQueue

/-! ## Ledgers -/

/-- The contents of all sets, by key. -/
abbrev Ledger := Std.ExtTreeMap String Contents

namespace Ledger

/-- The contents under a key, empty if there are none. -/
def contents (l : Ledger) (key : String) : Contents := l[key]?.getD ∅

/-- Give each member the score it comes with under a key. -/
def put (l : Ledger) (key : String) (ms : List Member) : Ledger :=
  ms.foldl (fun l m => l.insert key ((contents l key).insert m.id m.score)) l

/-- Delete each event under a key. -/
def drop (l : Ledger) (key : String) (ids : List EventId) : Ledger :=
  ids.foldl (fun l id => l.insert key ((contents l key).erase id)) l

theorem contents_insert (l : Ledger) (key k : String) (c : Contents) :
    contents (l.insert key c) k = if key = k then c else contents l k := by
  rw [contents, getElem?_insert_ite]
  split <;> rfl

theorem contents_put (l : Ledger) (key k : String) (ms : List Member) :
    contents (put l key ms) k
      = if key = k then Contents.upsert (contents l k) ms else contents l k := by
  induction ms generalizing l with
  | nil => exact (ite_self _).symm
  | cons m ms ih =>
      rw [put, List.foldl_cons, ← put, ih, contents_insert]
      split
      · next hk => rw [hk]; rfl
      · rfl

theorem contents_drop (l : Ledger) (key k : String) (ids : List EventId) :
    contents (drop l key ids) k
      = if key = k then Contents.without (contents l k) ids else contents l k := by
  induction ids generalizing l with
  | nil => exact (ite_self _).symm
  | cons id ids ih =>
      rw [drop, List.foldl_cons, ← drop, ih, contents_insert]
      split
      · next hk => rw [hk]; rfl
      · rfl

end Ledger

/-! ## Positions -/

/-- A point in the evaluation of a plan: the sets as they are by then, and what is selected. -/
structure Position where
  ledger : Ledger
  acc : List Member

namespace Position

mutual

/-- Whether a condition holds: a conjunction if every part does. -/
def satisfies (p : Position) : Condition → Bool
  | .ifInput => !p.acc.isEmpty
  | .ifNoInput => p.acc.isEmpty
  | .ifEmpty set => (p.ledger.contents set.key).isEmpty
  | .all conditions => p.satisfiesAll conditions

/-- Whether all conditions hold. -/
def satisfiesAll (p : Position) : List Condition → Bool
  | [] => true
  | condition :: rest => p.satisfies condition && p.satisfiesAll rest

end

/-- Whether a score lies in a range. A lower bound taken from the input is the smallest selected score,
    excluded if the range says so, and without one nothing lies in the range. -/
def admits (p : Position) (range : ScoreRange) (score : Int) : Bool :=
  let aboveLower :=
    if range.lowerFromInput then
      match (p.acc.map Member.score).min? with
      | none => false
      | some least =>
        match range.lower with
        | .excluded _ => decide (least < score)
        | .included _ | .unbounded => decide (least ≤ score)
    else range.lower.isBelow score
  aboveLower && range.upper.isAbove score

/-- The members that a selection stands for. -/
def reads (p : Position) : Selection → List Member
  | .events ids => ids.map fun id => ⟨id, id.score⟩
  | .scoreRange set range =>
    Contents.window (p.ledger.contents set.key) (p.admits range) range.descending range.limit
  | .rank set start stop => Contents.slice (p.ledger.contents set.key) start stop
  | .scoreOf set event min max =>
    match (p.ledger.contents set.key)[event]? with
    | none => []
    | some score =>
      if (∀ low ∈ min, low ≤ score) ∧ (∀ high ∈ max, score ≤ high) then [⟨event, score⟩] else []

/-- A selection extended by those members whose events are not in it already. -/
def extend (acc : List Member) : List Member → List Member
  | [] => acc
  | m :: rest => extend (if m.id ∈ acc.map Member.id then acc else acc ++ [m]) rest

/-- Take a selecting step: not at all if its guard is false. -/
def take (p : Position) (choice : Select) : Position :=
  if choice.guard.all p.satisfies then
    { p with acc := if choice.union then extend p.acc (p.reads choice.selection)
                    else p.reads choice.selection }
  else p

/-- Insert the selected events into every set, with their natural scores or with `score`. -/
def addTo (p : Position) (sets : List EventSet) (score : Option Int) : Position :=
  let ms := p.acc.map fun m => ⟨m.id, score.getD m.id.score⟩
  { p with ledger := sets.foldl (fun l set => Ledger.put l set.key ms) p.ledger }

/-- Delete the selected events from every set. -/
def removeFrom (p : Position) (sets : List EventSet) : Position :=
  let ids := p.acc.map Member.id
  { p with ledger := sets.foldl (fun l set => Ledger.drop l set.key ids) p.ledger }

/-- With nothing selected, nothing is inserted. -/
theorem addTo_of_isEmpty {p : Position} (h : p.acc.isEmpty = true) (sets : List EventSet)
    (score : Option Int) : p.addTo sets score = p := by
  obtain ⟨ledger, acc⟩ := p
  obtain rfl := List.isEmpty_iff.mp h
  simp only [addTo, List.map_nil, Ledger.put, List.foldl_nil, List.foldl_fixed]

/-- With nothing selected, nothing is deleted. -/
theorem removeFrom_of_isEmpty {p : Position} (h : p.acc.isEmpty = true) (sets : List EventSet) :
    p.removeFrom sets = p := by
  obtain ⟨ledger, acc⟩ := p
  obtain rfl := List.isEmpty_iff.mp h
  simp only [removeFrom, List.map_nil, Ledger.drop, List.foldl_nil, List.foldl_fixed]

/-! ## What writing steps leave -/

@[simp] theorem acc_addTo (p : Position) (sets : List EventSet) (score : Option Int) :
    (p.addTo sets score).acc = p.acc := rfl

@[simp] theorem acc_removeFrom (p : Position) (sets : List EventSet) :
    (p.removeFrom sets).acc = p.acc := rfl

theorem contents_addTo (p : Position) (set : EventSet) (score : Option Int) (key : String) :
    (p.addTo [set] score).ledger.contents key
      = if set.key = key then
          Contents.upsert (p.ledger.contents key) (p.acc.map fun m => ⟨m.id, score.getD m.id.score⟩)
        else p.ledger.contents key :=
  Ledger.contents_put _ _ _ _

theorem contents_removeFrom (p : Position) (set : EventSet) (key : String) :
    (p.removeFrom [set]).ledger.contents key
      = if set.key = key then Contents.without (p.ledger.contents key) (p.acc.map Member.id)
        else p.ledger.contents key :=
  Ledger.contents_drop _ _ _ _

/-- Deleting from two sets is deleting from one after the other. -/
theorem removeFrom_pair (p : Position) (set set' : EventSet) :
    p.removeFrom [set, set'] = (p.removeFrom [set]).removeFrom [set'] := rfl

/-! ## Taking steps -/

/-- Where the steps lead. -/
def run (p : Position) : List Step → Position
  | [] => p
  | .select choice :: rest => (p.take choice).run rest
  | .addTo sets score :: rest => (p.addTo sets score).run rest
  | .removeFrom sets :: rest => (p.removeFrom sets).run rest
  | .breakIf condition :: rest => if p.satisfies condition then p else p.run rest

/-! ## One equation for each step -/

@[simp] theorem run_nil (p : Position) : p.run [] = p := by rw [run]

theorem run_select (p : Position) (choice : Select) (rest : List Step) :
    p.run (.select choice :: rest) = (p.take choice).run rest := by rw [run]

theorem run_addTo (p : Position) (sets : List EventSet) (score : Option Int) (rest : List Step) :
    p.run (.addTo sets score :: rest) = (p.addTo sets score).run rest := by rw [run]

theorem run_removeFrom (p : Position) (sets : List EventSet) (rest : List Step) :
    p.run (.removeFrom sets :: rest) = (p.removeFrom sets).run rest := by rw [run]

theorem run_breakIf (p : Position) (condition : Condition) (rest : List Step) :
    p.run (.breakIf condition :: rest) = if p.satisfies condition then p else p.run rest := by
  rw [run]

end Position

/-- The reading of a whole plan: all steps, with nothing selected at first. -/
def Plan.reference (plan : Plan) (l : Ledger) : Position := Position.run ⟨l, []⟩ plan.steps

end GroupQueue
