import GroupQueue.Dialogue
import GroupQueue.Notice
import GroupQueue.Plan.Basic

/-!
# `GroupQueue.Plan.Evaluation` — what a plan asks of its sets, and what it selects

Evaluating a plan is one pass over its steps, from left to right, with the current selection carried
along. The pass is a dialogue with whoever holds the sets, and knows nothing of how they are held. It
asks only for what can have an effect: no range that cannot match anything, no rank window that ends
before it starts, and nothing at all on behalf of an empty selection.

## Contents
- `SetCall` — the questions and commands to the holder of the sets, with `SetCall.Reply`.
- `holdsAll`, `Condition.holds` — evaluate conditions with a work list, left to right, up to the first
  one that fails.
- `Selection.members`, `unite` — what a selecting step selects.
- `Plan.evaluateFrom`, `Plan.evaluate` — the pass over the steps.
- `Plan.execute` — validate a plan, then answer its calls in a monad with failures; `execute_eq_of_valid`,
  `execute_eq_of_invalid`.
-/

namespace GroupQueue

/-! ## The holder of the sets -/

/-- What the holder of the sets can be asked for. Each read sees every earlier write. -/
inductive SetCall where
  /-- The members in a range, by score and then identifier. The range is resolved and not empty, and
      its limit is not zero. -/
  | rangeByScore (set : EventSet) (range : ScoreRange)
  /-- The members at the ranks `start … stop`, where `start ≤ stop`. -/
  | rangeByRank (set : EventSet) (start stop : Nat)
  /-- The score of an event, if it is a member. -/
  | scoreOf (set : EventSet) (event : EventId)
  /-- Insert members; a member that is there already gets the new score. -/
  | add (set : EventSet) (members : List Member)
  | remove (set : EventSet) (events : List EventId)
  | isEmpty (set : EventSet)
deriving DecidableEq, Repr

namespace SetCall

/-- The set that a call is about. -/
def set : SetCall → EventSet
  | rangeByScore set _ | rangeByRank set _ _ | scoreOf set _ | add set _ | remove set _
  | isEmpty set => set

/-- The type of reply to a call. -/
abbrev Reply : SetCall → Type
  | rangeByScore .. | rangeByRank .. => List Member
  | scoreOf .. => Option Int
  | add .. | remove .. => Unit
  | isEmpty .. => Bool

/-- The calls with their replies. -/
abbrev interface : Interface := ⟨SetCall, Reply⟩

end SetCall

/-- A conversation with the holder of the sets. -/
abbrev SetDialogue := Dialogue SetCall.interface

/-! ## Conditions -/

mutual

/-- The number of conditions inside a condition, itself included. -/
def Condition.size : Condition → Nat
  | .ifInput | .ifNoInput | .ifEmpty _ => 1
  | .all conditions => Condition.sizeOfAll conditions + 1

/-- The number of conditions inside some conditions. -/
def Condition.sizeOfAll : List Condition → Nat
  | [] => 0
  | condition :: rest => condition.size + Condition.sizeOfAll rest

end

theorem Condition.sizeOfAll_append (cs ds : List Condition) :
    Condition.sizeOfAll (cs ++ ds) = Condition.sizeOfAll cs + Condition.sizeOfAll ds := by
  induction cs with
  | nil => simp [Condition.sizeOfAll]
  | cons c cs ih => simp [Condition.sizeOfAll, ih, Nat.add_assoc]

theorem Condition.size_pos (c : Condition) : 0 < c.size := by
  cases c <;> simp [Condition.size]

/-- Whether all pending conditions hold for the current selection. A conjunction is replaced by its
    parts. -/
def holdsAll (acc : List Member) : List Condition → SetDialogue Bool
  | [] => pure true
  | .ifInput :: rest => if acc.isEmpty then pure false else holdsAll acc rest
  | .ifNoInput :: rest => if acc.isEmpty then holdsAll acc rest else pure false
  | .ifEmpty set :: rest =>
    .ask (I := SetCall.interface) (.isEmpty set) fun (empty : Bool) =>
      if empty then holdsAll acc rest else pure false
  | .all conditions :: rest => holdsAll acc (conditions ++ rest)
termination_by pending => Condition.sizeOfAll pending
decreasing_by
  all_goals simp [Condition.sizeOfAll, Condition.size, Condition.sizeOfAll_append]

/-- Whether a condition holds for the current selection. -/
def Condition.holds (acc : List Member) (condition : Condition) : SetDialogue Bool :=
  holdsAll acc [condition]

/-! ## Selecting -/

/-- The smallest score of a selection. -/
def lowestScore? (acc : List Member) : Option Int := (acc.map Member.score).min?

/-- Whether a score lies in `min … max`, where a missing end is no bound. -/
def isWithin (min max : Option Int) (score : Int) : Bool :=
  min.all (· ≤ score) && max.all (score ≤ ·)

/-- The members that a selection draws, given the current one. -/
def Selection.members (acc : List Member) : Selection → SetDialogue (List Member)
  | .events ids => pure (ids.map Member.natural)
  | .scoreRange set range =>
    match range.resolve (lowestScore? acc) with
    | some range =>
      if range.isEmpty || range.limit == some 0 then pure []
      else Dialogue.call (I := SetCall.interface) (.rangeByScore set range)
    | none => pure []
  | .rank set start stop =>
    if stop < start then pure []
    else Dialogue.call (I := SetCall.interface) (.rangeByRank set start stop)
  | .scoreOf set event min max => do
    let score : Option Int ← Dialogue.call (I := SetCall.interface) (.scoreOf set event)
    return ((score.filter (isWithin min max)).map (Member.mk event)).toList

/-- Extend a selection by the members whose events are not in it yet. -/
def unite (acc found : List Member) : List Member :=
  found.foldl (fun acc m => if acc.any (·.id == m.id) then acc else acc ++ [m]) acc

/-! ## Steps -/

/-- Whether a selecting step is to be taken. -/
def Select.isWanted (acc : List Member) (choice : Select) : SetDialogue Bool :=
  match choice.guard with
  | some condition => condition.holds acc
  | none => pure true

/-- The members to be put into sets: with their natural scores, or all with `score`. -/
def scored (score : Option Int) (acc : List Member) : List Member :=
  acc.map fun m => ⟨m.id, score.getD m.id.score⟩

/-- Put members into each set. -/
def addToEach (members : List Member) : List EventSet → SetDialogue Unit
  | [] => pure ()
  | set :: sets =>
    .ask (I := SetCall.interface) (.add set members) fun (_ : Unit) => addToEach members sets

/-- Take events out of each set. -/
def removeFromEach (events : List EventId) : List EventSet → SetDialogue Unit
  | [] => pure ()
  | set :: sets =>
    .ask (I := SetCall.interface) (.remove set events) fun (_ : Unit) => removeFromEach events sets

/-- What evaluating a plan ends in. -/
structure Evaluation where
  selected : List Member
  notices : List Notice
deriving DecidableEq, Repr

/-- The events selected at the end. -/
def Evaluation.events (e : Evaluation) : List EventId := e.selected.map Member.id

namespace Plan

/-- Take the steps from number `index` on, with the current selection `acc`. -/
def evaluateFrom (index : Nat) (acc : List Member) : List Step → SetDialogue Evaluation
  | [] => pure ⟨acc, []⟩
  | .select choice :: rest => do
    if ← choice.isWanted acc then
      let found ← choice.selection.members acc
      evaluateFrom (index + 1) (if choice.union then unite acc found else found) rest
    else
      let e ← evaluateFrom (index + 1) acc rest
      return { e with notices := .stepSkipped index :: e.notices }
  | .addTo sets score :: rest => do
    unless acc.isEmpty do addToEach (scored score acc) sets
    evaluateFrom (index + 1) acc rest
  | .removeFrom sets :: rest => do
    unless acc.isEmpty do removeFromEach (acc.map Member.id) sets
    evaluateFrom (index + 1) acc rest
  | .breakIf condition :: rest => do
    if ← condition.holds acc then return ⟨acc, [.planBroken index acc.length]⟩
    else evaluateFrom (index + 1) acc rest

/-- Take all steps, with nothing selected at first. -/
def evaluate (plan : Plan) : SetDialogue Evaluation :=
  evaluateFrom 0 [] plan.steps

/-- Validate a plan and evaluate it against a holder of the sets that may fail. -/
def execute {m : Type → Type} [Monad m] (plan : Plan)
    (answer : (c : SetCall) → ExceptT Failure m c.Reply) : ExceptT Failure m Evaluation :=
  match plan.validate with
  | .error fault => throw (.invalidPlan fault)
  | .ok () => plan.evaluate.interpret answer

section Execution

variable {m : Type → Type} [Monad m] {plan : Plan}

theorem execute_eq_of_valid (h : plan.validate = .ok ())
    (answer : (c : SetCall) → ExceptT Failure m c.Reply) :
    plan.execute answer = plan.evaluate.interpret (I := SetCall.interface) answer := by
  rw [execute, h]

theorem execute_eq_of_invalid {fault : PlanFault} (h : plan.validate = .error fault)
    (answer : (c : SetCall) → ExceptT Failure m c.Reply) :
    plan.execute answer = throw (.invalidPlan fault) := by
  rw [execute, h]

end Execution

end Plan

end GroupQueue
