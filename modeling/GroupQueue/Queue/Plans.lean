import GroupQueue.Plan.Basic
import GroupQueue.Queue.Basic

/-!
# `GroupQueue.Queue.Plans` — the plans behind the queue operations

Everything that an operation does to event sets is one plan, so that looking, deciding and changing
happen in one atomic unit.

## Contents
- `dropExpired` — the steps that take the expired events out of a set.
- `Queue.addPlan` — put an event into `available`.
- `Queue.takeSteps`, `Queue.getPlan` — take the next event for a group.
- `Queue.ackPlan` — settle an event that was taken.
- `Queue.requeuePlan`, `Queue.purgePlan` — the plans of a sweep.
- `Queue.lenPlan` — the live members of a set.
-/

namespace GroupQueue

/-- Take the events that have expired by `now` out of a set with natural scores. -/
def dropExpired (set : EventSet) (now : Instant) : List Step :=
  [.pick (.scoreRange set (ScoreRange.all.atMost now.score)), .removeFrom [set]]

namespace Queue

/-- Put an event into `available`. -/
def addPlan (q : Queue) (now : Instant) (queue : String) (id : EventId) : Plan where
  base := q.base
  now
  steps := [.pick (.events [id]), .addTo [q.eventSet queue .available ""] none]

/-- Record the selected event as taken, and stop if there is one. -/
def takeSteps (sets : GroupSets) : Option Instant → List Step
  | some deadline => [
      .addTo [sets.inProgressById] none,
      .addTo [sets.inProgressByAck] (some deadline.score),
      .breakIf .ifInput]
  | none => [.addTo [sets.done] none, .breakIf .ifInput]

/-- Take the next event for a group. Expired events leave the sets first, so that they count neither
    as history nor as available. Then the choice is the oldest event to be handed out again; else the
    available event that follows the newest one the group has taken; else, for a group without
    history, the first available event. -/
def getPlan (q : Queue) (now : Instant) (cmd : GetCommand) : Plan :=
  let sets := q.groupSets cmd.queue cmd.group
  let oldestLive := (ScoreRange.above now.score).limitTo 1
  let newestLive := oldestLive.reversed
  let take := takeSteps sets cmd.deadline
  let drop := [sets.available, sets.redo, sets.done, sets.inProgressById].flatMap
    fun set => dropExpired set now
  let again := [
    .pick (.scoreRange sets.redo oldestLive),
    .removeFrom [sets.redo]]
  let next := [
    .pick (.scoreRange sets.inProgressById newestLive),
    .select ⟨.scoreRange sets.done newestLive, true, none⟩,
    .pick (.scoreRange sets.available (ScoreRange.afterInput.limitTo 1))]
  let first := [
    .select ⟨.first sets.available, false,
      some (.all [.ifEmpty sets.done, .ifEmpty sets.inProgressById])⟩]
  ⟨q.base, now, drop ++ again ++ take ++ next ++ take ++ first ++ take⟩

/-- Settle an event that is in progress and whose deadline has not passed. -/
def ackPlan (q : Queue) (now : Instant) (cmd : AckCommand) : Plan :=
  let sets := q.groupSets cmd.queue cmd.group
  ⟨q.base, now, [
    .pick (.scoreOf sets.inProgressByAck cmd.event (some now.score) none),
    .breakIf .ifNoInput,
    .removeFrom [sets.inProgressById, sets.inProgressByAck],
    .addTo [sets.done] none]⟩

/-- Move the events whose deadline has passed into `redo`. -/
def requeuePlan (q : Queue) (now : Instant) (sets : GroupSets) : Plan :=
  ⟨q.base, now, [
    .pick (.scoreRange sets.inProgressByAck (ScoreRange.below now.score)),
    .removeFrom [sets.inProgressById, sets.inProgressByAck],
    .addTo [sets.redo] none]⟩

/-- Take the expired events out of a set. -/
def purgePlan (q : Queue) (now : Instant) (set : EventSet) : Plan :=
  ⟨q.base, now, dropExpired set now⟩

/-- Select the live members of a set: the events that have not expired or, by acknowledgement, those
    whose deadline has not passed. -/
def lenPlan (q : Queue) (now : Instant) (queue : String) (role : Role) (group : String) : Plan :=
  ⟨q.base, now,
    [.pick (.scoreRange (q.eventSet queue role group) (ScoreRange.above now.score))]⟩

end Queue

end GroupQueue
