import GroupQueue.Queue.Operations

/-!
# `GroupQueue.Queue.Sweeper` — sweeping in the background

A sweeper sweeps a fixed list of targets, then drops the payloads that need not be kept, and does so
again after every interval until it is told to stop. A failure is noted, and costs no more than its
own share of the round.

## Contents
- `Queue.sweepTargets`, `Queue.tick` — one round.
- `Queue.runRounds`, `Queue.run` — round after round.
-/

namespace GroupQueue

namespace Queue

/-- Sweep every target, and add up what was done. -/
def sweepTargets (q : Queue) (now : Instant) : List SweepTarget → QueueDialogue SweepReport
  | [] => pure {}
  | target :: targets => do
    let own ← match ← (q.sweep now target.queue target.group).run with
      | .ok done => pure done
      | .error failure =>
        note (.sweepFailed target.queue target.group failure)
        pure {}
    return own.add (← q.sweepTargets now targets)

/-- Sweep every target once, then drop the payloads that need not be kept. -/
def tick (q : Queue) (now : Instant) (targets : List SweepTarget) : QueueDialogue SweepReport := do
  let swept ← q.sweepTargets now targets
  let reply : Except Failure Nat ← (ask .purgePayloads).run
  match reply with
  | .ok count => return swept.add { payloadsPurged := count }
  | .error failure =>
    note (.payloadPurgeFailed failure)
    return swept

/-- Do so a number of times. A round that did nothing is not worth a notice. -/
def runRounds (q : Queue) (now : Instant) (targets : List SweepTarget) :
    (rounds : Nat) → QueueDialogue Unit
  | 0 => note .sweeperStopped
  | rounds + 1 => do
    let done ← q.tick now targets
    unless done = {} do note (.sweepComplete done.requeued done.purged done.payloadsPurged)
    q.runRounds now targets rounds

/-- Run the sweeper for a number of rounds, with an interval after each of them. -/
def run (q : Queue) (now : Instant) (targets : List SweepTarget) (interval : Span) (rounds : Nat) :
    QueueDialogue Unit := do
  note (.sweeperStarted targets.length interval.millis)
  q.runRounds now targets rounds

end Queue

end GroupQueue
