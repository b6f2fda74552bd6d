import GroupQueue.Queue.Interface
import Std.Data.ExtTreeMap

/-!
# `GroupQueue.Telemetry.Journal` — the log lines and metrics of queue operations

A journal turns the signals of operations into log lines and metrics. A line is a notice together with
the scope it was made in, as far as the scope was known at that moment.

## Contents
- `OpenScope`, `OpenScope.fields`, `LogLine` — lines.
- `Counter`, `Metrics` — counts by the texts that describe what is counted.
- `Journal`, `Journal.record` — take a signal in; `Journal.note` — take a notice in.
-/

namespace GroupQueue

/-- A scope that has been entered, and the number of events its plan selected, once that is known. -/
structure OpenScope where
  scope : Scope
  selected : Option Nat := none
deriving DecidableEq, Repr

/-- The name under which a scope appears in the log. -/
def OpenScope.name : String := "queue.op"

/-- The fields of a scope, by name. -/
def OpenScope.fields (s : OpenScope) : List (String × String) :=
  [("queue.operation", s.scope.activity.name), ("queue.name", s.scope.queue),
    ("queue.group", s.scope.group), ("client.id", s.scope.client)] ++
  (s.selected.map fun count => ("plan.selected", toString count)).toList

/-- A notice in its scope. -/
structure LogLine where
  notice : Notice
  scope : Option OpenScope
deriving DecidableEq, Repr

/-! ## Metrics -/

/-- Counts by the texts that describe what is counted. -/
abbrev Counter := Std.ExtTreeMap (List String) Nat

/-- Count `n` more. -/
def Counter.count (counter : Counter) (labels : List String) (n : Nat) : Counter :=
  counter.insert labels (counter.getD labels 0 + n)

/-- What the operations have counted. -/
structure Metrics where
  /-- Executed plans by queue, activity and outcome. -/
  operations : Counter := ∅
  /-- Events sent back by queue and group. -/
  requeued : Counter := ∅
  /-- Measured durations of plans by activity. -/
  durations : Counter := ∅

/-! ## Journals -/

/-- Everything the operations have reported. -/
structure Journal where
  openScope : Option OpenScope := none
  /-- The lines, the last one first. -/
  lines : List LogLine := []
  metrics : Metrics := {}

namespace Journal

/-- Write a line. -/
def note (journal : Journal) (notice : Notice) : Journal :=
  { journal with lines := ⟨notice, journal.openScope⟩ :: journal.lines }

/-- Take in a signal. -/
def record (journal : Journal) : Signal → Journal
  | .enter scope => { journal with openScope := some { scope } }
  | .selected count =>
    let known := journal.openScope.map fun s => { s with selected := some count }
    { journal with openScope := known }
  | .leave => { journal with openScope := none }
  | .notice notice => journal.note notice
  | .executed queue activity outcome =>
    let labels := [queue, activity.name, outcome.name]
    let metrics := { journal.metrics with
      operations := journal.metrics.operations.count labels 1
      durations := journal.metrics.durations.count [activity.name] 1 }
    { journal with metrics }
  | .requeued queue group count =>
    let metrics := { journal.metrics with
      requeued := journal.metrics.requeued.count [queue, group] count }
    { journal with metrics }

end Journal

end GroupQueue
