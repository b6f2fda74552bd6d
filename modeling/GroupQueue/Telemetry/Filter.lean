import GroupQueue.Telemetry.Directive

/-!
# `GroupQueue.Telemetry.Filter` — which notices reach the log

A filter is a list of directives, written with commas between them. The most specific directive that
covers a target decides, and a notice that no directive covers is not logged. Read leniently, a filter
without any directive logs errors alone.

## Contents
- `Filter`, `Filter.read`, `Filter.readLeniently` — filters from text, strictly or without the faulty
  parts.
- `Filter.complaints` — what is wrong with the faulty parts.
- `Filter.bound` — the level that is logged for a target, outside of spans.
-/

namespace GroupQueue

/-- A filter. Its directives are in the order of the text. -/
structure Filter where
  directives : List Directive
deriving DecidableEq, Repr

namespace Filter

/-- The texts of the directives of a filter. -/
def pieces (s : String) : List String :=
  ((s.toList.splitOn ',').map String.ofList).filter (· != "")

/-- Read a filter. -/
def read (s : String) : Except DirectiveFault Filter :=
  Filter.mk <$> (pieces s).mapM Directive.read

/-- Read a filter without its faulty directives; errors alone are logged if there is no other. -/
def readLeniently (s : String) : Filter :=
  let directives := (pieces s).filterMap fun piece => (Directive.read piece).toOption
  ⟨if directives.isEmpty then [{ bound := some .error }] else directives⟩

/-- What there is to complain of in a filter. -/
def complaints (s : String) : List String :=
  (pieces s).filterMap fun piece =>
    match Directive.read piece with
    | .ok _ => none
    | .error fault => some ("ignoring `" ++ piece ++ "`: " ++ fault.message)

/-- The directive that is tried first; of two that are equal in rank, the later one. -/
def prefer (best : Option Directive) (d : Directive) : Option Directive :=
  match best with
  | some b => if b.outranks d then some b else some d
  | none => some d

/-- The least important level that is logged for a target. -/
def bound (f : Filter) (target : String) : LevelBound :=
  ((f.directives.filter fun d => d.isStatic && d.covers target).foldl prefer none).bind
    Directive.bound

end Filter

end GroupQueue
