import GroupQueue.Failure
import GroupQueue.Text.Blank

/-!
# `GroupQueue.Queue.Name` — names of queues and consumer groups

Names end up inside the keys of event sets, whose parts are separated by colons. A name therefore is
not blank and has no colon. A sweep target names a queue and a group with a slash between them.

## Contents
- `checkName` — refuse an unusable name; `checkName_eq_ok_iff`.
- `SweepTarget`, `SweepTarget.read` — a queue with one of its groups, from text.
-/

namespace GroupQueue

/-- Refuse a name that cannot be part of a key; `field` is what the name is for. -/
def checkName (field name : String) : Except Rejection Unit :=
  if Text.trim name = "" then .error (.missing field)
  else if ':' ∈ name.toList then .error (.separator field)
  else .ok ()

theorem checkName_eq_ok_iff {field name : String} :
    checkName field name = .ok () ↔
      (∃ c ∈ name.toList, Text.isBlank c = false) ∧ ':' ∉ name.toList := by
  unfold checkName
  split
  · next h => simpa using fun c hc hb => absurd (Text.trim_eq_empty_iff.1 h c hc) (by simp [hb])
  · next h =>
    rw [Text.trim_eq_empty_iff] at h
    split <;> simp_all

/-- A consumer group of a queue, to be swept. -/
structure SweepTarget where
  queue : String
  group : String
deriving DecidableEq, Repr

/-- Read a queue and a group with a slash between them. Further slashes belong to the group. -/
def SweepTarget.read (s : String) : Except Rejection SweepTarget :=
  let queue := s.toList.takeWhile (· != '/')
  let group := (s.toList.dropWhile (· != '/')).drop 1
  if queue.isEmpty || group.isEmpty then .error (.target s)
  else .ok ⟨String.ofList queue, String.ofList group⟩

end GroupQueue
