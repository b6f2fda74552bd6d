import GroupQueue.Sql.Database

/-!
# `GroupQueue.Sql.Migration` — preparing the tables of a database

The tables have one version. A database that does not have it yet gets it in one transaction, together
with the record that it has it now. A lock keeps two programs from doing so at once; it is not given
back when something fails, since it ends with the connection.

## Contents
- `migrate` — bring a database up to date.
- `probe` — check that a database answers.
-/

namespace GroupQueue.Sql

/-- The version of the tables. -/
def tableVersion : Nat := 1

/-- Send a step; a failure is worded by `fault`. -/
def sendStep (fault : DatabaseFault → MigrationFault) (s : Statement) : SqlOperation Answer :=
  ExceptT.mk do return (← attempt s).mapError (Failure.migration ∘ fault)

/-- Send a step around the script. -/
def sendAround (s : Statement) : SqlOperation Answer := sendStep .around s

/-- Make the tables and record their version, as one unit. -/
def applyScript : SqlOperation Unit := do
  asUnit sendAround do
    let _ ← sendStep (.script tableVersion) (.migration .runScript)
    let _ ← sendAround (.migration .recordVersion)
  let _ ← sendAround (.migration .recordDuration)

/-- Bring a database up to date. -/
def migrate : SqlOperation Unit := do
  let _ ← sendAround (.migration .findDatabase)
  let _ ← sendAround (.migration .lock)
  let _ ← sendAround (.migration .prepareVersions)
  let _ ← sendAround (.migration .findUnfinished)
  let versions ← sendAround (.migration .findVersions)
  unless versions.rows.any (·.head? == some (.integer tableVersion)) do applyScript
  let _ ← sendAround (.migration .findDatabase)
  let _ ← sendAround (.migration .unlock)

/-- Check that a database answers. -/
def probe : SqlOperation Unit := discard (send .probe)

end GroupQueue.Sql
