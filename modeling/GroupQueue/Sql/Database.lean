import GroupQueue.Failure
import GroupQueue.Sql.Statement

/-!
# `GroupQueue.Sql.Database` — conversations with a database

A conversation sends statements one after the other. Each is answered by rows and a number of affected
rows, or fails. The statements of a transaction stand between its begin and its commit; if one of them
fails, the commit included, the transaction is rolled back.

## Contents
- `Value`, `Row`, `Answer` — answers, with `Row.integer`, `Row.text`, `Row.boolean`.
- `SqlDialogue`, `SqlOperation` — conversations.
- `send`, `fetch`, `fetchFirst?`, `fetchFirst` — single statements.
- `asUnit`, `transaction` — several statements as one unit.
-/

namespace GroupQueue.Sql

/-! ## Answers -/

/-- A value in a row. -/
inductive Value where
  | integer (n : Int)
  | text (s : String)
  | boolean (b : Bool)
  | null
deriving DecidableEq, Repr

/-- A row of values. -/
abbrev Row := List Value

namespace Row

/-- The integer in a column. -/
def integer (row : Row) (column : Nat) : Except DatabaseFault Int :=
  match row[column]? with
  | some (.integer n) => .ok n
  | _ => .error (.badColumn column)

/-- The text in a column. -/
def text (row : Row) (column : Nat) : Except DatabaseFault String :=
  match row[column]? with
  | some (.text s) => .ok s
  | _ => .error (.badColumn column)

/-- The truth value in a column. -/
def boolean (row : Row) (column : Nat) : Except DatabaseFault Bool :=
  match row[column]? with
  | some (.boolean b) => .ok b
  | _ => .error (.badColumn column)

end Row

/-- The answer to a statement. -/
structure Answer where
  rows : List Row := []
  /-- The number of rows that the statement changed. -/
  affected : Nat := 0
deriving DecidableEq, Repr

/-- Statements with their answers. -/
def Statement.interface : Interface := ⟨Statement, fun _ => Except DatabaseFault Answer⟩

/-- A conversation with a database. -/
abbrev SqlDialogue := Dialogue Statement.interface

/-- A conversation with a database that may fail. -/
abbrev SqlOperation := ExceptT Failure SqlDialogue

/-! ## Single statements -/

/-- The answer to a statement, whatever it is. -/
def attempt (s : Statement) : SqlDialogue (Except DatabaseFault Answer) :=
  Dialogue.call (I := Statement.interface) s

/-- What went wrong becomes the failure of the conversation. -/
def orFail {α : Type} (r : Except DatabaseFault α) : SqlOperation α :=
  ExceptT.mk (pure (r.mapError Failure.database))

/-- Send a statement. -/
def send (s : Statement) : SqlOperation Answer :=
  ExceptT.mk do return (← attempt s).mapError Failure.database

/-- Send a statement and read every row. -/
def fetch {α : Type} (s : Statement) (read : Row → Except DatabaseFault α) :
    SqlOperation (List α) := do
  let answer ← send s
  orFail (answer.rows.mapM read)

/-- Send a statement and read its first row, if there is one. -/
def fetchFirst? {α : Type} (s : Statement) (read : Row → Except DatabaseFault α) :
    SqlOperation (Option α) := do
  let answer ← send s
  orFail (answer.rows.head?.mapM read)

/-- Send a statement and read its first row. -/
def fetchFirst {α : Type} (s : Statement) (read : Row → Except DatabaseFault α) :
    SqlOperation α := do
  let answer ← send s
  match answer.rows.head? with
  | some row => orFail (read row)
  | none => throw (.database .noRow)

/-! ## Transactions -/

/-- Send the statements of `body` as one unit; its begin and commit are sent by `send`. -/
def asUnit {α : Type} (send : Statement → SqlOperation Answer) (body : SqlOperation α) :
    SqlOperation α := do
  let _ ← send .begin
  let kept := do
    let a ← body
    let _ ← send .commit
    return a
  ExceptT.mk do
    match ← kept.run with
    | .ok a => return .ok a
    | .error failure =>
      let _ ← attempt .rollback
      return .error failure

/-- Send the statements of `body` as one unit. -/
def transaction {α : Type} (body : SqlOperation α) : SqlOperation α := asUnit send body

end GroupQueue.Sql
