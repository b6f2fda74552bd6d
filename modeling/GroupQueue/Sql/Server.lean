import GroupQueue.Sql.Database

/-!
# `GroupQueue.Sql.Server` — a scripted database server

A scripted server knows nothing of tables. It writes down the statements it gets and answers those about
sets and payloads from a script, one answer each. It can be told to fail a statement by a part of its
text. Of all it is told, it remembers only whether the tables have been prepared.

## Contents
- `ScriptedAnswer`, `ScriptedAnswer.answer` — what an answer of the script means to a statement.
- `StatementFault`, `StatementFault.next` — statements that are made to fail.
- `Server`, `Server.answer` — the server.
-/

namespace GroupQueue.Sql

/-! ## Scripts -/

/-- An answer of a script. -/
inductive ScriptedAnswer where
  | rows (rows : List Row)
  /-- The number of rows changed. -/
  | affected (n : Nat)
  | fails (message : String)
  | nothing
deriving DecidableEq, Repr

namespace Statement

/-- Whether the answer to a statement comes from the script. -/
def isScripted : Statement → Bool
  | begin | commit | rollback | lock _ | probe | migration _ => false
  | _ => true

/-- Whether a statement is answered by rows. -/
def hasColumns : Statement → Bool
  | members _ | score .. | isEmpty _ | issueId _ | payload _ => true
  | _ => false

/-- Whether a statement is written down. Of the preparation of tables, only the script itself is. -/
def isLogged : Statement → Bool
  | migration step => step = .runScript
  | _ => true

end Statement

/-- What an answer of the script means to a statement. A set of which nothing is known is empty. -/
def ScriptedAnswer.answer (answer : ScriptedAnswer) (s : Statement) : Except DatabaseFault Answer :=
  match answer, s with
  | fails message, _ => .error (.reported message)
  | rows rs, s => .ok { rows := if s.hasColumns then rs else [] }
  | affected n, _ => .ok { affected := n }
  | nothing, .isEmpty _ => .ok { rows := [[.boolean true]] }
  | nothing, _ => .ok {}

/-! ## Faults -/

/-- A statement that is made to fail, after some that pass. -/
structure StatementFault where
  /-- The text that the statement contains. -/
  part : String
  /-- The number of such statements that pass before. -/
  skip : Nat
  message : String
deriving DecidableEq, Repr

/-- Whether `part` occurs in a text. -/
def occursIn (part : List Char) : List Char → Bool
  | [] => part.isEmpty
  | c :: cs => part.isPrefixOf (c :: cs) || occursIn part cs

/-- Why a statement fails, if it does, and the faults still to come after it. Only the first fault whose
    part occurs in the text counts. -/
def StatementFault.next (text : String) : List StatementFault → Option String × List StatementFault
  | [] => (none, [])
  | fault :: rest =>
    if occursIn fault.part.toList text.toList then
      match fault.skip with
      | 0 => (some fault.message, rest)
      | skip + 1 => (none, { fault with skip } :: rest)
    else
      let (message, rest) := next text rest
      (message, fault :: rest)

/-! ## Servers -/

/-- The state of a server. -/
structure Server where
  script : List ScriptedAnswer := []
  faults : List StatementFault := []
  /-- The tables have been prepared. -/
  prepared : Bool := false
  /-- The open transaction has recorded that the tables are prepared. -/
  recorded : Bool := false
  /-- The statements, the last one first. -/
  log : List Statement := []
deriving Repr

namespace Server

/-- Remember what a successful statement says about the tables. -/
def remember (server : Server) : Statement → Server
  | .migration .recordVersion => { server with recorded := true }
  | .commit => { server with prepared := server.prepared || server.recorded, recorded := false }
  | .rollback => { server with recorded := false }
  | _ => server

/-- The answer to a statement that is not in the script. -/
def fixedAnswer (server : Server) : Statement → Answer
  | .migration .findVersions =>
    { rows := if server.prepared then [[.integer 1, .null]] else [] }
  | _ => {}

/-- Answer a statement. -/
def answer (s : Statement) : StateM Server (Except DatabaseFault Answer) := fun server =>
  let log := if s.isLogged then s :: server.log else server.log
  let (message, faults) := StatementFault.next s.text server.faults
  let server := { server with log, faults }
  match message with
  | some message => (.error (.reported message), server)
  | none =>
    if s.isScripted then
      let scripted := server.script.headD .nothing
      (scripted.answer s, { server with script := server.script.tail })
    else (.ok (server.fixedAnswer s), server.remember s)

/-- Hold a conversation with the server. -/
def converse {α : Type} (dialogue : SqlDialogue α) : StateM Server α :=
  dialogue.interpret answer

end Server

end GroupQueue.Sql
