import GroupQueue.Dialogue
import GroupQueue.Plan.ScoreRange

/-!
# `GroupQueue.Sql.Statement` — the statements sent to a database

A database keeps the members of all event sets in one table, the payloads in a second one, and the last
identifier in a third. A statement is a sequence of words and parameters; in its text, the parameters
are numbered from `$1` in order. Members are read by one form of statement: a key, two bounds on the
score, an order, and optionally a first row and a number of rows.

## Contents
- `Parameter`, `Piece`, `Piece.text`, `Piece.parameters` — what statements are made of.
- `MemberQuery` — reading the members of a set.
- `Statement`, with `Statement.pieces`, `Statement.text` and `Statement.parameters`.
-/

namespace GroupQueue.Sql

/-- A parameter of a statement. -/
inductive Parameter where
  | integer (n : Int)
  | text (s : String)
  | integers (ns : List Int)
  | instant (t : Instant)
deriving DecidableEq, Repr

/-- A part of a statement. -/
inductive Piece where
  | words (s : String)
  | parameter (p : Parameter)
deriving DecidableEq, Repr

namespace Piece

/-- The text of some pieces, with parameters numbered from `index` on. -/
def textFrom (index : Nat) : List Piece → String
  | [] => ""
  | words s :: rest => s ++ textFrom index rest
  | parameter _ :: rest => "$" ++ toString index ++ textFrom (index + 1) rest

/-- The text of a statement. -/
def text (pieces : List Piece) : String := textFrom 1 pieces

/-- The parameter that a piece is. -/
def parameter? : Piece → Option Parameter
  | words _ => none
  | parameter p => some p

/-- The parameters of a statement, in order. -/
def parameters (pieces : List Piece) : List Parameter := pieces.filterMap parameter?

/-- A text as a parameter. -/
def ofText (s : String) : Piece := parameter (.text s)

/-- An integer as a parameter. -/
def ofInt (n : Int) : Piece := parameter (.integer n)

/-- An instant as a parameter. -/
def ofInstant (t : Instant) : Piece := parameter (.instant t)

/-- A list of integers as a parameter. -/
def ofInts (ns : List Int) : Piece := parameter (.integers ns)

end Piece

/-! ## Reading members -/

/-- The members of one set. -/
structure MemberQuery where
  key : String
  lower : Bound := .unbounded
  upper : Bound := .unbounded
  /-- The greatest score first, and the greatest identifier first among equal scores. -/
  descending : Bool := false
  /-- The number of rows passed over. -/
  offset : Option Nat := none
  /-- The greatest number of rows. -/
  limit : Option Nat := none
deriving DecidableEq, Repr

namespace MemberQuery

/-- A condition on the score. -/
def boundPieces (inclusive exclusive : String) : Bound → List Piece
  | .included score => [.words (" AND score " ++ inclusive ++ " "), .ofInt score]
  | .excluded score => [.words (" AND score " ++ exclusive ++ " "), .ofInt score]
  | .unbounded => []

/-- A number of rows. -/
def rowsPieces (keyword : String) : Option Nat → List Piece
  | some n => [.words (" " ++ keyword ++ " "), .ofInt n]
  | none => []

/-- The statement. -/
def pieces (q : MemberQuery) : List Piece :=
  [.words "SELECT event_id, score FROM event_set_members WHERE set_key = ", .ofText q.key] ++
    boundPieces ">=" ">" q.lower ++ boundPieces "<=" "<" q.upper ++
    [.words (if q.descending then " ORDER BY score DESC, event_id DESC"
      else " ORDER BY score ASC, event_id ASC")] ++
    rowsPieces "OFFSET" q.offset ++ rowsPieces "LIMIT" q.limit

end MemberQuery

/-! ## Statements -/

/-- The statements that prepare the tables of a new database. -/
def tableScript : String :=
  "-- Score-ordered event sets. One row per (set, member). " ++
  "CREATE TABLE IF NOT EXISTS event_set_members ( set_key TEXT NOT NULL, " ++
  "event_id BIGINT NOT NULL, score BIGINT NOT NULL, PRIMARY KEY (set_key, event_id) ); " ++
  "CREATE INDEX IF NOT EXISTS idx_event_set_members_score " ++
  "ON event_set_members (set_key, score, event_id); " ++
  "-- Event payloads, written once, readable until ttl_at. " ++
  "CREATE TABLE IF NOT EXISTS event_payloads ( event_id BIGINT PRIMARY KEY, " ++
  "contents TEXT NOT NULL, expire_at TIMESTAMPTZ NOT NULL, ttl_at TIMESTAMPTZ NOT NULL ); " ++
  "CREATE INDEX IF NOT EXISTS idx_event_payloads_ttl ON event_payloads (ttl_at); " ++
  "-- Last issued event ID. Single row. " ++
  "CREATE TABLE IF NOT EXISTS event_id_clock " ++
  "( singleton BOOLEAN PRIMARY KEY DEFAULT TRUE CHECK (singleton), last_id BIGINT NOT NULL ); " ++
  "INSERT INTO event_id_clock (singleton, last_id) VALUES (TRUE, 0) " ++
  "ON CONFLICT (singleton) DO NOTHING;"

/-- A step of preparing a database. The database remembers which versions of the tables it has. -/
inductive MigrationStep where
  | findDatabase
  | lock
  /-- Make the table of versions. -/
  | prepareVersions
  /-- Look for a version that was left half done. -/
  | findUnfinished
  | findVersions
  | runScript
  | recordVersion
  | recordDuration
  | unlock
deriving DecidableEq, Repr

/-- The statement of a step. The parameters of these statements depend on the connection and on
    measured time, and nothing depends on them. -/
def MigrationStep.text : MigrationStep → String
  | findDatabase => "SELECT current_database()"
  | lock => "SELECT pg_advisory_lock($1)"
  | prepareVersions =>
    "CREATE TABLE IF NOT EXISTS _sqlx_migrations ( version BIGINT PRIMARY KEY, " ++
    "description TEXT NOT NULL, installed_on TIMESTAMPTZ NOT NULL DEFAULT now(), " ++
    "success BOOLEAN NOT NULL, checksum BYTEA NOT NULL, execution_time BIGINT NOT NULL );"
  | findUnfinished =>
    "SELECT version FROM _sqlx_migrations WHERE success = false ORDER BY version LIMIT 1"
  | findVersions => "SELECT version, checksum FROM _sqlx_migrations ORDER BY version"
  | runScript => tableScript
  | recordVersion =>
    "INSERT INTO _sqlx_migrations ( version, description, success, checksum, execution_time ) " ++
    "VALUES ( $1, $2, TRUE, $3, -1 )"
  | recordDuration => "UPDATE _sqlx_migrations SET execution_time = $1 WHERE version = $2"
  | unlock => "SELECT pg_advisory_unlock($1)"

/-- A statement. -/
inductive Statement where
  | begin
  | commit
  | rollback
  /-- Wait until no other transaction holds the lock of a set, and hold it. -/
  | lock (key : String)
  | members (query : MemberQuery)
  /-- The score of an event in a set. -/
  | score (key : String) (event : EventId)
  | insertMembers (key : String) (members : List Member)
  | deleteMembers (key : String) (events : List EventId)
  | isEmpty (key : String)
  /-- Issue the identifier after the last one, or `low` if that is later. -/
  | issueId (low : Int)
  /-- Write a payload, unless there is one for the event. -/
  | insertPayload (event : Event) (expiresAt : Instant)
  /-- The payload of an event, if it is still kept. -/
  | payload (event : EventId)
  /-- Drop the payloads that are not kept any longer. -/
  | deletePayloads
  /-- Check that the database answers. -/
  | probe
  | migration (step : MigrationStep)
deriving DecidableEq, Repr

namespace Statement

/-- The words and parameters of a statement. -/
def pieces : Statement → List Piece
  | begin => [.words "BEGIN"]
  | commit => [.words "COMMIT"]
  | rollback => [.words "ROLLBACK"]
  | lock key =>
    [.words "SELECT pg_advisory_xact_lock(hashtextextended(", .ofText key, .words ", 0))"]
  | members query => query.pieces
  | score key event =>
    [.words "SELECT score FROM event_set_members WHERE set_key = ", .ofText key,
      .words " AND event_id = ", .ofInt event.score]
  | insertMembers key ms =>
    [.words "INSERT INTO event_set_members (set_key, event_id, score) SELECT ", .ofText key,
      .words ", m.event_id, m.score FROM UNNEST(", .ofInts (ms.map (·.id.score)),
      .words "::bigint[], ", .ofInts (ms.map Member.score),
      .words ("::bigint[]) AS m(event_id, score) ON CONFLICT (set_key, event_id) " ++
        "DO UPDATE SET score = EXCLUDED.score")]
  | deleteMembers key events =>
    [.words "DELETE FROM event_set_members WHERE set_key = ", .ofText key,
      .words " AND event_id = ANY(", .ofInts (events.map EventId.score), .words ")"]
  | isEmpty key =>
    [.words "SELECT NOT EXISTS (SELECT 1 FROM event_set_members WHERE set_key = ", .ofText key,
      .words ")"]
  | issueId low =>
    [.words "UPDATE event_id_clock SET last_id = GREATEST(", .ofInt low,
      .words ", last_id + 1) WHERE singleton RETURNING last_id"]
  | insertPayload event expiresAt =>
    [.words "INSERT INTO event_payloads (event_id, contents, expire_at, ttl_at) VALUES (",
      .ofInt event.id.score, .words ", ", .ofText event.contents, .words ", ",
      .ofInstant event.expire, .words ", ", .ofInstant expiresAt,
      .words ") ON CONFLICT (event_id) DO NOTHING"]
  | payload event =>
    [.words "SELECT event_id, contents FROM event_payloads WHERE event_id = ", .ofInt event.score,
      .words " AND ttl_at > now()"]
  | deletePayloads => [.words "DELETE FROM event_payloads WHERE ttl_at <= now()"]
  | probe => [.words "SELECT 1"]
  | migration step => [.words step.text]

/-- The text of a statement. -/
def text (s : Statement) : String := Piece.text s.pieces

/-- The parameters of a statement. -/
def parameters (s : Statement) : List Parameter := Piece.parameters s.pieces

end Statement

end GroupQueue.Sql
