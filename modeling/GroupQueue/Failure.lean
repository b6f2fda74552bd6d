import GroupQueue.EventSet
import GroupQueue.Sql.Address
import GroupQueue.Text.Quoted

/-!
# `GroupQueue.Failure` — why an operation fails

Every failure is a cause with what is needed to word it. The causes fall into seven kinds; a kind
has its own lead in the wording, and the last one has none.

## Contents
- `Rejection` — a command that is refused before any store is asked.
- `PlanFault` — a plan that names a set outside its namespace.
- `DatabaseFault`, `MigrationFault` — what a database server reports.
- `SettingFault` — a setting that is missing or cannot be read.
- `EndpointFault` — a telemetry endpoint that is no address.
- `Failure`, `Failure.message` — all of them, with their wording.
-/

namespace GroupQueue

open Text (quoted NumeralFault)

/-- Why a command is refused. -/
inductive Rejection where
  /-- A name that has to be given is blank. -/
  | missing (field : String)
  /-- A name contains the separator of set keys. -/
  | separator (field : String)
  /-- A sweep target does not consist of a queue and a group. -/
  | target (given : String)
  /-- A reason in words. -/
  | stated (reason : String)
deriving DecidableEq, Repr

/-- The wording of a rejection. -/
def Rejection.message : Rejection → String
  | .missing field => field ++ " is required"
  | .separator field => field ++ " must not contain ':'"
  | .target given => "sweep target must look like queue/group, got " ++ quoted given
  | .stated reason => reason

/-- Why a plan is not executed. -/
inductive PlanFault where
  /-- The plan names a set of another namespace than its own. -/
  | strayBase (set : EventSet) (base : String)
  /-- A reason in words. -/
  | stated (reason : String)
deriving DecidableEq, Repr

/-- The wording of a plan's fault. -/
def PlanFault.message : PlanFault → String
  | .strayBase set base => "event set " ++ set.key ++ " is outside plan base " ++ quoted base
  | .stated reason => reason

/-- Why a database does not answer as wanted. -/
inductive DatabaseFault where
  /-- The server reports an error. -/
  | reported (message : String)
  /-- A row was wanted and none came. -/
  | noRow
  /-- A column of a row is not of the wanted type. -/
  | badColumn (index : Nat)
  /-- The address of the server is wrong. -/
  | address (fault : Sql.AddressFault)
  /-- The socket of the server cannot be reached. -/
  | socket (fault : Sql.SocketFault)
  /-- The pool gave no connection in time. -/
  | poolTimeout
deriving DecidableEq, Repr

/-- The wording of a database's fault. -/
def DatabaseFault.message : DatabaseFault → String
  | .reported message => "error returned from database: " ++ message
  | .noRow => "no rows returned by a query that expected to return at least one row"
  | .badColumn index =>
    "error occurred while decoding column " ++ toString index ++
      ": unexpected null; try decoding as an `Option`"
  | .address fault => "error with configuration: " ++ fault.message
  | .socket fault => "error communicating with database: " ++ fault.message
  | .poolTimeout => "pool timed out while waiting for an open connection"

/-- Why a migration fails. -/
inductive MigrationFault where
  /-- The script of a version fails. -/
  | script (version : Nat) (fault : DatabaseFault)
  /-- A statement around the script fails. -/
  | around (fault : DatabaseFault)
  /-- A reason in words. -/
  | stated (reason : String)
deriving DecidableEq, Repr

/-- The wording of a migration's fault. -/
def MigrationFault.message : MigrationFault → String
  | .script version fault =>
    "while executing migration " ++ toString version ++ ": " ++ fault.message
  | .around fault => "while executing migrations: " ++ fault.message
  | .stated reason => reason

/-- Why the settings cannot be used. -/
inductive SettingFault where
  /-- A setting without default is not set. -/
  | missing (name : String)
  /-- A setting that has to be a number is none. -/
  | invalid (name value : String) (fault : NumeralFault)
  /-- A reason in words. -/
  | stated (reason : String)
deriving DecidableEq, Repr

/-- The wording of a setting's fault. -/
def SettingFault.message : SettingFault → String
  | .missing name => "required environment variable " ++ name ++ " is not set"
  | .invalid name value fault =>
    name ++ "=" ++ quoted value ++ " is invalid: " ++ fault.message
  | .stated reason => reason

/-- Why a text is no telemetry endpoint. -/
inductive EndpointFault where
  | empty
  | tooLong
  | invalidCharacter
  | invalidAuthority
  | invalidFormat
  | schemeTooLong
deriving DecidableEq, Repr

/-- The wording of an endpoint's fault. -/
def EndpointFault.message : EndpointFault → String
  | .empty => "empty string"
  | .tooLong => "uri too long"
  | .invalidCharacter => "invalid uri character"
  | .invalidAuthority => "invalid authority"
  | .invalidFormat => "invalid format"
  | .schemeTooLong => "scheme too long"

/-- Why an operation fails. -/
inductive Failure where
  /-- The command is refused. -/
  | validation (reason : Rejection)
  /-- The plan is refused. -/
  | invalidPlan (fault : PlanFault)
  /-- An event was taken whose contents are gone from the store. -/
  | payloadMissing (event : EventId)
  | database (fault : DatabaseFault)
  | migration (fault : MigrationFault)
  | configuration (fault : SettingFault)
  /-- A text names no role. -/
  | unknownRole (name : String)
  /-- Telemetry cannot be sent to the endpoint. -/
  | exporter (endpoint : String) (fault : EndpointFault)
  /-- Logging has been set up before. -/
  | loggingInstalled
  /-- The store was told to fail this call. -/
  | injected (call : String)
  /-- Any other reason, in words. -/
  | other (reason : String)
deriving DecidableEq, Repr

/-- The wording of a failure. -/
def Failure.message : Failure → String
  | .validation reason => "validation failed: " ++ reason.message
  | .invalidPlan fault => "invalid plan: " ++ fault.message
  | .payloadMissing event => "payload missing for event " ++ toString event
  | .database fault => "database error: " ++ fault.message
  | .migration fault => "migration failed: " ++ fault.message
  | .configuration fault => "configuration error: " ++ fault.message
  | .unknownRole name => "unknown event set role: " ++ name
  | .exporter endpoint fault =>
    "failed to create OTLP span exporter: invalid URI " ++ endpoint ++ ". Reason " ++ fault.message
  | .loggingInstalled =>
    "failed to init tracing subscriber: a global default trace dispatcher has already been set"
  | .injected call => "injected failure in " ++ call
  | .other reason => reason

/-- The role that a text names. -/
def Role.read (s : String) : Except Failure Role :=
  match Role.ofName? s with
  | some role => .ok role
  | none => .error (.unknownRole s)

end GroupQueue
