import GroupQueue.Command.Reading
import GroupQueue.Record
import GroupQueue.Settings
import GroupQueue.Sql.Session
import GroupQueue.Telemetry.Setup

/-!
# `GroupQueue.Command.Run` — a run of the program

A run reads the command line and the settings, sets up logging, connects to the database, brings it up
to date, and then does what the command line asks for. The first of these that fails ends the run.

## Contents
- `Ending` — how a command ends.
- `Command.perform` — what a command does, as a conversation with the database.
- `Host` — what a run finds around it.
- `Report` — what a run leaves behind.
- `start` — everything before the database is needed; `run` — a whole run.
-/

namespace GroupQueue

open Sql (SqlDialogue SqlOperation)

namespace Command

/-! ## Commands -/

/-- How a command ends. -/
inductive Ending where
  | finished (output : String)
  | failed (message : String)
  /-- A point in time was out of range, and the program stopped where it was. -/
  | aborted
deriving DecidableEq, Repr

/-- The point in time `seconds` from now, if it is in range. -/
def fromNow? (now : Instant) (seconds : Int) : Option Instant :=
  now.shift? (seconds * 1000000000)

/-- The ending of an operation whose result is shown by `shown`. -/
def ending {α : Type} (shown : α → Ending) (operation : Operation α) : SqlDialogue Ending := do
  match ← Sql.converse operation.run with
  | .ok a => return shown a
  | .error failure => return .failed failure.message

/-- A line of output. -/
def line (s : String) : Ending := .finished (s ++ "\n")

/-- What a command does. `rounds` is the number of rounds of the sweeper after which it is told to
    stop. -/
def perform (settings : Settings) (now : Instant) (rounds : Nat) (client : String) :
    Command → SqlDialogue Ending
  | .add queue contents expireIn =>
    match fromNow? now expireIn with
    | none => return .aborted
    | some expire =>
      ending (fun id => line (toString id))
        (settings.queue.add now { queue, expire, contents, client })
  | .get queue group ackWithin =>
    match ackWithin.map (fromNow? now) with
    | some none => return .aborted
    | deadline =>
      let shown := fun (event : Option Event) =>
        line ((event.map Event.indentedJson).getD "No events available.")
      ending shown (settings.queue.get now { queue, group, deadline := deadline.join, client })
  | .ack queue group event =>
    let shown := fun (inTime : Bool) =>
      if inTime then line ("Acknowledged " ++ toString event)
      else .failed ("deadline missed for " ++ toString event ++ "; it may be redelivered")
    ending shown (settings.queue.ack now { queue, group, event, client })
  | .sweep queue group =>
    let shown := fun ((report, payloads) : SweepReport × Nat) =>
      line ("requeued: " ++ toString report.requeued ++ "  purged: " ++ toString report.purged ++
        "  payloads purged: " ++ toString payloads)
    ending shown do
      let report ← settings.queue.sweep now queue group
      let payloads : Nat ← ask .purgePayloads
      return (report, payloads)
  | .len queue role group =>
    match Role.read role with
    | .error failure => return .failed failure.message
    | .ok role =>
      ending (fun n => line (toString n)) (settings.queue.len now queue role group)
  | .serve targets =>
    ending (fun () => .finished "")
      (ExceptT.lift (settings.queue.run now targets settings.sweepInterval rounds))

/-! ## Runs -/

/-- What a run finds around it. -/
structure Host where
  environment : Environment := {}
  now : Instant
  /-- The address at which the scripted server listens. -/
  serverAddress : Option String := none
  /-- The message with which the server turns connections down. -/
  refusal : Option String := none
  /-- The number of rounds of the sweeper after which it is told to stop. -/
  rounds : Nat := 1
deriving Repr

/-- What a run leaves behind. -/
structure Report where
  exitCode : Nat
  output : String := ""
  /-- The messages to whoever started the run. -/
  complaints : List String := []
deriving DecidableEq, Repr

/-- The report of a failure. -/
def Report.ofFailure (message : String) : Report :=
  { exitCode := 1, complaints := ["Error: " ++ message] }

/-- The report of an ending. -/
def Ending.report : Ending → Report
  | finished output => { exitCode := 0, output }
  | failed message => .ofFailure message
  | aborted => { exitCode := 101 }

/-- The report of a command line that is not followed. -/
def UsageFault.report (fault : UsageFault) : Report :=
  match fault with
  | helpWanted _ => { exitCode := 0, output := fault.message }
  | _ => { exitCode := 2, complaints := [fault.message] }

/-- A run that is ready to use the database. -/
structure Ready where
  settings : Settings
  invocation : Invocation
  /-- The messages so far. -/
  complaints : List String
deriving Repr

/-- A report that comes after some messages. -/
def Report.after (complaints : List String) (report : Report) : Report :=
  { report with complaints := complaints ++ report.complaints }

/-- What the environment says of the server, for addresses that leave it open. -/
def Host.fallback (host : Host) : Sql.ServerAddress :=
  let plain : Sql.ServerAddress := {}
  let named? := fun (name : String) => host.environment.get? name
  { host := ((named? "PGHOSTADDR").orElse fun _ => named? "PGHOST").getD plain.host
    port := ((named? "PGPORT").bind fun s => (Text.readNat 65535 s).toOption).getD plain.port }

/-- The server that the settings name. -/
def Host.endpoint (host : Host) (settings : Settings) : Sql.Endpoint where
  address :=
    if host.serverAddress = some settings.databaseUrl then none else some settings.databaseUrl
  fallback := host.fallback
  refusal := host.refusal
  poolSize := settings.poolSize

/-- Do everything that comes before the database is used. -/
def start (host : Host) (words : List String) : Except Report Ready := do
  let invocation ← (read words).mapError UsageFault.report
  let settings ← (Settings.read host.environment).mapError fun fault =>
    Report.ofFailure (Failure.configuration fault).message
  let telemetry := settings.telemetry programName
  let override := host.environment.get? "RUST_LOG"
  let complaints := Telemetry.complaints telemetry override
  let failing := fun (failure : Failure) => (Report.ofFailure failure.message).after complaints
  let _ ← (Telemetry.setUp telemetry override false).mapError failing
  (Sql.connect (host.endpoint settings)).mapError (failing ∘ Failure.database)
  return { settings, invocation, complaints }

/-- Prepare the tables, and do what is asked for if that succeeds. The log of the server starts anew
    in between. -/
def Ready.run (ready : Ready) (host : Host) : StateM Sql.Server Report := do
  let prepared ← Sql.Server.converse Sql.migrate.run
  modify fun server => { server with log := [] }
  match prepared with
  | .error failure => return (Report.ofFailure failure.message).after ready.complaints
  | .ok () =>
    let client := ready.invocation.client.getD ""
    let reached ← Sql.Server.converse
      (ready.invocation.command.perform ready.settings host.now host.rounds client)
    return reached.report.after ready.complaints

/-- A whole run. -/
def run (host : Host) (words : List String) : StateM Sql.Server Report :=
  match start host words with
  | .error report => return report
  | .ok ready => ready.run host

end Command

end GroupQueue
