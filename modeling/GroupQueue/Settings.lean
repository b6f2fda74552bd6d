import GroupQueue.Failure
import GroupQueue.Queue.Basic
import GroupQueue.Text.Blank

/-!
# `GroupQueue.Settings` — the settings of the program

Settings come from environment variables. The address of the database has to be set; all others have
defaults. Numbers may have blanks around them. The settings are read in a fixed order, and the first
one that cannot be used is reported.

## Contents
- `Environment`, `Environment.get?` — the variables.
- `Settings`, `Settings.read` — the settings.
- `Settings.shown` — the settings as debug output, without the address of the database.
- `TelemetrySettings`, `Settings.telemetry` — the part that logging and telemetry need.
-/

namespace GroupQueue

open Text (quoted readNat maxHalf maxNatural)

/-- The environment variables that are set to readable text. -/
structure Environment where
  entries : List (String × String) := []
deriving DecidableEq, Repr

/-- The value of a variable. -/
def Environment.get? (env : Environment) (name : String) : Option String := env.entries.lookup name

/-- The settings. -/
structure Settings where
  databaseUrl : String
  /-- The greatest number of connections to the database. -/
  poolSize : Nat := 10
  /-- The namespace of all event sets. -/
  base : String := ({} : Queue).base
  /-- How long a payload outlives its event. -/
  payloadGrace : Span := ({} : Queue).grace
  /-- The time between two rounds of the sweeper. -/
  sweepInterval : Span := .ofSeconds 5
  /-- Where telemetry is sent, if anywhere. -/
  telemetryEndpoint : Option String := none
  logLevel : String := "info"
deriving DecidableEq, Repr

namespace Settings

/-- A variable that has to be set. -/
def required (env : Environment) (name : String) : Except SettingFault String :=
  match env.get? name with
  | some value => .ok value
  | none => .error (.missing name)

/-- A variable that holds a number up to `hi`. -/
def number (env : Environment) (name : String) (hi default : Nat) : Except SettingFault Nat :=
  match env.get? name with
  | none => .ok default
  | some value =>
    match readNat hi (Text.trim value) with
    | .ok n => .ok n
    | .error fault => .error (.invalid name value fault)

/-- The settings that the environment holds. -/
def read (env : Environment) : Except SettingFault Settings := do
  let databaseUrl ← required env "DATABASE_URL"
  let default : Settings := { databaseUrl }
  let poolSize ← number env "POOL_SIZE" maxHalf default.poolSize
  let grace ← number env "PAYLOAD_GRACE_SECS" maxNatural default.payloadGrace.seconds
  let interval ← number env "SWEEP_INTERVAL_SECS" maxNatural default.sweepInterval.seconds
  return { databaseUrl, poolSize
           base := (env.get? "SCOREQ_NAMESPACE").getD default.base
           payloadGrace := .ofSeconds grace
           sweepInterval := .ofSeconds interval
           telemetryEndpoint := env.get? "OTEL_ENDPOINT"
           logLevel := (env.get? "LOG_LEVEL").getD default.logLevel }

/-- The queue service that the settings describe. -/
def queue (s : Settings) : Queue := ⟨s.base, s.payloadGrace⟩

/-- A whole number of seconds as debug output. -/
def shownSeconds (d : Span) : String :=
  if d.seconds = 0 then "0ns" else toString d.seconds ++ "s"

/-- The settings as debug output. The address of the database, which may hold a password, is left
    out. -/
def shown (s : Settings) : String :=
  let endpoint := (s.telemetryEndpoint.map fun e => "Some(" ++ quoted e ++ ")").getD "None"
  "Config \x7b database_url: SecretBox<str>([REDACTED]), pool_size: " ++ toString s.poolSize ++
    ", namespace: " ++ quoted s.base ++ ", payload_grace: " ++ shownSeconds s.payloadGrace ++
    ", sweep_interval: " ++ shownSeconds s.sweepInterval ++ ", otel_endpoint: " ++ endpoint ++
    ", log_level: " ++ quoted s.logLevel ++ " \x7d"

end Settings

/-- What logging and telemetry need to know. -/
structure TelemetrySettings where
  /-- Where telemetry is sent, if anywhere. -/
  endpoint : Option String := none
  /-- The name under which the program reports. -/
  service : String := "scoreq"
  logLevel : String := "info"
deriving DecidableEq, Repr

/-- The part of the settings that logging and telemetry need. -/
def Settings.telemetry (s : Settings) (service : String) : TelemetrySettings :=
  ⟨s.telemetryEndpoint, service, s.logLevel⟩

end GroupQueue
