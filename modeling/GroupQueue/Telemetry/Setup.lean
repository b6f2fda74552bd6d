import GroupQueue.Settings
import GroupQueue.Telemetry.Endpoint
import GroupQueue.Telemetry.Filter

/-!
# `GroupQueue.Telemetry.Setup` — setting up logging and telemetry

Logging is set up once in the life of a program. Its filter comes from an environment variable of its
own, if that holds a filter without faults, and from the settings otherwise. Telemetry is exported if
the settings name an endpoint; an empty one stands for the usual place.

## Contents
- `Logging` — what is set up.
- `Telemetry.filter`, `Telemetry.complaints` — the filter, and what is wrong with its text.
- `Telemetry.setUp` — set up, or say why not.
-/

namespace GroupQueue

/-- Logging and telemetry as they have been set up. -/
structure Logging where
  filter : Filter
  /-- Whether telemetry is exported. -/
  exporting : Bool
deriving DecidableEq, Repr

namespace Telemetry

/-- The filter; `override` is the environment variable. -/
def filter (settings : TelemetrySettings) (override : Option String) : Filter :=
  match override.map Filter.read with
  | some (.ok f) => f
  | _ => Filter.readLeniently settings.logLevel

/-- What there is to complain of in the filter of the settings, if that is the one used. -/
def complaints (settings : TelemetrySettings) (override : Option String) : List String :=
  match override.map Filter.read with
  | some (.ok _) => []
  | _ => Filter.complaints settings.logLevel

/-- The faults of the endpoint of the settings. -/
def checkEndpoint (endpoint : String) : Except Failure Unit :=
  if endpoint.isEmpty then .ok ()
  else (Endpoint.check endpoint).mapError (Failure.exporter endpoint)

/-- Set up logging and telemetry; `installed` says whether that has been done before. -/
def setUp (settings : TelemetrySettings) (override : Option String) (installed : Bool) :
    Except Failure Logging := do
  if let some endpoint := settings.endpoint then checkEndpoint endpoint
  if installed then throw .loggingInstalled
  return ⟨filter settings override, settings.endpoint.isSome⟩

end Telemetry

end GroupQueue
