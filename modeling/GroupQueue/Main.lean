import GroupQueue.Command.Run
import Std.Time.DateTime.Timestamp

/-!
# `GroupQueue.Main` — the program

The program hands its command line, its environment and a reading of the clock to `Command.run` and prints
what comes back. It has no way to reach a database, so that every command ends when it tries to connect.
-/

namespace GroupQueue

/-- The variables that the program reads. -/
def settingNames : List String :=
  ["DATABASE_URL", "POOL_SIZE", "SCOREQ_NAMESPACE", "PAYLOAD_GRACE_SECS", "SWEEP_INTERVAL_SECS",
    "OTEL_ENDPOINT", "LOG_LEVEL", "RUST_LOG", "PGHOST", "PGHOSTADDR", "PGPORT"]

end GroupQueue

open GroupQueue

/-- Run the program on the words of its command line. -/
def main (words : List String) : IO UInt32 := do
  let entries ← settingNames.filterMapM fun name => do
    return (← IO.getEnv name).map (name, ·)
  let clock ← Std.Time.Timestamp.now
  let now : Instant := ⟨clock.toNanosecondsSinceUnixEpoch.val, false⟩
  let host : Command.Host := { environment := ⟨entries⟩, now }
  let (report, _) := (Command.run host words).run {}
  IO.print report.output
  for complaint in report.complaints do
    IO.eprintln complaint
  return UInt32.ofNat report.exitCode
