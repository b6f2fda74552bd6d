import GroupQueue.Command.Run
import Mathlib.Data.List.Basic

/-!
# `Proofs.Command.Times` — which numbers of seconds end a run

The commands that add and get events take a number of seconds from now. Any machine word is read as one, but only
points in time between `Instant.earliest` and `Instant.latest` are in range. The store that keeps payloads clamps an
instant beyond that range, and a run has messages for what else can fail; here it stops where it is
(`aborted_by_longest`). This is the only reason for a run to stop so, and by then the database has only been
prepared. Clock readings are taken outside of leap seconds, as a system clock has no others.

## Contents
- `Command.seconds?`, `Command.later` — the seconds that a command is given, and the instant they stand for.
- `Command.Reaches`, `Command.fromNow?_eq`, `Command.not_reaches` — when that instant is in range.
- `Command.perform_of_outOfRange`, `Command.perform_of_reaches`, `Command.perform_ne_aborted` — what a command does.
- `Command.Ready.run_eq`, `Command.aborted_iff_out_of_range` — what a whole run does.
-/

namespace GroupQueue

namespace Command

/-! ## Points in time -/

/-- The seconds from now that a command is given. -/
def seconds? : Command → Option Int
  | add _ _ expireIn => some expireIn
  | get _ _ ackWithin => ackWithin
  | _ => none

/-- The point in time `seconds` after a clock reading, in range or not. -/
def later (now : Instant) (seconds : Int) : Instant := ⟨now.nanos + seconds * 1000000000, false⟩

/-- The point in time `seconds` after a clock reading is in range. -/
def Reaches (now : Instant) (seconds : Int) : Prop :=
  Instant.earliest ≤ later now seconds ∧ later now seconds ≤ Instant.latest

instance (now : Instant) (seconds : Int) : Decidable (Reaches now seconds) :=
  inferInstanceAs (Decidable (_ ∧ _))

variable {now : Instant} {seconds : Int}

/-- The range is one of whole seconds. -/
theorem inRange?_later :
    (later now seconds).inRange? = if Reaches now seconds then some (later now seconds) else none := by
  have hrange : Instant.earliest.wholeSeconds ≤ (later now seconds).wholeSeconds
      ∧ (later now seconds).wholeSeconds ≤ Instant.latest.wholeSeconds ↔ Reaches now seconds := by
    simp only [Reaches, later, Instant.wholeSeconds, Instant.le_def, Instant.earliest, Instant.latest,
      Instant.minScore, Instant.maxScore, Bool.false_eq_true, if_false]
    omega
  simp only [Instant.inRange?, hrange]

theorem fromNow?_eq (hclock : now.leap = false) :
    fromNow? now seconds = if Reaches now seconds then some (later now seconds) else none := by
  rw [fromNow?, Instant.shift?, Instant.plus_of_not_leap hclock]
  exact inRange?_later

/-- From no clock reading does the range go on for as many seconds as there are milliseconds in a word. -/
theorem not_reaches (hfirst : Instant.earliest ≤ now) (hlast : now ≤ Instant.latest)
    (hlong : Text.maxWord < seconds.natAbs * 1000) : ¬ Reaches now seconds := by
  simp only [Reaches, later, Instant.le_def, Instant.earliest, Instant.latest, Instant.minScore,
    Instant.maxScore, Text.maxWord] at *
  omega

/-! ## Commands -/

variable {settings : Settings} {rounds : Nat} {client : String} {command : Command}

/-- To hold a sequence of conversations is to hold them one after the other. -/
theorem converse_bind {α β : Type} (dialogue : Sql.SqlDialogue α) (f : α → Sql.SqlDialogue β) :
    Sql.Server.converse (dialogue >>= f)
      = Sql.Server.converse dialogue >>= fun a => Sql.Server.converse (f a) :=
  Dialogue.interpret_bind (I := Sql.Statement.interface) Sql.Server.answer dialogue f

/-- An operation that is carried out has an ending to show, or fails. -/
theorem ending_ne_aborted {α : Type} {shown : α → Ending} (hshown : ∀ a, shown a ≠ .aborted)
    (operation : Operation α) (server : Sql.Server) :
    ((Sql.Server.converse (ending shown operation)).run server).1 ≠ .aborted := by
  rw [ending, converse_bind, StateT.run_bind]
  obtain ⟨reply, after⟩ := (Sql.Server.converse (Sql.converse operation.run)).run server
  cases reply with
  | ok a => exact hshown a
  | error failure => exact Ending.noConfusion

/-- A command whose point in time is out of range asks the database for nothing. -/
theorem perform_of_outOfRange (hclock : now.leap = false) (hseconds : command.seconds? = some seconds)
    (hout : ¬ Reaches now seconds) :
    command.perform settings now rounds client = pure .aborted := by
  have hnone : fromNow? now seconds = none := by rw [fromNow?_eq hclock, if_neg hout]
  cases command with
  | add queue contents expireIn =>
      obtain rfl : expireIn = seconds := Option.some.inj hseconds
      rw [perform, hnone]
  | get queue group ackWithin =>
      obtain rfl : ackWithin = some seconds := hseconds
      rw [perform, Option.map_some, hnone]
  | _ => contradiction

/-- A command whose point in time is in range hands it to the queue as it is. -/
theorem perform_of_reaches (hclock : now.leap = false) (hin : Reaches now seconds) (queue : String) :
    (∀ contents, ∃ shown : EventId → Ending, (∀ id, shown id ≠ .aborted)
        ∧ (add queue contents seconds).perform settings now rounds client
          = ending shown (settings.queue.add now { queue, expire := later now seconds, contents, client }))
      ∧ ∀ group, ∃ shown : Option Event → Ending, (∀ event, shown event ≠ .aborted)
        ∧ (get queue group (some seconds)).perform settings now rounds client
          = ending shown
              (settings.queue.get now { queue, group, deadline := some (later now seconds), client }) := by
  have hsome : fromNow? now seconds = some (later now seconds) := by rw [fromNow?_eq hclock, if_pos hin]
  constructor
  · intro contents
    refine ⟨fun id => line (toString id), fun _ => Ending.noConfusion, ?_⟩
    rw [perform, hsome]
  · intro group
    refine ⟨fun event => line ((event.map Event.indentedJson).getD "No events available."),
      fun _ => Ending.noConfusion, ?_⟩
    rw [perform, Option.map_some, hsome]
    rfl

/-- Any other command is carried out. -/
theorem perform_ne_aborted (hclock : now.leap = false)
    (hin : ∀ seconds, command.seconds? = some seconds → Reaches now seconds) (server : Sql.Server) :
    ((Sql.Server.converse (command.perform settings now rounds client)).run server).1 ≠ .aborted := by
  cases command with
  | add queue contents expireIn =>
      obtain ⟨shown, hshown, hperform⟩ := (perform_of_reaches hclock (hin expireIn rfl) queue).1 contents
      rw [hperform]
      exact ending_ne_aborted hshown _ _
  | get queue group ackWithin =>
      cases ackWithin with
      | none => exact ending_ne_aborted (fun _ => Ending.noConfusion) _ _
      | some seconds =>
          obtain ⟨shown, hshown, hperform⟩ := (perform_of_reaches hclock (hin seconds rfl) queue).2 group
          rw [hperform]
          exact ending_ne_aborted hshown _ _
  | ack queue group event =>
      refine ending_ne_aborted (fun inTime => ?_) _ _
      cases inTime <;> exact Ending.noConfusion
  | sweep queue group => exact ending_ne_aborted (fun _ => Ending.noConfusion) _ _
  | len queue role group =>
      rw [perform]
      cases Role.read role with
      | error failure => exact Ending.noConfusion
      | ok role => exact ending_ne_aborted (fun _ => Ending.noConfusion) _ _
  | serve targets => exact ending_ne_aborted (fun _ => Ending.noConfusion) _ _

/-! ## Runs -/

/-- Only an ending in the middle is reported in this way. -/
theorem exitCode_report {ending : Ending} : ending.report.exitCode = 101 ↔ ending = .aborted := by
  cases ending <;> simp [Ending.report, Report.ofFailure]

/-- A failure of the first step, as it is reported, or of what comes after it. -/
theorem of_mapError_bind {ε δ α β : Type} {x : Except ε α} {shown : ε → δ} {f : α → Except δ β} {failure : δ}
    (h : x.mapError shown >>= f = .error failure) :
    (∃ fault, shown fault = failure) ∨ ∃ a, f a = .error failure := by
  cases x with
  | error fault => exact .inl ⟨fault, Except.error.inj h⟩
  | ok a => exact .inr ⟨a, h⟩

/-- A run that does not get to the database is reported in another way. -/
theorem exitCode_of_start {host : Host} {words : List String} {report : Report}
    (h : start host words = .error report) : report.exitCode ≠ 101 := by
  unfold start at h
  obtain ⟨fault, rfl⟩ | ⟨invocation, h⟩ := of_mapError_bind h
  · cases fault <;> simp [UsageFault.report]
  obtain ⟨fault, rfl⟩ | ⟨settings, h⟩ := of_mapError_bind h
  · simp [Report.ofFailure]
  obtain ⟨failure, rfl⟩ | ⟨logging, h⟩ := of_mapError_bind h
  · simp [Report.after, Report.ofFailure]
  obtain ⟨failure, rfl⟩ | ⟨-, h⟩ := of_mapError_bind h
  · simp [Report.after, Report.ofFailure]
  · cases h

variable {ready : Ready} {host : Host} {server : Sql.Server}

/-- What the command of a run that is ready asks the database. -/
def Ready.conversation (ready : Ready) (host : Host) : Sql.SqlDialogue Ending :=
  ready.invocation.command.perform ready.settings host.now host.rounds (ready.invocation.client.getD "")

/-- Prepare the database before anything else is asked. -/
def prepared (server : Sql.Server) : Except Failure Unit × Sql.Server :=
  let (result, readied) := (Sql.Server.converse Sql.migrate.run).run server
  (result, { readied with log := [] })

theorem Ready.run_eq : (ready.run host).run server
    = match prepared server with
      | (.error failure, readied) => ((Report.ofFailure failure.message).after ready.complaints, readied)
      | (.ok (), readied) =>
        let (ending, after) := (Sql.Server.converse (ready.conversation host)).run readied
        (ending.report.after ready.complaints, after) := by
  rw [prepared, Ready.run, StateT.run_bind]
  cases (Sql.Server.converse Sql.migrate.run).run server with
  | mk result readied => cases result <;> rfl

/-- A run that is ready stops where it is if the database is prepared and the point in time is out of range. It
    leaves the database as it was prepared. -/
theorem exitCode_of_ready (hclock : host.now.leap = false) :
    let outcome := (ready.run host).run server
    (outcome.1.exitCode = 101 ↔ (prepared server).1 = .ok ()
        ∧ ∃ seconds, ready.invocation.command.seconds? = some seconds ∧ ¬ Reaches host.now seconds)
      ∧ (outcome.1.exitCode = 101 → outcome.2 = (prepared server).2) := by
  rw [Ready.run_eq]
  obtain ⟨failure | ⟨⟩, readied⟩ := prepared server
  · simp [Report.after, Report.ofFailure]
  by_cases hout : ∃ seconds, ready.invocation.command.seconds? = some seconds ∧ ¬ Reaches host.now seconds
  · obtain ⟨seconds, hseconds, hfar⟩ := hout
    rw [Ready.conversation, perform_of_outOfRange hclock hseconds hfar]
    exact ⟨⟨fun _ => ⟨rfl, seconds, hseconds, hfar⟩, fun _ => rfl⟩, fun _ => rfl⟩
  · have hgoes : ((Sql.Server.converse (ready.conversation host)).run readied).1 ≠ .aborted :=
      perform_ne_aborted hclock
        (fun seconds hseconds => not_not.mp fun hfar => hout ⟨seconds, hseconds, hfar⟩) readied
    have hreport := mt exitCode_report.mp hgoes
    exact ⟨⟨fun h => absurd h hreport, fun h => absurd h.2 hout⟩, fun h => absurd h hreport⟩

/-- The same of any run: it has got as far as to be ready. -/
theorem exitCode_of_run (hclock : host.now.leap = false) (words : List String) :
    let outcome := (run host words).run server
    (outcome.1.exitCode = 101 ↔ ∃ ready seconds, start host words = .ok ready ∧ (prepared server).1 = .ok ()
        ∧ ready.invocation.command.seconds? = some seconds ∧ ¬ Reaches host.now seconds)
      ∧ (outcome.1.exitCode = 101 → outcome.2 = (prepared server).2) := by
  rw [run]
  cases h : start host words with
  | error report =>
      have hreport : report.exitCode ≠ 101 := exitCode_of_start h
      exact ⟨⟨fun hstops => absurd hstops hreport, by simp⟩, fun hstops => absurd hstops hreport⟩
  | ok ready =>
      obtain ⟨hstops, hleaves⟩ := @exitCode_of_ready ready host server hclock
      refine ⟨hstops.trans ⟨?_, ?_⟩, hleaves⟩
      · rintro ⟨hprepared, seconds, hseconds, hfar⟩
        exact ⟨ready, seconds, rfl, hprepared, hseconds, hfar⟩
      · rintro ⟨_, seconds, hready, hprepared, hseconds, hfar⟩
        cases hready
        exact ⟨hprepared, seconds, hseconds, hfar⟩

/-- **A run stops where it is if and only if its point in time is out of range**: it has got as far as to prepare the
    database, its command has a number of seconds, and the clock reading that many seconds later is not between
    `Instant.earliest` and `Instant.latest`. Nothing but the preparation has been asked of the database then. A point
    in time that is in range is handed to the queue as it is. But from no clock reading in range is every machine
    word such a number of seconds. -/
theorem aborted_iff_out_of_range (host : Host) (hclock : host.now.leap = false) (words : List String)
    (server : Sql.Server) :
    let outcome := (run host words).run server
    (outcome.1.exitCode = 101 ↔ ∃ ready seconds, start host words = .ok ready ∧ (prepared server).1 = .ok ()
        ∧ ready.invocation.command.seconds? = some seconds ∧ ¬ Reaches host.now seconds)
    ∧ (outcome.1.exitCode = 101 → outcome.2 = (prepared server).2)
    ∧ (∀ settings rounds client queue seconds, Reaches host.now seconds →
        (∀ contents, ∃ shown : EventId → Ending, (∀ id, shown id ≠ .aborted)
          ∧ (add queue contents seconds).perform settings host.now rounds client
            = ending shown
                (settings.queue.add host.now { queue, expire := later host.now seconds, contents, client }))
        ∧ ∀ group, ∃ shown : Option Event → Ending, (∀ event, shown event ≠ .aborted)
          ∧ (get queue group (some seconds)).perform settings host.now rounds client
            = ending shown (settings.queue.get host.now
                { queue, group, deadline := some (later host.now seconds), client }))
    ∧ (Instant.earliest ≤ host.now → host.now ≤ Instant.latest →
        ∀ seconds : Int, Text.maxWord < seconds.natAbs * 1000 → ¬ Reaches host.now seconds) := by
  obtain ⟨hstops, hleaves⟩ := @exitCode_of_run host server hclock words
  exact ⟨hstops, hleaves, fun _ _ _ queue _ hin => perform_of_reaches hclock hin queue,
    fun hfirst hlast _ hlong => not_reaches hfirst hlast hlong⟩

/-- The last second in range is handed on, and the next one is where a run stops. -/
theorem aborted_iff_out_of_range_next :
    let address := "postgres://localhost/db"
    let environment : Environment := ⟨[("DATABASE_URL", address)]⟩
    let now : Instant := .ofMicros 1700000000000000
    let host : Host := { environment, now, serverAddress := some address }
    let last := ["add", "q", "x", "--expire-in=8208566876799"]
    let next := ["add", "q", "x", "--expire-in=8208566876800"]
    host.now.leap = false
      ∧ ((run host last).run {}).1.exitCode ≠ 101 ∧ ((run host next).run {}).1.exitCode = 101 := by
  intro address environment now host last next
  have hclock : host.now.leap = false := rfl
  have hin : Reaches host.now 8208566876799 := by decide
  have hout : ¬ Reaches host.now 8208566876800 := by decide
  have hprepared : (prepared {}).1 = .ok () := by decide +kernel
  obtain ⟨ready, hready, hlast⟩ : ∃ ready, start host last = .ok ready
      ∧ ready.invocation.command.seconds? = some 8208566876799 := ⟨_, rfl, rfl⟩
  obtain ⟨nextReady, hnextReady, hnext⟩ : ∃ ready, start host next = .ok ready
      ∧ ready.invocation.command.seconds? = some 8208566876800 := ⟨_, rfl, rfl⟩
  obtain ⟨hstops, -⟩ := aborted_iff_out_of_range host hclock last {}
  obtain ⟨hnextStops, -⟩ := aborted_iff_out_of_range host hclock next {}
  refine ⟨hclock, fun h => ?_, hnextStops.mpr ⟨nextReady, _, hnextReady, hprepared, hnext, hout⟩⟩
  obtain ⟨other, seconds, hother, -, hseconds, hfar⟩ := hstops.mp h
  obtain rfl : ready = other := Except.ok.inj (hready.symm.trans hother)
  obtain rfl : 8208566876799 = seconds := Option.some.inj (hlast.symm.trans hseconds)
  exact hfar hin

/-- **Seconds that are accepted may end a run**: the greatest ones that are read. -/
theorem aborted_by_longest :
    let address := "postgres://localhost/db"
    let environment : Environment := ⟨[("DATABASE_URL", address)]⟩
    let now : Instant := .ofMicros 1700000000000000
    let host : Host := { environment, now, serverAddress := some address }
    let words := ["add", "q", "x", "--expire-in", "9223372036854775807"]
    read words = .ok { client := none, command := .add "q" "x" Text.maxWord }
      ∧ ((run host words).run {}).1 = { exitCode := 101 } := by
  decide +kernel

end Command

end GroupQueue
