import GroupQueue.Event
import GroupQueue.Queue.Name

/-!
# `GroupQueue.Command.Form` — what the command line may say

The program does one thing a run, named by a verb. A verb has arguments, which are told apart by their
places, and options, which are told apart by their names and may stand anywhere after the verb. The
option `--client` may stand before the verb as well.

## Contents
- `Value`, `ValueKind`, `ValueKind.read` — the values of parameters.
- `Parameter` — an argument or an option.
- `Form` — what may follow a verb, or stand before one.
- `Verb`, `Verb.form` — the verbs; `globalForm` is for the part before the verb.
-/

namespace GroupQueue.Command

/-! ## Values -/

/-- The value of a parameter. -/
inductive Value where
  | text (s : String)
  | integer (n : Int)
  | event (id : EventId)
  | target (t : SweepTarget)
deriving DecidableEq, Repr

/-- What a parameter stands for. -/
inductive ValueKind where
  | text
  | integer
  | event
  | target
deriving DecidableEq, Repr

/-- Read a value, or word what is wrong with its text. -/
def ValueKind.read (kind : ValueKind) (s : String) : Except String Value :=
  match kind with
  | text => .ok (.text s)
  | integer =>
    match Text.readInt Text.minWord Text.maxWord s with
    | .ok n => .ok (.integer n)
    | .error fault => .error fault.message
  | event =>
    match EventId.read s with
    | .ok id => .ok (.event id)
    | .error fault => .error fault.message
  | target =>
    match SweepTarget.read s with
    | .ok t => .ok (.target t)
    | .error reason => .error (Failure.validation reason).message

/-! ## Parameters -/

/-- An argument or an option. -/
structure Parameter where
  /-- The name; an option is given by it. -/
  name : String
  /-- What stands for the value in help texts. -/
  placeholder : String
  isOption : Bool := false
  kind : ValueKind := .text
  help : String := ""
  /-- The text of the value that is used if none is given. -/
  default : Option String := none
  /-- The option may be given more than once. -/
  isRepeatable : Bool := false
  isRequired : Bool := false
deriving DecidableEq, Repr

/-- The parameter as it is named in help texts and complaints. -/
def Parameter.shown (p : Parameter) : String :=
  let value := "<" ++ p.placeholder ++ ">"
  if p.isOption then "--" ++ p.name ++ " " ++ value else value

/-- An argument. -/
def argument (name placeholder : String) (help : String := "") (kind : ValueKind := .text) :
    Parameter :=
  { name, placeholder, help, kind, isRequired := true }

/-- The name of whoever asks. -/
def clientOption : Parameter where
  name := "client"
  placeholder := "CLIENT"
  isOption := true
  help := "Client ID recorded with each operation (defaults to a random one)"

/-- What may follow a verb, or stand before one. -/
structure Form where
  about : String
  arguments : List Parameter := []
  options : List Parameter
deriving DecidableEq, Repr

/-! ## Verbs -/

/-- The name of the program. -/
def programName : String := "scoreq"

/-- What may stand before a verb. -/
def globalForm : Form where
  about := "Consumer-group work queue over Postgres"
  options := [clientOption]

/-- What the program can do. -/
inductive Verb where
  | add
  | get
  | ack
  | sweep
  | len
  | serve
deriving DecidableEq, Repr

namespace Verb

/-- All verbs, in the order of the help text. -/
def all : List Verb := [add, get, ack, sweep, len, serve]

/-- The name of a verb. -/
def name : Verb → String
  | add => "add"
  | get => "get"
  | ack => "ack"
  | sweep => "sweep"
  | len => "len"
  | serve => "serve"

/-- The verb with a given name. -/
def ofName? (s : String) : Option Verb := all.find? fun verb => verb.name == s

/-- What may follow a verb. -/
def form : Verb → Form
  | add => {
      about := "Add an event to a queue"
      arguments := [argument "queue" "QUEUE", argument "contents" "CONTENTS" "Payload"]
      options := [clientOption, {
        name := "expire-in"
        placeholder := "EXPIRE_IN"
        isOption := true
        kind := .integer
        help := "Seconds until the event expires"
        default := some "3600" }] }
  | get => {
      about := "Take the next event for a consumer group"
      arguments := [argument "queue" "QUEUE", argument "group" "GROUP"]
      options := [clientOption, {
        name := "ack-within"
        placeholder := "ACK_WITHIN"
        isOption := true
        kind := .integer
        help := "Seconds the consumer has to ack; omit to mark the event done at once" }] }
  | ack => {
      about := "Acknowledge an event taken with --ack-within"
      arguments := [argument "queue" "QUEUE", argument "group" "GROUP",
        argument "id" "ID" "Event ID printed by `get`" .event]
      options := [clientOption] }
  | sweep => {
      about := "Requeue missed deadlines and purge expired events once"
      arguments := [argument "queue" "QUEUE", argument "group" "GROUP"]
      options := [clientOption] }
  | len => {
      about := "Count live members of an event set"
      arguments := [argument "queue" "QUEUE"]
      options := [clientOption, {
        name := "role"
        placeholder := "ROLE"
        isOption := true
        help := "available | inprog_id | inprog_ack | redo | done"
        default := some "available" }, {
        name := "group"
        placeholder := "GROUP"
        isOption := true
        default := some "" }] }
  | serve => {
      about := "Run the background sweeper until Ctrl-C"
      options := [clientOption, {
        name := "target"
        placeholder := "TARGETS"
        isOption := true
        kind := .target
        help := "Targets as queue/group; repeatable"
        isRepeatable := true
        isRequired := true }] }

end Verb

end GroupQueue.Command
