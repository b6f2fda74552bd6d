import GroupQueue.Command.Help
import GroupQueue.Text.Plain

/-!
# `GroupQueue.Command.Reading` — reading the command line

The words of a command line are read from left to right. The value of a parameter is checked when the
next parameter comes or the line ends; an unknown word is reported at once. After the word `--`, every
word is an argument.

## Contents
- `UsageFault`, `UsageFault.styled`, `UsageFault.message` — why a line is not followed.
- `Scan` — what is known after some words, with `settle` and `step`.
- `Command`, `Command.ofMatches` — what the line asks for.
- `Command.read` — a whole line.
-/

namespace GroupQueue.Command

open Text (emphasized plain)

/-! ## Faults -/

/-- Why a command line is not followed. -/
inductive UsageFault where
  /-- The line asks for help. -/
  | helpWanted (topic : Topic)
  /-- The line is empty. -/
  | nothingGiven
  | missingVerb
  | unknownVerb (word : String)
  | unexpectedWord (word : String)
  /-- A value is given to a flag that takes none. -/
  | unexpectedValue (value flag : String)
  | repeated (parameter : String)
  | missingValue (parameter : String)
  | invalidValue (value parameter reason : String)
  | missingParameters
deriving DecidableEq, Repr

/-- The wording of a fault for a terminal, with the faulty word in colour; for help, the help text. -/
def UsageFault.styled : UsageFault → String
  | helpWanted topic => topic.text
  | nothingGiven => Topic.text .program
  | missingVerb =>
    "error: '" ++ programName ++ "' requires a subcommand but one was not provided"
  | unknownVerb word => "error: unrecognized subcommand '" ++ emphasized word ++ "'"
  | unexpectedWord word => "error: unexpected argument '" ++ emphasized word ++ "' found"
  | unexpectedValue value flag =>
    "error: unexpected value '" ++ emphasized value ++ "' for '" ++ flag ++
      "' found; no more were expected"
  | repeated parameter =>
    "error: the argument '" ++ parameter ++ "' cannot be used multiple times"
  | missingValue parameter =>
    "error: a value is required for '" ++ parameter ++ "' but none was supplied"
  | invalidValue value parameter reason =>
    "error: invalid value '" ++ emphasized value ++ "' for '" ++ parameter ++ "': " ++ reason
  | missingParameters => "error: the following required arguments were not provided:"

/-- The wording of a fault. It is not written to a terminal, and a word of the line cannot smuggle
    control sequences into it. -/
def UsageFault.message (fault : UsageFault) : String := plain fault.styled

/-! ## Scanning -/

/-- Values by the names of their parameters, in the order of the line. -/
abbrev Matches := List (String × Value)

/-- What is known after some words. -/
structure Scan where
  found : Matches := []
  /-- The parameter whose value has not been checked, with the value if that has come. -/
  pending : Option (Parameter × Option String) := none
  /-- The number of arguments so far. -/
  arguments : Nat := 0
  /-- The word `--` has come. -/
  argumentsOnly : Bool := false
deriving Repr

namespace Scan

/-- Whether the next word has to be the value of an option. -/
def awaitsValue (scan : Scan) : Bool :=
  match scan.pending with
  | some (_, none) => true
  | _ => false

/-- Check the value that is pending, and keep it. -/
def settle (scan : Scan) : Except UsageFault Scan :=
  match scan.pending with
  | none => .ok scan
  | some (p, none) => .error (.missingValue p.shown)
  | some (p, some s) =>
    if !p.isRepeatable && scan.found.any (·.1 == p.name) then .error (.repeated p.shown)
    else
      match p.kind.read s with
      | .ok value => .ok { scan with found := scan.found ++ [(p.name, value)], pending := none }
      | .error reason => .error (.invalidValue s p.shown reason)

/-- Take a word that starts with two dashes; `word` is the rest of it. -/
def long (form : Form) (topic : Topic) (scan : Scan) (word : List Char) : Except UsageFault Scan :=
  let name := String.ofList (word.takeWhile (· != '='))
  let value? :=
    if word.contains '=' then some (String.ofList ((word.dropWhile (· != '=')).drop 1)) else none
  if name = "help" then
    match value? with
    | some value => .error (.unexpectedValue value "--help")
    | none => do
      let _ ← scan.settle
      throw (.helpWanted topic)
  else
    match form.options.find? (·.name == name) with
    | none => .error (.unexpectedWord ("--" ++ name))
    | some p => do
      let scan ← scan.settle
      let scan := { scan with pending := some (p, value?) }
      if value?.isSome then scan.settle else return scan

/-- Take a word that starts with one dash; `c` is the next character. -/
def short (topic : Topic) (scan : Scan) (c : Char) : Except UsageFault Scan :=
  if c = 'h' then do
    let _ ← scan.settle
    throw (.helpWanted topic)
  else .error (.unexpectedWord ("-" ++ String.singleton c))

/-- Take a word that is an argument. `surplus` is the fault of one too many. -/
def positional (form : Form) (surplus : String → UsageFault) (scan : Scan) (word : String) :
    Except UsageFault Scan :=
  match form.arguments[scan.arguments]? with
  | none => .error (surplus word)
  | some p => do
    let scan ← scan.settle
    return { scan with pending := some (p, some word), arguments := scan.arguments + 1 }

/-- Take a word. -/
def step (form : Form) (topic : Topic) (surplus : String → UsageFault) (scan : Scan)
    (word : String) : Except UsageFault Scan :=
  if scan.argumentsOnly then scan.positional form surplus word
  else
    match word.toList with
    | ['-', '-'] => .ok { scan with argumentsOnly := true }
    | '-' :: '-' :: rest => scan.long form topic rest
    | '-' :: c :: _ => scan.short topic c
    | _ =>
      match scan.pending with
      | some (p, none) => .ok { scan with pending := some (p, some word) }
      | _ => scan.positional form surplus word

end Scan

/-! ## Commands -/

end Command

/-- What a command line asks for. -/
inductive Command where
  /-- Put an event into a queue, to expire after a number of seconds. -/
  | add (queue contents : String) (expireIn : Int)
  /-- Take the next event, to be acknowledged within a number of seconds if one is given. -/
  | get (queue group : String) (ackWithin : Option Int)
  | ack (queue group : String) (event : EventId)
  | sweep (queue group : String)
  | len (queue role group : String)
  | serve (targets : List SweepTarget)
deriving DecidableEq, Repr

namespace Command

namespace Matches

/-- The text of a parameter. -/
def text? (found : Matches) (name : String) : Option String :=
  found.findSome? fun
    | (n, .text s) => if n == name then some s else none
    | _ => none

/-- The integer of a parameter. -/
def integer? (found : Matches) (name : String) : Option Int :=
  found.findSome? fun
    | (n, .integer i) => if n == name then some i else none
    | _ => none

/-- The event of a parameter. -/
def event? (found : Matches) (name : String) : Option EventId :=
  found.findSome? fun
    | (n, .event id) => if n == name then some id else none
    | _ => none

/-- The targets of a parameter. -/
def targets (found : Matches) (name : String) : List SweepTarget :=
  found.filterMap fun
    | (n, .target t) => if n == name then some t else none
    | _ => none

/-- Add the values of the options that have one by default and were not given. -/
def withDefaults (found : Matches) (form : Form) : Matches :=
  found ++ form.options.filterMap fun p => do
    if found.any (·.1 == p.name) then none
    else
      let value ← (p.kind.read (← p.default)).toOption
      return (p.name, value)

end Matches

/-- The command that some values make up, unless one is missing. -/
def ofMatches (found : Matches) : Verb → Option Command
  | .add => do
    return .add (← found.text? "queue") (← found.text? "contents") (← found.integer? "expire-in")
  | .get => do
    return .get (← found.text? "queue") (← found.text? "group") (found.integer? "ack-within")
  | .ack => do
    return .ack (← found.text? "queue") (← found.text? "group") (← found.event? "id")
  | .sweep => do return .sweep (← found.text? "queue") (← found.text? "group")
  | .len => do
    return .len (← found.text? "queue") (← found.text? "role") (← found.text? "group")
  | .serve =>
    match found.targets "target" with
    | [] => none
    | targets => some (.serve targets)

/-- A command, and who gives it. -/
structure Invocation where
  client : Option String
  command : Command
deriving DecidableEq, Repr

/-- Read the words after a verb. -/
def readVerb (verb : Verb) (words : List String) : Except UsageFault (Matches × Command) := do
  let form := verb.form
  let scan ← words.foldlM (Scan.step form (.verb verb) .unexpectedWord) {}
  let found := (← scan.settle).found
  match ofMatches (found.withDefaults form) verb with
  | some command => return (found, command)
  | none => throw .missingParameters

/-- The subject that the words after `help` name. -/
def readTopic : List String → Except UsageFault Topic
  | [] => .ok .program
  | word :: rest => do
    let topic ←
      if word = "help" then pure Topic.help
      else
        match Verb.ofName? word with
        | some verb => pure (Topic.verb verb)
        | none => throw (.unknownVerb word)
    match rest with
    | [] => return topic
    | extra :: _ => throw (.unknownVerb extra)

/-- Whether a word would be taken for a verb. -/
def isVerb (word : String) : Bool := word == "help" || (Verb.ofName? word).isSome

/-- The fault of a word that is neither a verb nor an option; after `--`, a verb is out of place. -/
def surplusBeforeVerb (argumentsOnly : Bool) (word : String) : UsageFault :=
  if argumentsOnly && isVerb word then .unexpectedWord word else .unknownVerb word

/-- Read the words from some point before the verb on. -/
def readFrom (scan : Scan) : List String → Except UsageFault Invocation
  | [] => do
    let scan ← scan.settle
    throw (if scan.found.isEmpty then .nothingGiven else .missingVerb)
  | word :: rest =>
    if !scan.argumentsOnly && !scan.awaitsValue && isVerb word then
      match Verb.ofName? word with
      | none => do throw (.helpWanted (← readTopic rest))
      | some verb => do
        let (found, command) ← readVerb verb rest
        let before := (← scan.settle).found
        let client := (Matches.text? found "client").orElse fun _ => Matches.text? before "client"
        return { client, command }
    else do
      let surplus := surplusBeforeVerb scan.argumentsOnly
      readFrom (← scan.step globalForm .program surplus word) rest

/-- Read a command line. -/
def read (words : List String) : Except UsageFault Invocation := readFrom {} words

end Command

end GroupQueue
