import GroupQueue.Command.Form

/-!
# `GroupQueue.Command.Help` — help texts

A help text says what a verb does, how to use it, and what its parameters mean. Parameters stand in two
columns, the first one as wide as its longest entry.

## Contents
- `columns` — lines of two columns.
- `Topic`, `Topic.text` — the subjects of help, and their texts.
-/

namespace GroupQueue.Command

/-- Lines of two columns, indented by two. -/
def columns (entries : List (String × String)) : String :=
  let width := ((entries.map (·.1.length)).max?).getD 0
  let line := fun ((left, right) : String × String) =>
    "  " ++ left ++ String.ofList (List.replicate (width - left.length) ' ') ++ "  " ++ right ++ "\n"
  String.join (entries.map line)

/-- A headed block of lines of two columns; nothing if there are no lines. -/
def block (head : String) (entries : List (String × String)) : String :=
  if entries.isEmpty then "" else "\n" ++ head ++ ":\n" ++ columns entries

/-- What there is to know of a parameter. -/
def Parameter.explanation (p : Parameter) : String :=
  let default := p.default.map fun value =>
    "[default: " ++ (if value.isEmpty then "\"\"" else value) ++ "]"
  String.intercalate " " (([p.help] ++ default.toList).filter (· != ""))

/-- The lines of some options; the one for help comes last. -/
def optionEntries (options : List Parameter) : List (String × String) :=
  options.map (fun p => ("    " ++ p.shown, p.explanation)) ++ [("-h, --help", "Print help")]

/-- A subject of help. -/
inductive Topic where
  | program
  | verb (verb : Verb)
  /-- Help itself. -/
  | help
deriving DecidableEq, Repr

/-- What help does. -/
def helpAbout : String := "Print this message or the help of the given subcommand(s)"

/-- The first lines of a help text. -/
def opening (about usage : String) : String :=
  about ++ "\n\nUsage: " ++ programName ++ " " ++ usage ++ "\n"

/-- The help text on a subject. -/
def Topic.text : Topic → String
  | program =>
    opening globalForm.about "[OPTIONS] <COMMAND>" ++
      block "Commands" (Verb.all.map (fun v => (v.name, v.form.about)) ++ [("help", helpAbout)]) ++
      block "Options" (optionEntries globalForm.options)
  | verb v =>
    let form := v.form
    let needed := (form.options.filter (·.isRequired)) ++ form.arguments
    opening form.about
        (String.intercalate " " ([v.name, "[OPTIONS]"] ++ needed.map Parameter.shown)) ++
      block "Arguments" (form.arguments.map fun p => (p.shown, p.explanation)) ++
      block "Options" (optionEntries form.options)
  | help =>
    opening helpAbout "help [COMMAND]..." ++
      block "Arguments" [("[COMMAND]...", "Print help for the subcommand(s)")]

end GroupQueue.Command
