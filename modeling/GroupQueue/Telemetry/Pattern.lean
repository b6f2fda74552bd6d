import GroupQueue.Text.Alphanumeric
import GroupQueue.Text.Blank

/-!
# `GroupQueue.Telemetry.Pattern` — patterns for the values of fields

A pattern is a regular expression. Only whether it is one is decided here: groups and classes have to
be closed, a repetition needs something to repeat, an escape has to mean something, and a range of
characters must not run backwards. A pattern stands where neither a closing brace nor a comma can
come, so an opening brace outside of a class is never closed and always a fault.

The scan goes through the pattern once, and takes one or more characters with every step.

## Contents
- `PatternFault` — what is wrong with a pattern.
- `PatternMode` — the settings that groups can change.
- `Escape`, `Escape.read` — what a backslash introduces.
- `PatternScan`, `PatternScan.step` — how far a scan has come, and its next step.
- `checkPattern` — the fault of a pattern, if it has one.
-/

namespace GroupQueue

open Text (isAlphanumeric isBlank)

/-- What is wrong with a pattern. -/
inductive PatternFault where
  | malformed
  /-- The pattern asks where a word begins or ends, and words may have letters beyond ASCII. -/
  | wordBoundary
deriving DecidableEq, Repr

/-- The wording of a fault. -/
def PatternFault.message : PatternFault → String
  | .malformed => "error building NFA"
  | .wordBoundary =>
    "unsupported regex feature for DFAs: cannot build DFAs for regexes with Unicode word boundaries; " ++
      "switch to ASCII word boundaries, or heuristically enable Unicode word boundaries or use a " ++
      "different regex engine"

/-- The settings that a group can change. -/
structure PatternMode where
  /-- Blanks, and comments from `#` to the end of the line, do not count. -/
  spaced : Bool := false
  /-- The pattern is about characters, and not about bytes. -/
  unicode : Bool := true
deriving DecidableEq, Repr

/-! ## Escapes -/

/-- What a backslash introduces. -/
inductive Escape where
  /-- A single character. -/
  | literal (c : Char)
  /-- A class of characters. -/
  | classOf
  /-- A place in the text; `ofWord` if it is about words. -/
  | place (ofWord : Bool)
deriving DecidableEq, Repr

namespace Escape

/-- The value of a hexadecimal digit. -/
def hexDigit? (c : Char) : Option Nat :=
  if c.isDigit then some (c.toNat - '0'.toNat)
  else if 'a' ≤ c ∧ c ≤ 'f' then some (c.toNat - 'a'.toNat + 10)
  else if 'A' ≤ c ∧ c ≤ 'F' then some (c.toNat - 'A'.toNat + 10)
  else none

/-- The character with a code point of exactly `count` hexadecimal digits. -/
def hexChar? (count : Nat) (cs : List Char) : Option Char := do
  let digits ← (cs.take count).mapM hexDigit?
  let n := digits.foldl (fun n d => n * 16 + d) 0
  if digits.length = count ∧ n.isValidChar then some (Char.ofNat n) else none

/-- The general categories with a name of one letter. -/
def isCategory (c : Char) : Bool := "clmnpsz".toList.contains c.toLower

/-- Whether `c` stands for itself after a backslash. -/
def isSelf (c : Char) : Bool :=
  c.toNat < 128 && !c.isAlphanum && c != '<' && c != '>'

/-- Read what follows a backslash, together with the number of characters that belong to it. -/
def read (mode : PatternMode) : List Char → Option (Escape × Nat)
  | [] => none
  | c :: cs =>
    if c = 'x' then do
      let x ← hexChar? 2 cs
      if mode.unicode || x.toNat < 128 then some (literal x, 3) else none
    else if c = 'u' then (hexChar? 4 cs).map (literal ·, 5)
    else if c = 'U' then (hexChar? 8 cs).map (literal ·, 9)
    else if c = 'p' ∨ c = 'P' then
      if mode.unicode && cs.head?.any isCategory then some (classOf, 2) else none
    else if c = 'd' ∨ c = 's' ∨ c = 'w' then some (classOf, 1)
    else if c = 'D' ∨ c = 'S' ∨ c = 'W' then if mode.unicode then some (classOf, 1) else none
    else if c = 'A' ∨ c = 'z' then some (place false, 1)
    else if c = 'b' ∨ c = 'B' ∨ c = '<' ∨ c = '>' then some (place true, 1)
    else if c = 'a' ∨ c = 'f' ∨ c = 't' ∨ c = 'n' ∨ c = 'r' ∨ c = 'v' then
      let controls := [('a', 7), ('t', 9), ('n', 10), ('v', 11), ('f', 12), ('r', 13)]
      (controls.lookup c).map fun n => (literal (Char.ofNat n), 1)
    else if isSelf c then some (literal c, 1)
    else none

end Escape

/-! ## Scanning -/

/-- How far a scan has come. -/
structure PatternScan where
  mode : PatternMode := {}
  /-- The mode outside of each open group, the innermost group first. -/
  groups : List PatternMode := []
  /-- The number of open classes. -/
  classes : Nat := 0
  /-- The last thing can be repeated. -/
  repeatable : Bool := false
  /-- The names of groups so far. -/
  names : List (List Char) := []
  /-- The pattern asks for the boundaries of words with letters beyond ASCII. -/
  boundary : Bool := false
deriving DecidableEq, Repr

namespace PatternScan

/-- The scan after a step, and the number of further characters that the step takes. -/
abbrev Step := Option (PatternScan × Nat)

/-- Something that can be repeated has come. -/
def atom (scan : PatternScan) : PatternScan := { scan with repeatable := true }

/-- The number of characters of a comment that has begun, with the end of its line. -/
def commentLength (rest : List Char) : Nat := (rest.takeWhile (· != '\n')).length + 1

/-! ### Groups -/

/-- Open a group. -/
def openGroup (scan : PatternScan) (mode : PatternMode) : PatternScan :=
  { scan with groups := scan.mode :: scan.groups, mode, repeatable := false }

/-- Whether `c` may stand in the name of a group; `first` if in front. -/
def isNameChar (first : Bool) (c : Char) : Bool :=
  c == '_' || (if first then isAlphanumeric c && !c.isDigit
    else isAlphanumeric c || c == '.' || c == '[' || c == ']')

/-- Whether a text can be the name of a group. -/
def isName : List Char → Bool
  | [] => false
  | c :: cs => isNameChar true c && cs.all (isNameChar false)

/-- Open a group with a name; `skipped` characters come before the name. -/
def namedGroup (scan : PatternScan) (skipped : Nat) (rest : List Char) : Step :=
  let name := rest.takeWhile (· != '>')
  if name.length < rest.length && isName name && !scan.names.contains name then
    some ({ scan.openGroup scan.mode with names := name :: scan.names }, skipped + name.length + 1)
  else none

/-- The mode after some settings: those before a minus sign are set, those after it are not. -/
def withSettings (mode : PatternMode) (settings : List Char) : PatternMode :=
  let on := settings.takeWhile (· != '-')
  let value := fun (c : Char) (old : Bool) => if settings.contains c then on.contains c else old
  { spaced := value 'x' mode.spaced, unicode := value 'u' mode.unicode }

/-- Whether some characters are settings: no two alike, at most one minus sign, and that not at the
    end. -/
def areSettings (settings : List Char) : Bool :=
  settings.all "imsUuRx-".toList.contains && settings.eraseDups.length == settings.length &&
    settings.getLast? != some '-'

/-- Change settings, for a group or up to the end of the one that is open; `rest` follows the
    question mark. -/
def settingsGroup (scan : PatternScan) (rest : List Char) : Step :=
  let settings := rest.takeWhile fun c => c != ':' && c != ')'
  let mode := withSettings scan.mode settings
  if !areSettings settings then none
  else
    match rest[settings.length]? with
    | some ':' => some (scan.openGroup mode, settings.length + 2)
    | some _ =>
      if settings.isEmpty then none
      else some ({ scan with mode, repeatable := false }, settings.length + 2)
    | none => none

/-- Take an opening parenthesis. -/
def stepGroup (scan : PatternScan) (rest : List Char) : Step :=
  match rest with
  | '?' :: 'P' :: '<' :: rest => scan.namedGroup 3 rest
  | '?' :: '<' :: rest => scan.namedGroup 2 rest
  | '?' :: rest => scan.settingsGroup rest
  | _ => some (scan.openGroup scan.mode, 0)

/-! ### Classes -/

/-- The names of the classes that are written between colons. -/
def classNames : List String :=
  ["alnum", "alpha", "ascii", "blank", "cntrl", "digit", "graph", "lower", "print", "punct", "space",
    "upper", "word", "xdigit"]

/-- The length of the name of a class between colons, with its brackets but for the first one. -/
def namedClassLength? (rest : List Char) : Option Nat :=
  classNames.findSome? fun name =>
    [":" ++ name ++ ":]", ":^" ++ name ++ ":]"].findSome? fun shown =>
      if shown.toList.isPrefixOf rest then some shown.length else none

/-- Open a class. A closing bracket in front, and minus signs in front, stand for themselves. -/
def openClass (scan : PatternScan) (rest : List Char) : Step :=
  let negated := rest.head? = some '^'
  let body := if negated then rest.drop 1 else rest
  let dashes := (body.takeWhile (· == '-')).length
  let bracket := dashes = 0 ∧ body.head? = some ']'
  if negated ∧ !scan.mode.unicode then none
  else
    some ({ scan with classes := scan.classes + 1 },
      dashes + (if negated then 1 else 0) + (if bracket then 1 else 0))

/-- Read a member of a class: a character, or `none` for a class; with the number of its characters. -/
def member? (mode : PatternMode) : List Char → Option (Option Char × Nat)
  | [] => none
  | '\\' :: cs =>
    match Escape.read mode cs with
    | some (.literal c, n) => some (some c, n + 1)
    | some (.classOf, n) => some (none, n + 1)
    | _ => none
  | c :: _ => if mode.unicode || c.toNat < 128 then some (some c, 1) else none

/-- Take a member of a class, or a range of characters. -/
def stepMember (scan : PatternScan) (cs : List Char) : Step := do
  let (start, n) ← member? scan.mode cs
  match cs.drop n with
  | '-' :: rest =>
    if rest.head? = some ']' ∨ rest.head? = some '-' then return (scan, n - 1)
    else
      let (stop, m) ← member? scan.mode rest
      let first ← start
      let last ← stop
      if first ≤ last then return (scan, n + m) else none
  | _ => return (scan, n - 1)

/-- Take the next character inside a class. -/
def stepClass (scan : PatternScan) (c : Char) (rest : List Char) : Step :=
  if c = ']' then
    some ({ scan with classes := scan.classes - 1, repeatable := true }, 0)
  else if c = '[' then
    match namedClassLength? rest with
    | some n => some (scan, n)
    | none => scan.openClass rest
  else if (c = '&' ∨ c = '-' ∨ c = '~') ∧ rest.head? = some c then some (scan, 1)
  else scan.stepMember (c :: rest)

/-! ### Steps -/

/-- Take the next character outside of classes. -/
def stepOutside (scan : PatternScan) (c : Char) (rest : List Char) : Step :=
  if c = '(' then scan.stepGroup rest
  else if c = ')' then
    match scan.groups with
    | [] => none
    | mode :: groups => some ({ scan with mode, groups, repeatable := true }, 0)
  else if c = '|' then some ({ scan with repeatable := false }, 0)
  else if c = '[' then scan.openClass rest
  else if c = '?' ∨ c = '*' ∨ c = '+' then
    if scan.repeatable then some (scan, if rest.head? = some '?' then 1 else 0) else none
  else if c = '\x7b' then none
  else if c = '\\' then
    match Escape.read scan.mode rest with
    | some (.place ofWord, n) =>
      some ({ scan.atom with boundary := scan.boundary || (ofWord && scan.mode.unicode) }, n)
    | some (_, n) => some (scan.atom, n)
    | none => none
  else if c = '.' ∧ !scan.mode.unicode then none
  else some (scan.atom, 0)

/-- Take the next character, with those that belong to it. -/
def step (scan : PatternScan) (c : Char) (rest : List Char) : Step :=
  if scan.mode.spaced ∧ isBlank c then some (scan, 0)
  else if scan.mode.spaced ∧ c = '#' then some (scan, commentLength rest)
  else if scan.classes = 0 then scan.stepOutside c rest
  else scan.stepClass c rest

/-- Take all characters. -/
def run (scan : PatternScan) : List Char → Option PatternScan
  | [] => some scan
  | c :: rest =>
    match scan.step c rest with
    | none => none
    | some (scan, taken) => run scan (rest.drop taken)
termination_by cs => cs.length
decreasing_by
  simp only [List.length_drop, List.length_cons]
  omega

end PatternScan

/-- The faults of a pattern. -/
def checkPattern (cs : List Char) : Except PatternFault Unit :=
  match PatternScan.run {} cs with
  | none => .error .malformed
  | some scan =>
    if !scan.groups.isEmpty || scan.classes ≠ 0 then .error .malformed
    else if scan.boundary then .error .wordBoundary
    else .ok ()

end GroupQueue
