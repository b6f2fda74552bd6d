/-!
# `GroupQueue.Text.Plain` — text without the control sequences of a terminal

A text for a terminal may contain sequences that move the cursor or change colours. Where the text goes
elsewhere, they are left out, and so are all controls but blanks and line ends. A sequence starts with
the escape character; its next characters tell how it goes on. Whatever starts a new sequence, or
cancels, ends the one before.

A line end inside a sequence is shown, and with it the characters up to the next control; the rest of
the sequence is expected after that.

## Contents
- `ControlState` — where in a sequence a text is.
- `PlainScan`, `PlainScan.step` — what has been shown so far.
- `emphasized` — a text in colour.
- `plain` — what is shown of a text.
-/

namespace GroupQueue.Text

/-- Where in a control sequence a text is. -/
inductive ControlState where
  /-- Outside of all sequences. -/
  | outside
  /-- Behind the escape character. -/
  | escape
  /-- In an escape sequence of more than two characters. -/
  | longEscape
  /-- In a control sequence, which a letter ends. -/
  | control
  /-- In a command to the operating system, which a bell ends. -/
  | command
  /-- In the head of a string for a device. -/
  | deviceHead
  /-- In a string, which the string terminator ends. -/
  | string
deriving DecidableEq, Repr

/-- The blanks and line ends among the controls. -/
def isBlankControl (c : Char) : Bool := c == '\t' || c == '\n' || c == '\x0c' || c == '\r'

/-- Whether `c` is shown outside of all sequences. -/
def isShown (c : Char) : Bool :=
  let n := c.toNat
  (0x20 ≤ n && n ≠ 0x7f) || isBlankControl c

/-- Whether one of the bytes of `c` is the string terminator. -/
def holdsTerminator (c : Char) : Bool :=
  128 ≤ c.toNat && (c.toNat % 64 == 0x1c || c.toNat / 64 % 64 == 0x1c && 0x800 ≤ c.toNat ||
    c.toNat / 4096 % 64 == 0x1c && 0x10000 ≤ c.toNat)

/-- The state that the character behind the escape character leads to. -/
def ControlState.afterEscape (c : Char) : ControlState :=
  let n := c.toNat
  if c = '[' then control
  else if c = ']' then command
  else if c = 'P' then deviceHead
  else if c = 'X' ∨ c = '^' ∨ c = '_' then string
  else if 0x20 ≤ n ∧ n ≤ 0x2f then longEscape
  else if 0x30 ≤ n ∧ n ≤ 0x7e then outside
  else escape

/-- The state after a character that is not shown. -/
def ControlState.next (state : ControlState) (c : Char) : ControlState :=
  let n := c.toNat
  if c = '\x1b' then escape
  else if c = '\x18' ∨ c = '\x1a' then outside
  else
    match state with
    | outside => outside
    | escape => afterEscape c
    | longEscape => if 0x30 ≤ n ∧ n ≤ 0x7e then outside else longEscape
    | control => if 0x40 ≤ n ∧ n ≤ 0x7e then outside else control
    | command => if c = '\x07' then outside else command
    | deviceHead => if 0x40 ≤ n ∧ n ≤ 0x7e then string else deviceHead
    | string => if holdsTerminator c then outside else string

/-- Whether `c` is shown in a state. -/
def ControlState.shows (state : ControlState) (c : Char) : Bool :=
  match state with
  | outside => isShown c
  | escape | longEscape | control => isBlankControl c
  | command | deviceHead | string => false

/-- What has been shown of a text. -/
structure PlainScan where
  state : ControlState := .outside
  /-- The last character was shown. -/
  showing : Bool := false
  /-- The characters that have been shown, the last one first. -/
  shown : List Char := []
deriving DecidableEq, Repr

/-- Take a character. After one that was shown, the next one is as well unless it is a control. -/
def PlainScan.step (scan : PlainScan) (c : Char) : PlainScan :=
  if (if scan.showing then isShown c else scan.state.shows c) then
    let state := if 128 ≤ c.toNat then .outside else scan.state
    { state, showing := true, shown := c :: scan.shown }
  else { scan with state := scan.state.next c, showing := false }

/-- `s` in colour. -/
def emphasized (s : String) : String := "\x1b[33m" ++ s ++ "\x1b[0m"

/-- What is shown of `s` where control sequences mean nothing. -/
def plain (s : String) : String :=
  String.ofList (s.toList.foldl PlainScan.step {}).shown.reverse

end GroupQueue.Text
