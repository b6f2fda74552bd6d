import GroupQueue.Notice
import GroupQueue.Telemetry.Pattern
import GroupQueue.Text.Numeral

/-!
# `GroupQueue.Telemetry.Directive` — a single rule of a log filter

A directive gives a level to the notices of a target, or to all of them; a target without level gets
them all. Behind the target, in brackets, a directive may name a span and, between braces, a field of
it, with a value if that matters. A directive about a certain span, or about the value of a field, has
no say outside of such spans.

## Contents
- `LevelBound`, `LevelBound.read?` — the least important level that is logged, from text.
- `FieldTest`, `FieldTest.read` — a field that a span or notice has to have.
- `Directive`, `DirectiveFault`, `Directive.read` — a directive, from text.
- `Directive.isStatic`, `Directive.covers` — where it has a say.
- `Directive.outranks` — which of two directives is tried first.
-/

namespace GroupQueue

/-- The least important level that is logged; `none` means that nothing is. -/
abbrev LevelBound := Option Level

/-- The name of a bound. -/
def LevelBound.name (bound : LevelBound) : String := (bound.map Level.name).getD "OFF"

/-- Read a bound: a number from 0 for nothing to 5 for everything, or a name in any case. The empty text
    stands for errors alone. -/
def LevelBound.read? (s : String) : Option LevelBound :=
  match Text.readNat Text.maxNatural s with
  | .ok 0 => some none
  | .ok n => if n ≤ 5 then some Level.all[n - 1]? else none
  | .error _ =>
    if s.isEmpty then some (some .error)
    else if s.toLower = "off" then some none
    else (Level.all.find? fun level => level.name.toLower == s.toLower).map some

/-! ## Faults -/

/-- What is wrong with a directive. -/
inductive DirectiveFault where
  | malformed
  /-- The level is none. -/
  | level
  /-- The value of a field is no pattern. -/
  | pattern (fault : PatternFault)
deriving DecidableEq, Repr

/-- The wording of a fault. -/
def DirectiveFault.message : DirectiveFault → String
  | .malformed => "invalid filter directive"
  | .level =>
    "error parsing level filter: expected one of \"off\", \"error\", \"warn\", \"info\", \"debug\", " ++
      "\"trace\", or a number 0-5"
  | .pattern fault => "invalid field filter: " ++ fault.message

/-! ## Fields -/

/-- A field that a span or notice has to have. -/
structure FieldTest where
  name : String
  /-- The number, truth value or pattern that the field has to match. -/
  value : Option String := none
deriving DecidableEq, Repr

namespace FieldTest

/-- Whether a text without its sign is a decimal number. -/
def isDecimal (cs : List Char) : Bool :=
  let word := (String.ofList cs).toLower
  let whole := cs.takeWhile Char.isDigit
  let afterWhole := cs.dropWhile Char.isDigit
  let fraction :=
    if afterWhole.head? = some '.' then (afterWhole.drop 1).takeWhile Char.isDigit else []
  let afterFraction :=
    if afterWhole.head? = some '.' then (afterWhole.drop 1).dropWhile Char.isDigit else afterWhole
  let exponent :=
    match afterFraction with
    | [] => true
    | e :: digits =>
      let digits := if digits.head? = some '+' ∨ digits.head? = some '-' then digits.drop 1 else digits
      (e == 'e' || e == 'E') && !digits.isEmpty && digits.all Char.isDigit
  word == "inf" || word == "infinity" || word == "nan" ||
    (!(whole ++ fraction).isEmpty && exponent)

/-- The faults of a value. Truth values, and numbers without plus sign, are patterns as well. -/
def checkValue : List Char → Except PatternFault Unit
  | '+' :: cs => if isDecimal cs then .ok () else .error .malformed
  | cs => checkPattern cs

/-- Read a test: a name, with the value between the first two equals signs if there are any. -/
def read (cs : List Char) : Except DirectiveFault FieldTest :=
  match cs.splitOn '=' with
  | name :: value :: _ => do
    (checkValue value).mapError .pattern
    return { name := String.ofList name, value := some (String.ofList value) }
  | _ => if cs.isEmpty then .error .malformed else .ok { name := String.ofList cs }

end FieldTest

/-! ## Directives -/

/-- A directive. -/
structure Directive where
  /-- The front of the targets that it covers; `none` covers all. -/
  target : Option String := none
  /-- The name of the span that it is about, if it is about one. -/
  span : Option String := none
  fields : List FieldTest := []
  bound : LevelBound := some .trace
deriving DecidableEq, Repr

namespace Directive

/-! ### Reading -/

/-- Whether a target or level may start with `c`. -/
def mayStart (c : Char) : Bool :=
  Text.isAlphanumeric c || c == '-' || c == ':' || c == '_'

/-- Give a directive the level that the text after the equals sign names. -/
def withLevel (d : Directive) (level : List Char) : Except DirectiveFault Directive :=
  if level.isEmpty then .ok d
  else
    match LevelBound.read? (String.ofList level) with
    | some bound => .ok { d with bound }
    | none => .error .level

/-- A directive without equals sign or span: a level, or else a target. -/
def ofWord (word : List Char) : Directive :=
  match LevelBound.read? (String.ofList word) with
  | some bound => { bound }
  | none => { target := some (String.ofList word) }

/-- The number of bytes of some characters. -/
def byteLength (cs : List Char) : Nat := (String.ofList cs).utf8ByteSize

/-- What is left of a text after its first `n` bytes. -/
def dropBytes : Nat → List Char → List Char
  | _, [] => []
  | 0, cs => cs
  | n + 1, c :: cs => dropBytes (n + 1 - c.utf8Size) cs

/-- The first `n` bytes of a text. -/
def takeBytes : Nat → List Char → List Char
  | _, [] => []
  | 0, _ => []
  | n + 1, c :: cs => c :: takeBytes (n + 1 - c.utf8Size) cs

/-- A text that is read: its marks are looked for without the blanks around it, but its parts are cut
    out of the text as it stands, at the same positions. -/
structure Source where
  whole : List Char
  marks : List Char
deriving DecidableEq, Repr

namespace Source

/-- The part of the text at the positions of `marks.drop start`, up to index `stop`. -/
def part (source : Source) (start stop : Nat) : List Char :=
  let first := byteLength (source.marks.take start)
  takeBytes (byteLength (source.marks.take stop) - first) (dropBytes first source.whole)

/-- The rest of the text from the position of index `start` on. -/
def rest (source : Source) (start : Nat) : List Char :=
  dropBytes (byteLength (source.marks.take start)) source.whole

/-- The index of the first of `stops` from `start` on, and which one it is. -/
def findStop (source : Source) (stops : List Char) (start : Nat) : Nat × Option Char :=
  let i := start + ((source.marks.drop start).takeWhile (!stops.contains ·)).length
  (i, source.marks[i]?)

end Source

/-- Go on after the bracket that closes a span: an equals sign and a level, or nothing. -/
def readAfterSpan (source : Source) (d : Directive) (i : Nat) : Except DirectiveFault Directive :=
  match source.marks[i]? with
  | none => .ok d
  | some '=' => d.withLevel (source.rest (i + 1))
  | some _ => .error .malformed

/-- Go on after the bracket that opens a span: a name, and possibly a field between braces. -/
def readSpan (source : Source) (target : Option String) (start : Nat) :
    Except DirectiveFault Directive :=
  match source.findStop [']', '\x7b'] start with
  | (i, some ']') =>
    readAfterSpan source { target, span := some (String.ofList (source.part start i)) } (i + 1)
  | (i, some _) =>
    match source.findStop ['\x7d'] (i + 1) with
    | (j, some _) => do
      let name := source.part start i
      let fields ← ((source.part (i + 1) j).splitOn ',').mapM FieldTest.read
      let span := if name.isEmpty then none else some (String.ofList name)
      if source.marks[j + 1]? = some ']' then
        readAfterSpan source { target, span, fields } (j + 2)
      else throw .malformed
    | (_, none) => .error .malformed
  | (_, none) => .error .malformed

/-- Read a directive. -/
def read (s : String) : Except DirectiveFault Directive :=
  let source : Source := ⟨s.toList, (Text.trim s).toList⟩
  match source.marks with
  | [] => .error .malformed
  | '[' :: _ => readSpan source none 1
  | c :: _ =>
    if mayStart c then
      match source.findStop ['=', '['] 0 with
      | (_, none) => .ok (ofWord source.whole)
      | (i, some '=') =>
        withLevel { target := some (String.ofList (source.part 0 i)) } (source.rest (i + 1))
      | (i, some _) => readSpan source (some (String.ofList (source.part 0 i))) (i + 1)
    else .error .malformed

/-! ### Meaning -/

/-- Whether a directive has a say outside of spans. -/
def isStatic (d : Directive) : Bool := d.span.isNone && d.fields.all (·.value.isNone)

/-- Whether the targets that a directive covers include `target`. -/
def covers (d : Directive) (target : String) : Bool :=
  d.target.all (·.toList.isPrefixOf target.toList)

/-- How specific a directive is in its target. -/
def targetRank (d : Directive) : Nat := (d.target.map (·.utf8ByteSize + 1)).getD 0

/-- The names of the fields of a directive. -/
def fieldNames (d : Directive) : List String := d.fields.map (·.name)

/-- Whether `d` is tried before `e`, of two static directives that cover one target: the longer target
    comes first, then more fields, then the greater names. -/
def outranks (d e : Directive) : Bool :=
  e.targetRank < d.targetRank ||
    (d.targetRank == e.targetRank &&
      (e.fields.length < d.fields.length ||
        (d.fields.length == e.fields.length &&
          List.lex e.fieldNames d.fieldNames fun a b => decide (a < b))))

end Directive

end GroupQueue
