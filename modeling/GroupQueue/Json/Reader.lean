import GroupQueue.Text.Numeral

/-!
# `GroupQueue.Json.Reader` — reading JSON text into values of a known type

A reader takes characters from the front of a text and knows the type it wants, so the first fault
met from left to right is the one reported. It is of one of three kinds: the text is not JSON, the
text ends too early, or the text is JSON of another type than the wanted one.

## Contents
- `Fault`, `Reader` and the small readers `blanks`, `word`.
- Texts: `textBody` decodes escapes, surrogate pairs included; `skipText` only checks them.
- Numbers: `number` tells integers that fit a machine word from all others, and refuses those too
  large for a double; `skipNumber` only checks the form.
- `skipValue` — pass over a value of any type.
- `mismatch` — the fault of a value whose type is not the wanted one.
- `readInteger`, `readText`, `readNull`, `readOption` — scalars.
- `RecordField`, `readRecord` — records, written as objects or as arrays in the order of their fields.
- `readAll` — a whole text.
-/

namespace GroupQueue.Json

open Text (digit? maxNatural maxWord)

/-- The kinds of fault. -/
inductive Fault where
  /-- The text is not JSON. -/
  | malformed
  /-- The text ends before the value does. -/
  | truncated
  /-- The value is not of the wanted type. -/
  | mismatched
deriving DecidableEq, Repr

/-- A reader takes characters from the front, or reports a fault. -/
abbrev Reader (α : Type) := StateT (List Char) (Except Fault) α

/-- Blanks between the tokens of JSON. -/
def isSpace (c : Char) : Bool := c == ' ' || c == '\n' || c == '\t' || c == '\r'

/-- `cs` from the next token on. -/
def skipSpaces (cs : List Char) : List Char := cs.dropWhile isSpace

/-- Pass over blanks and show the next character, or report a text that ends here. -/
def peek : Reader Char := do
  modify skipSpaces
  match ← get with
  | c :: _ => return c
  | [] => throw .truncated

/-- Take one character. -/
def advance : Reader Unit := modify (·.drop 1)

/-- The rest of a fixed word. -/
def word : List Char → Reader Unit
  | [] => pure ()
  | expected :: more => do
    match ← get with
    | [] => throw .truncated
    | c :: rest =>
      if c = expected then
        set rest
        word more
      else throw .malformed

/-! ## Texts -/

/-- Where the reading of a text stands. -/
inductive TextState where
  /-- Between two characters. -/
  | plain
  /-- After a backslash. -/
  | escaped
  /-- Inside a code of four digits: how many are left, the value so far, and the high surrogate
      that this code has to complete, if any. -/
  | code (left : Nat) (value : Nat) (high : Option Nat)
  /-- After a high surrogate: a backslash has to follow. -/
  | betweenCodes (high : Nat)
  /-- After that backslash: a `u` has to follow. -/
  | secondCode (high : Nat)

/-- The value of a hexadecimal digit. -/
def hexValue? (c : Char) : Option Nat :=
  if c.isDigit then some (c.toNat - '0'.toNat)
  else if 'a' ≤ c ∧ c ≤ 'f' then some (c.toNat - 'a'.toNat + 10)
  else if 'A' ≤ c ∧ c ≤ 'F' then some (c.toNat - 'A'.toNat + 10)
  else none

/-- The character that a letter after a backslash stands for. -/
def simpleEscape? (c : Char) : Option Char :=
  match c with
  | '\"' => some '\"'
  | '\\' => some '\\'
  | '/' => some '/'
  | 'b' => some '\x08'
  | 'f' => some '\x0c'
  | 'n' => some '\n'
  | 'r' => some '\r'
  | 't' => some '\t'
  | _ => none

/-- Four bytes are left for a code. -/
def hasCode (cs : List Char) : Bool :=
  4 ≤ (cs.take 4).foldl (fun size c => size + c.utf8Size) 0

/-- What a complete code leads to: a character, or the second half of a pair. -/
def codeOutcome (value : Nat) : Option Nat → Except Fault (Char ⊕ TextState)
  | none =>
    if 0xdc00 ≤ value ∧ value ≤ 0xdfff then .error .malformed
    else if 0xd800 ≤ value ∧ value ≤ 0xdbff then .ok (.inr (.betweenCodes value))
    else .ok (.inl (Char.ofNat value))
  | some high =>
    if 0xdc00 ≤ value ∧ value ≤ 0xdfff then
      .ok (.inl (Char.ofNat (0x10000 + (high - 0xd800) * 0x400 + (value - 0xdc00))))
    else .error .malformed

/-- The characters of a text after its opening quote, and what follows the closing one. The
    characters read so far are kept in reverse. -/
def textBody : TextState → List Char → List Char → Except Fault (String × List Char)
  | _, _, [] => .error .truncated
  | .plain, read, c :: cs =>
    if c = '\"' then .ok (String.ofList read.reverse, cs)
    else if c = '\\' then textBody .escaped read cs
    else if c.toNat < 32 then .error .malformed
    else textBody .plain (c :: read) cs
  | .escaped, read, c :: cs =>
    if c = 'u' then
      if hasCode cs then textBody (.code 4 0 none) read cs else .error .truncated
    else match simpleEscape? c with
      | some d => textBody .plain (d :: read) cs
      | none => .error .malformed
  | .code left value high, read, c :: cs =>
    match hexValue? c with
    | none => .error .malformed
    | some d =>
      if left ≤ 1 then
        match codeOutcome (value * 16 + d) high with
        | .error e => .error e
        | .ok (.inl char) => textBody .plain (char :: read) cs
        | .ok (.inr state) => textBody state read cs
      else textBody (.code (left - 1) (value * 16 + d) high) read cs
  | .betweenCodes high, read, c :: cs =>
    if c = '\\' then textBody (.secondCode high) read cs else .error .malformed
  | .secondCode high, read, c :: cs =>
    if c = 'u' then
      if hasCode cs then textBody (.code 4 0 (some high)) read cs else .error .truncated
    else .error .malformed

/-- Pass over the characters of a text after its opening quote. Codes may be halves of pairs. -/
def skipText : TextState → List Char → Except Fault (List Char)
  | _, [] => .error .truncated
  | .escaped, c :: cs =>
    if c = 'u' then
      if hasCode cs then skipText (.code 4 0 none) cs else .error .truncated
    else if (simpleEscape? c).isSome then skipText .plain cs
    else .error .malformed
  | .code left value high, c :: cs =>
    if (hexValue? c).isNone then .error .malformed
    else if left ≤ 1 then skipText .plain cs
    else skipText (.code (left - 1) value high) cs
  | _, c :: cs =>
    if c = '\"' then .ok cs
    else if c = '\\' then skipText .escaped cs
    else if c.toNat < 32 then .error .malformed
    else skipText .plain cs

/-- A text, its opening quote included. -/
def text : Reader String := do
  advance
  match textBody .plain [] (← get) with
  | .ok (s, rest) => set rest; return s
  | .error e => throw e

/-! ## Numbers -/

/-- What a number is. -/
inductive Number where
  /-- An integer from 0 up that fits an unsigned machine word. -/
  | natural (n : Nat)
  /-- A negative integer that fits a signed machine word. -/
  | negative (n : Int)
  /-- Any other number, minus zero among them. -/
  | other
deriving DecidableEq, Repr

/-- `n` rounded to 53 significant bits, a half to the even neighbour. -/
def roundToDouble (n : Nat) : Nat :=
  if n < (1 <<< 53) then n
  else
    let shift := n.log2 - 52
    let kept := n >>> shift
    let dropped := n % (1 <<< shift)
    let half := 1 <<< (shift - 1)
    let up := half < dropped || (dropped == half && kept % 2 == 1)
    (kept + up.toNat) <<< shift

/-- Whether `significand * 10 ^ exponent` is too large for a double. -/
def exceedsDouble (significand : Nat) (exponent : Int) : Bool :=
  significand != 0 && 0 ≤ exponent &&
    (308 < exponent ||
      (1 <<< 1024) - (1 <<< 970) ≤
        roundToDouble significand * roundToDouble (Nat.pow 10 exponent.toNat))

/-- A decimal significand that fits an unsigned machine word, and the power of ten it is short of. -/
structure Significand where
  value : Nat
  exponent : Int
  full : Bool

/-- Append a digit before the decimal point; one that does not fit only counts. -/
def Significand.pushInteger (s : Significand) (c : Char) : Significand :=
  let next := s.value * 10 + (digit? c).getD 0
  if s.full || maxNatural < next then ⟨s.value, s.exponent + 1, true⟩ else { s with value := next }

/-- Append a digit after the decimal point; one that does not fit is dropped. -/
def Significand.pushFraction (s : Significand) (c : Char) : Significand :=
  let next := s.value * 10 + (digit? c).getD 0
  if s.full || maxNatural < next then { s with full := true }
  else ⟨next, s.exponent - 1, false⟩

/-- The number that a significand with a fraction or an exponent stands for. -/
def Significand.outcome (s : Significand) (exponent : Int) : Except Fault Number :=
  if exceedsDouble s.value exponent then .error .malformed else .ok .other

/-- The digits at the front, and what follows them. -/
def digits (cs : List Char) : List Char × List Char :=
  (cs.takeWhile Char.isDigit, cs.dropWhile Char.isDigit)

/-- The exponent after its `e`. -/
def exponentPart (s : Significand) (cs : List Char) : Except Fault (Number × List Char) := do
  let (negative, cs) := match cs with
    | '+' :: rest => (false, rest)
    | '-' :: rest => (true, rest)
    | _ => (false, cs)
  let (ds, rest) := digits cs
  if ds.isEmpty then
    throw (if rest.isEmpty then .truncated else .malformed)
  let value : Nat := ds.foldl (fun n c => n * 10 + (digit? c).getD 0) 0
  if 2147483647 < value then
    if s.value != 0 && !negative then throw .malformed
    return (.other, rest)
  return (← s.outcome (if negative then s.exponent - value else s.exponent + value), rest)

/-- What follows the integer digits of a number. -/
def numberTail (positive : Bool) (s : Significand) : List Char → Except Fault (Number × List Char)
  | '.' :: cs => do
    let (ds, rest) := digits cs
    if ds.isEmpty then
      throw (if rest.isEmpty then .truncated else .malformed)
    let s := ds.foldl Significand.pushFraction { s with full := false }
    match rest with
    | 'e' :: rest | 'E' :: rest => exponentPart s rest
    | _ => return (← s.outcome s.exponent, rest)
  | 'e' :: cs | 'E' :: cs => exponentPart s cs
  | rest =>
    if s.full then (s.outcome s.exponent).map (·, rest)
    else if positive then .ok (.natural s.value, rest)
    else if s.value = 0 ∨ maxWord + 1 < s.value then .ok (.other, rest)
    else .ok (.negative (-s.value), rest)

/-- A number from its first digit on. -/
def unsignedNumber (positive : Bool) : List Char → Except Fault (Number × List Char)
  | [] => .error .truncated
  | cs =>
    match digits cs with
    | ([], _) => .error .malformed
    | ('0' :: _ :: _, _) => .error .malformed
    | (ds, rest) => numberTail positive (ds.foldl Significand.pushInteger ⟨0, 0, false⟩) rest

/-- A number. -/
def number : Reader Number := fun cs =>
  match cs with
  | '-' :: rest => unsignedNumber false rest
  | _ => unsignedNumber true cs

/-- Pass over an exponent after its `e`. -/
def skipExponent (cs : List Char) : Except Fault (List Char) :=
  let cs := match cs with
    | '+' :: rest | '-' :: rest => rest
    | _ => cs
  let (ds, rest) := digits cs
  if ds.isEmpty then .error .malformed else .ok rest

/-- Pass over a number from its first digit on. -/
def skipUnsigned (cs : List Char) : Except Fault (List Char) :=
  match digits cs with
  | ([], _) => .error .malformed
  | ('0' :: _ :: _, _) => .error .malformed
  | (_, '.' :: cs) =>
    match digits cs with
    | ([], _) => .error .malformed
    | (_, 'e' :: rest) | (_, 'E' :: rest) => skipExponent rest
    | (_, rest) => .ok rest
  | (_, 'e' :: rest) | (_, 'E' :: rest) => skipExponent rest
  | (_, rest) => .ok rest

/-- Pass over a number. -/
def skipNumber : List Char → Except Fault (List Char)
  | '-' :: rest => skipUnsigned rest
  | cs => skipUnsigned cs

/-! ## Values of any type -/

/-- An array or an object that has been opened. -/
inductive Frame where
  | array
  | object
deriving DecidableEq

/-- Where the passing over a value stands. -/
inductive SkipState where
  /-- A value has to follow. -/
  | value
  /-- Inside `frame`: an item may follow, after a comma if `comma`, or the end of the frame. -/
  | inside (frame : Frame) (comma : Bool)
  /-- Inside `frame`, where an item has to follow. -/
  | item (frame : Frame)

/-- Pass over a value inside the open frames. Every second step takes a character, so twice the
    length of the text is fuel enough. -/
def skipFrames : Nat → SkipState → List Frame → List Char → Except Fault (List Char)
  | 0, _, _, _ => .error .malformed
  | fuel + 1, state, frames, cs =>
    let afterValue := fun (cs : List Char) =>
      match frames with
      | [] => .ok cs
      | frame :: frames => skipFrames fuel (.inside frame true) frames cs
    match state, skipSpaces cs with
    | _, [] => .error .truncated
    | .value, 'n' :: cs => (word ['u', 'l', 'l'] cs).bind fun (_, cs) => afterValue cs
    | .value, 't' :: cs => (word ['r', 'u', 'e'] cs).bind fun (_, cs) => afterValue cs
    | .value, 'f' :: cs => (word ['a', 'l', 's', 'e'] cs).bind fun (_, cs) => afterValue cs
    | .value, '\"' :: cs => (skipText .plain cs).bind afterValue
    | .value, '[' :: cs => skipFrames fuel (.inside .array false) frames cs
    | .value, '\x7b' :: cs => skipFrames fuel (.inside .object false) frames cs
    | .value, c :: cs =>
      if c = '-' || c.isDigit then (skipNumber (c :: cs)).bind afterValue else .error .malformed
    | .inside .array _, ']' :: cs => afterValue cs
    | .inside .object _, '\x7d' :: cs => afterValue cs
    | .inside frame true, ',' :: cs => skipFrames fuel (.item frame) frames cs
    | .inside _ true, _ => .error .malformed
    | .inside frame false, cs => skipFrames fuel (.item frame) frames cs
    | .item .array, cs => skipFrames fuel .value (.array :: frames) cs
    | .item .object, '\"' :: cs =>
      (skipText .plain cs).bind fun cs =>
        match skipSpaces cs with
        | [] => .error .truncated
        | ':' :: cs => skipFrames fuel .value (.object :: frames) cs
        | _ => .error .malformed
    | .item .object, _ => .error .malformed

/-- Pass over a value. -/
def skipValue : Reader Unit := fun cs =>
  (skipFrames (3 * cs.length + 3) .value [] cs).map ((), ·)

/-! ## Scalars -/

/-- Report a value whose first character is `c` as one of the wrong type. The value is read far
    enough to know that it is well formed: numbers, texts and words whole, and of arrays and objects
    only the opening. -/
def mismatch {α : Type} (c : Char) : Reader α := do
  match c with
  | 'n' => advance; word ['u', 'l', 'l']
  | 't' => advance; word ['r', 'u', 'e']
  | 'f' => advance; word ['a', 'l', 's', 'e']
  | '\"' => discard text
  | '[' | '\x7b' => pure ()
  | _ => if c = '-' || c.isDigit then discard number else throw .malformed
  throw .mismatched

/-- An integer that fits a signed machine word. -/
def readInteger : Reader Int := do
  let c ← peek
  if c = '-' || c.isDigit then
    match ← number with
    | .natural n => if n ≤ maxWord then return n else throw .mismatched
    | .negative n => return n
    | .other => throw .mismatched
  else mismatch c

/-- A text. -/
def readText : Reader String := do
  let c ← peek
  if c = '\"' then text else mismatch c

/-- The word `null`. -/
def readNull : Reader Unit := do
  let c ← peek
  if c = 'n' then
    advance
    word ['u', 'l', 'l']
  else mismatch c

/-- The word `null`, or a value. -/
def readOption {α : Type} (value : Reader α) : Reader (Option α) := do
  modify skipSpaces
  match ← get with
  | 'n' :: _ =>
    advance
    word ['u', 'l', 'l']
    return none
  | _ => return some (← value)

/-- A colon between a name and its value. -/
def colon : Reader Unit := do
  if (← peek) = ':' then advance else throw .malformed

/-! ## Records -/

/-- A field of a record that is being read into a draft of type `δ`. -/
structure RecordField (δ : Type) where
  name : String
  /-- Whether the draft has this field already. -/
  isSet : δ → Bool
  /-- Read the field's value into the draft. -/
  read : δ → Reader δ

/-- Whether an array has a further element: it is introduced by a comma unless it is the first. -/
def hasElement (first : Bool) : Reader Bool := do
  let c ← peek
  if c = ']' then return false
  else if first then return true
  else if c = ',' then
    advance
    if (← peek) = ']' then throw .malformed else return true
  else throw .malformed

/-- The fields of a record in the elements of an array. -/
def readElements {δ : Type} : Bool → List (RecordField δ) → δ → Reader δ
  | _, [], draft => return draft
  | first, field :: fields, draft => do
    if ← hasElement first then readElements false fields (← field.read draft)
    else throw .mismatched

/-- Whether an object has a further member. -/
def hasMember (first : Bool) : Reader Bool := do
  let c ← peek
  if c = '\x7d' then return false
  else if first then
    if c = '\"' then return true else throw .malformed
  else if c = ',' then
    advance
    if (← peek) = '\"' then return true else throw .malformed
  else throw .malformed

/-- The fields of a record in the members of an object, in any order. A field that comes twice is a
    fault; a member that is no field is passed over. Every member takes characters, so the length of
    the text is fuel enough. -/
def readMembers {δ : Type} (fields : List (RecordField δ)) : Nat → Bool → δ → Reader δ
  | 0, _, _ => throw .malformed
  | fuel + 1, first, draft => do
    if ← hasMember first then
      let name ← text
      match fields.find? (·.name == name) with
      | some field =>
        if field.isSet draft then throw .mismatched
        colon
        readMembers fields fuel false (← field.read draft)
      | none =>
        colon
        skipValue
        readMembers fields fuel false draft
    else return draft

/-- A record, as an object or as an array of all its fields. `finish` makes the record out of the
    draft, unless a field is missing. -/
def readRecord {δ α : Type} (fields : List (RecordField δ)) (empty : δ) (finish : δ → Option α) :
    Reader α := do
  let c ← peek
  if c = '[' then
    advance
    let draft ← readElements true fields empty
    let some record := finish draft | throw .mismatched
    if (← peek) = ']' then advance else throw .malformed
    return record
  else if c = '\x7b' then
    advance
    let draft ← readMembers fields ((← get).length + 1) true empty
    let some record := finish draft | throw .mismatched
    if (← peek) = '\x7d' then advance else throw .malformed
    return record
  else mismatch c

/-- A whole text as one value, with blanks around it. -/
def readAll {α : Type} (value : Reader α) (s : String) : Except Fault α := do
  let (a, rest) ← value s.toList
  if (skipSpaces rest).isEmpty then return a else throw .malformed

end GroupQueue.Json
