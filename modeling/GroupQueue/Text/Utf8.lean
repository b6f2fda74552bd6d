/-!
# `GroupQueue.Text.Utf8` — characters from bytes

Bytes are read as UTF-8 from left to right. A character takes one to four bytes; only its shortest form
counts, and no surrogate or code point beyond U+10FFFF has one. Bytes that begin a character and are
not continued as they should be form one faulty sequence, up to the byte that does not fit.

## Contents
- `Utf8Fault`, `Utf8Fault.message` — where bytes stop being text.
- `continuations` — the bytes that may follow a first byte.
- `Utf8Front`, `Utf8Front.read` — what stands at the front of some bytes.
- `decodeUtf8` — the text of some bytes; `decodeLossily` puts U+FFFD for each faulty sequence.
-/

namespace GroupQueue.Text

/-- Where bytes stop being text. -/
inductive Utf8Fault where
  /-- A faulty sequence of some bytes. -/
  | invalid (length index : Nat)
  /-- The bytes end within a character. -/
  | incomplete (index : Nat)
deriving DecidableEq, Repr

/-- The wording of a fault. -/
def Utf8Fault.message : Utf8Fault → String
  | invalid length index =>
    "invalid utf-8 sequence of " ++ toString length ++ " bytes from index " ++ toString index
  | incomplete index => "incomplete utf-8 byte sequence from index " ++ toString index

/-- The bounds of the bytes that have to follow a first byte; `none` if it begins no character. -/
def continuations (first : UInt8) : Option (List (UInt8 × UInt8)) :=
  if first < 0x80 then some []
  else if first < 0xc2 then none
  else if first < 0xe0 then some [(0x80, 0xbf)]
  else if first = 0xe0 then some [(0xa0, 0xbf), (0x80, 0xbf)]
  else if first = 0xed then some [(0x80, 0x9f), (0x80, 0xbf)]
  else if first < 0xf0 then some [(0x80, 0xbf), (0x80, 0xbf)]
  else if first = 0xf0 then some [(0x90, 0xbf), (0x80, 0xbf), (0x80, 0xbf)]
  else if first < 0xf4 then some [(0x80, 0xbf), (0x80, 0xbf), (0x80, 0xbf)]
  else if first = 0xf4 then some [(0x80, 0x8f), (0x80, 0xbf), (0x80, 0xbf)]
  else none

/-- The bytes at the front that lie within some bounds, one after the other. -/
def fitting : List (UInt8 × UInt8) → List UInt8 → List UInt8
  | (lo, hi) :: bounds, b :: bytes => if lo ≤ b ∧ b ≤ hi then b :: fitting bounds bytes else []
  | _, _ => []

/-- What stands at the front of some bytes. -/
inductive Utf8Front where
  /-- A character, which takes `more + 1` bytes. -/
  | char (c : Char) (more : Nat)
  /-- A faulty sequence of `more + 1` bytes. -/
  | faulty (more : Nat)
  /-- The beginning of a character, and no more bytes. -/
  | cut
deriving DecidableEq, Repr

/-- The character of a first byte and the bytes that follow it. -/
def charOfBytes (first : UInt8) (more : List UInt8) : Char :=
  let lead := match more.length with
    | 0 => first.toNat
    | 1 => first.toNat % 32
    | 2 => first.toNat % 16
    | _ => first.toNat % 8
  Char.ofNat (more.foldl (fun n b => n * 64 + b.toNat % 64) lead)

/-- What stands at the front of a byte and those after it. -/
def Utf8Front.read (first : UInt8) (bytes : List UInt8) : Utf8Front :=
  match continuations first with
  | none => faulty 0
  | some bounds =>
    let more := fitting bounds bytes
    if more.length = bounds.length then char (charOfBytes first more) more.length
    else if more.length = bytes.length then .cut
    else faulty more.length

/-- The characters of some bytes, the first of which is at `index` of the whole. -/
def decodeFrom (index : Nat) : List UInt8 → Except Utf8Fault (List Char)
  | [] => .ok []
  | first :: bytes =>
    match Utf8Front.read first bytes with
    | .char c more => do
      return c :: (← decodeFrom (index + more + 1) (bytes.drop more))
    | .faulty more => .error (.invalid (more + 1) index)
    | .cut => .error (.incomplete index)
termination_by bytes => bytes.length
decreasing_by
  simp only [List.length_drop, List.length_cons]
  omega

/-- The text of some bytes. -/
def decodeUtf8 (bytes : List UInt8) : Except Utf8Fault String :=
  String.ofList <$> decodeFrom 0 bytes

/-- The characters of some bytes, with U+FFFD for what is none. -/
def decodeLossilyFrom : List UInt8 → List Char
  | [] => []
  | first :: bytes =>
    match Utf8Front.read first bytes with
    | .char c more => c :: decodeLossilyFrom (bytes.drop more)
    | .faulty more => '\ufffd' :: decodeLossilyFrom (bytes.drop more)
    | .cut => ['\ufffd']
termination_by bytes => bytes.length
decreasing_by
  all_goals
    simp only [List.length_drop, List.length_cons]
    omega

/-- The text of some bytes, with U+FFFD for what is none. -/
def decodeLossily (bytes : List UInt8) : String := String.ofList (decodeLossilyFrom bytes)

end GroupQueue.Text
