/-!
# `GroupQueue.Json.Writer` — writing JSON text

Texts are written raw except for the quote, the backslash and the control characters. Objects keep
the order of their fields. The compact form has no blanks; the indented form puts each field on a
line of its own, two blanks in.

## Contents
- `escapedChar`, `quote` — a JSON string.
- `object` — the compact form of an object.
- `indentedObject` — the indented form of an object whose values are scalars.
-/

namespace GroupQueue.Json

/-- A hexadecimal digit, in lower case. -/
def hexDigit (n : Nat) : Char :=
  if n < 10 then Char.ofNat ('0'.toNat + n) else Char.ofNat ('a'.toNat + (n - 10))

/-- One character inside a JSON string. -/
def escapedChar (c : Char) : List Char :=
  if c = '\"' then ['\\', '\"']
  else if c = '\\' then ['\\', '\\']
  else if c = '\x08' then ['\\', 'b']
  else if c = '\x0c' then ['\\', 'f']
  else if c = '\n' then ['\\', 'n']
  else if c = '\r' then ['\\', 'r']
  else if c = '\t' then ['\\', 't']
  else if c.toNat < 32 then
    ['\\', 'u', '0', '0', hexDigit (c.toNat / 16), hexDigit (c.toNat % 16)]
  else [c]

/-- `s` as a JSON string. -/
def quote (s : String) : String :=
  String.ofList ('\"' :: s.toList.flatMap escapedChar ++ ['\"'])

/-- An integer. -/
def integer (n : Int) : String := toString n

/-- An object in compact form; the values are JSON texts. -/
def object (fields : List (String × String)) : String :=
  let member := fun ((name, value) : String × String) => quote name ++ ":" ++ value
  "\x7b" ++ String.intercalate "," (fields.map member) ++ "\x7d"

/-- An object in indented form; the values are JSON texts of one line. -/
def indentedObject (fields : List (String × String)) : String :=
  let member := fun ((name, value) : String × String) => "  " ++ quote name ++ ": " ++ value
  "\x7b\n" ++ String.intercalate ",\n" (fields.map member) ++ "\n\x7d"

end GroupQueue.Json
