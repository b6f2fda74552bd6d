import GroupQueue.Text.Printable

/-!
# `GroupQueue.Text.Quoted` — a text between quotes, for error messages and debug output

A quoted text stands between double quotes and shows every character unambiguously: the quote, the
backslash and the common controls by a letter after a backslash, a character without a glyph of its
own by its code point in hexadecimal, and all others as they are.

## Contents
- `hexDigits` — a number in lower-case hexadecimal, without leading zeros.
- `quotedChar` — how one character is shown.
- `quoted` — the whole text.
-/

namespace GroupQueue.Text

/-- `n` in lower-case hexadecimal. -/
def hexDigits (n : Nat) : String :=
  String.ofList (Nat.toDigits 16 n)

/-- One character inside a quoted text. -/
def quotedChar (c : Char) : String :=
  if c = '\x00' then "\\0"
  else if c = '\t' then "\\t"
  else if c = '\n' then "\\n"
  else if c = '\r' then "\\r"
  else if c = '\"' then "\\\""
  else if c = '\\' then "\\\\"
  else if isExtending c || !isPrintable c then "\\u\x7b" ++ hexDigits c.toNat ++ "\x7d"
  else String.singleton c

/-- `s` between double quotes, with what has no glyph escaped. -/
def quoted (s : String) : String :=
  "\"" ++ String.join (s.toList.map quotedChar) ++ "\""

end GroupQueue.Text
