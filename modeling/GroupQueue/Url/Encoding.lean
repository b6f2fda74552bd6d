import GroupQueue.Text.Utf8

/-!
# `GroupQueue.Url.Encoding` — bytes and pairs inside a URL

A byte can be written as a percent sign with two hexadecimal digits; a percent sign without them stands
for itself. A query holds pairs of a name and a value, in which a plus sign stands for a blank.

## Contents
- `percentDecode` — the bytes that some characters stand for.
- `queryText`, `queryPairs` — the pairs of a query.
-/

namespace GroupQueue.Url

/-- The value of a hexadecimal digit. -/
def hexValue? (c : Char) : Option UInt8 :=
  if c.isDigit then some (UInt8.ofNat (c.toNat - 0x30))
  else if 'a' ≤ c ∧ c ≤ 'f' then some (UInt8.ofNat (c.toNat - 0x61 + 10))
  else if 'A' ≤ c ∧ c ≤ 'F' then some (UInt8.ofNat (c.toNat - 0x41 + 10))
  else none

/-- The bytes that some characters stand for. -/
def percentDecode : List Char → List UInt8
  | '%' :: a :: b :: cs =>
    match hexValue? a, hexValue? b with
    | some high, some low => (high * 16 + low) :: percentDecode cs
    | _, _ => 0x25 :: percentDecode (a :: b :: cs)
  | c :: cs => String.utf8EncodeChar c ++ percentDecode cs
  | [] => []

/-- The text of a name or value. -/
def queryText (cs : List Char) : String :=
  Text.decodeLossily (percentDecode (cs.map fun c => if c = '+' then ' ' else c))

/-- The pairs of a query, in its order. Between two ampersands there need not be one. -/
def queryPairs (cs : List Char) : List (String × String) :=
  ((cs.splitOn '&').filter (!·.isEmpty)).map fun pair =>
    (queryText (pair.takeWhile (· != '=')), queryText ((pair.dropWhile (· != '=')).drop 1))

end GroupQueue.Url
