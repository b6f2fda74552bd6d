/-!
# `GroupQueue.Url.Punycode` — texts beyond ASCII, written in ASCII

A text is written as its ASCII characters, followed after the last hyphen by numbers that say where the
other characters go. Taken in the order of their code points, each is a step forward through all pairs
of a code point and a position. A number is written with its least digit first; the digit that ends it
is below a threshold, which adapts to the size of the numbers so far.

## Contents
- `digitValue?`, `threshold`, `adapt` — the parts of a number.
- `PunycodeScan`, `PunycodeScan.step` — the text after some digits.
- `decodePunycode?` — a whole text.
-/

namespace GroupQueue.Url

/-- The value of a digit: the letters come first. -/
def digitValue? (c : Char) : Option Nat :=
  let n := c.toNat
  if 0x61 ≤ n ∧ n ≤ 0x7a then some (n - 0x61)
  else if 0x41 ≤ n ∧ n ≤ 0x5a then some (n - 0x41)
  else if 0x30 ≤ n ∧ n ≤ 0x39 then some (n - 0x30 + 26)
  else none

/-- The threshold of the digit at a place, where places count in steps of 36. -/
def threshold (bias place : Nat) : Nat :=
  if place ≤ bias then 1 else if bias + 26 ≤ place then 26 else place - bias

/-- Bring a number down until the thresholds suit it, counting the digits that it loses. -/
def settleBias (places delta : Nat) : Nat :=
  if 455 < delta then settleBias (places + 36) (delta / 35)
  else places + 36 * delta / (delta + 38)
termination_by delta
decreasing_by omega

/-- The bias after a number, given the length of the text that it led to. -/
def adapt (first : Bool) (delta length : Nat) : Nat :=
  let delta := if first then delta / 700 else delta / 2
  settleBias 0 (delta + delta / length)

/-- The text after some digits. -/
structure PunycodeScan where
  /-- The characters so far. -/
  text : List Char
  /-- The code point that is next. -/
  point : Nat := 128
  /-- The position that is next, with what the unfinished number adds. -/
  index : Nat := 0
  /-- The position before the unfinished number. -/
  start : Nat := 0
  bias : Nat := 72
  weight : Nat := 1
  place : Nat := 36
deriving DecidableEq, Repr

/-- Put the character at the position that a finished number leads to. -/
def PunycodeScan.insert? (scan : PunycodeScan) : Option PunycodeScan :=
  let length := scan.text.length + 1
  let point := scan.point + scan.index / length
  let index := scan.index % length
  if point.isValidChar then
    some {
      text := scan.text.take index ++ Char.ofNat point :: scan.text.drop index
      point
      index := index + 1
      start := index + 1
      bias := adapt (scan.start == 0) (scan.index - scan.start) length }
  else none

/-- Take in a digit. -/
def PunycodeScan.step (scan : PunycodeScan) (c : Char) : Option PunycodeScan := do
  let digit ← digitValue? c
  let limit := threshold scan.bias scan.place
  let scan := { scan with index := scan.index + digit * scan.weight }
  if digit < limit then scan.insert?
  else return { scan with weight := scan.weight * (36 - limit), place := scan.place + 36 }

/-- The text that is written as `cs`. -/
def decodePunycode? (cs : List Char) : Option (List Char) := do
  let digits := (cs.reverse.takeWhile (· != '-')).reverse
  let plain := cs.take (cs.length - digits.length - 1)
  if plain.any (128 ≤ ·.toNat) ∨ (plain.isEmpty ∧ digits.length < cs.length) then none
  else
    let scan ← digits.foldlM PunycodeScan.step { text := plain }
    if scan.place = 36 then return scan.text else none

end GroupQueue.Url
