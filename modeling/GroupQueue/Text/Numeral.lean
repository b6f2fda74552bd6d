/-!
# `GroupQueue.Text.Numeral` — decimal integers within bounds

Reading is strict: an optional sign, then ASCII digits only, as many as one likes, whose value stays
within the bounds. Digits are taken from the left, so of two faults the one further left is reported.
A type without negative values has no minus sign: there it is an invalid digit.

## Contents
- `NumeralFault` — what can be wrong with a numeral, and its wording.
- `digit?` — the value of an ASCII digit.
- `readDigits` — the digits of a positive or negative number.
- `readInt`, `readNat` — a number in `lo … hi`, or in `0 … hi`.
- The bounds of the machine words: `minWord`, `maxWord`, `maxNatural`, `maxHalf`.
-/

namespace GroupQueue.Text

/-- What is wrong with a numeral. -/
inductive NumeralFault where
  | empty
  | invalidDigit
  | tooLarge
  | tooSmall
deriving DecidableEq, Repr

/-- The wording of a fault. -/
def NumeralFault.message : NumeralFault → String
  | .empty => "cannot parse integer from empty string"
  | .invalidDigit => "invalid digit found in string"
  | .tooLarge => "number too large to fit in target type"
  | .tooSmall => "number too small to fit in target type"

/-- The least and the greatest signed 64-bit integer. -/
def minWord : Int := -9223372036854775808

@[inherit_doc minWord]
def maxWord : Int := 9223372036854775807

/-- The greatest unsigned 64-bit integer. -/
def maxNatural : Nat := 18446744073709551615

/-- The greatest unsigned 32-bit integer. -/
def maxHalf : Nat := 4294967295

/-- The value of an ASCII digit. -/
def digit? (c : Char) : Option Nat :=
  if c.isDigit then some (c.toNat - '0'.toNat) else none

/-- Read digits on to `value`, away from zero on the side that `negative` says. The number has to
    stay within `lo … hi` after every digit. -/
def readDigits (negative : Bool) (lo hi : Int) : Int → List Char → Except NumeralFault Int
  | value, [] => .ok value
  | value, c :: cs =>
    match digit? c with
    | none => .error .invalidDigit
    | some d =>
      if negative then
        if value * 10 - d < lo then .error .tooSmall
        else readDigits negative lo hi (value * 10 - d) cs
      else
        if hi < value * 10 + d then .error .tooLarge
        else readDigits negative lo hi (value * 10 + d) cs

/-- Read at least one digit, unless the sign said enough. -/
def readMagnitude (negative : Bool) (lo hi : Int) : List Char → Except NumeralFault Int
  | [] => .error .invalidDigit
  | cs => readDigits negative lo hi 0 cs

/-- Read a whole text as an integer in `lo … hi`; a `lo` of zero or more means that there is no
    minus sign. -/
def readInt (lo hi : Int) (s : String) : Except NumeralFault Int :=
  match s.toList with
  | [] => .error .empty
  | '+' :: cs => readMagnitude false lo hi cs
  | '-' :: cs => if lo < 0 then readMagnitude true lo hi cs else .error .invalidDigit
  | cs => readDigits false lo hi 0 cs

/-- Read a whole text as a natural number up to `hi`. -/
def readNat (hi : Nat) (s : String) : Except NumeralFault Nat :=
  (readInt 0 hi s).map Int.toNat

end GroupQueue.Text
