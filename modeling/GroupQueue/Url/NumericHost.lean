/-!
# `GroupQueue.Url.NumericHost` — hosts that are given by numbers

An IPv4 address is four octets with dots between them. In a URL it may also be fewer numbers, the last
of which fills all places that are left, and each number may be decimal, octal or hexadecimal. An IPv6
address is eight groups of up to four hexadecimal digits with colons between them; a double colon
stands for groups of zeros, and the last two groups may be written as four octets.

## Contents
- `isOctet`, `isIpv4` — four octets in decimal.
- `isIpv6` — eight groups.
- `endsInNumber` — whether the last label of a name is a number.
- `isLooseIpv4` — an IPv4 address as URLs write it.
-/

namespace GroupQueue.Url

/-- Whether `c` is a hexadecimal digit. -/
def isHexDigit (c : Char) : Bool := c.isDigit || ('a' ≤ c && c ≤ 'f') || ('A' ≤ c && c ≤ 'F')

/-- The number that some decimal digits stand for. -/
def decimal (cs : List Char) : Nat := cs.foldl (fun n c => n * 10 + (c.toNat - '0'.toNat)) 0

/-! ## Strict forms -/

/-- A number from 0 to 255 without leading zeros. -/
def isOctet (cs : List Char) : Bool :=
  cs == ['0'] ||
    (cs.head?.any (· != '0') && cs.length ≤ 3 && cs.all Char.isDigit && decimal cs ≤ 255)

/-- Four octets. -/
def isIpv4 (cs : List Char) : Bool :=
  let octets := cs.splitOn '.'
  octets.length == 4 && octets.all isOctet

/-- The number of 16-bit groups that a part between colons stands for: one, or two for the dotted
    form that may come last. -/
def groupCount? (last : Bool) (cs : List Char) : Option Nat :=
  if 1 ≤ cs.length && cs.length ≤ 4 && cs.all isHexDigit then some 1
  else if last && isIpv4 cs then some 2
  else none

/-- The number of groups in a list of parts; the last of them may be dotted if `dotted` says so. -/
def countGroups? (dotted : Bool) : List (List Char) → Option Nat
  | [] => some 0
  | [part] => groupCount? dotted part
  | part :: parts => do return (← groupCount? false part) + (← countGroups? dotted parts)

/-- The parts of a text around its first double colon. -/
def splitDoubleColon : List Char → List Char × Option (List Char)
  | ':' :: ':' :: rest => ([], some rest)
  | c :: rest =>
    let (front, back) := splitDoubleColon rest
    (c :: front, back)
  | [] => ([], none)

/-- The parts of a text between single colons; an empty text has none. -/
def colonParts (cs : List Char) : List (List Char) :=
  if cs.isEmpty then [] else cs.splitOn ':'

/-- Whether a text is an IPv6 address: eight groups, or fewer around one double colon. -/
def isIpv6 (cs : List Char) : Bool :=
  match splitDoubleColon cs with
  | (front, none) => countGroups? true (colonParts front) == some 8
  | (front, some back) =>
    match countGroups? false (colonParts front), countGroups? true (colonParts back) with
    | some m, some n => m + n ≤ 7
    | _, _ => false

/-! ## Loose forms -/

/-- The value of a digit in any base up to sixteen. -/
def digitInBase? (base : Nat) (c : Char) : Option Nat :=
  let value :=
    if c.isDigit then c.toNat - '0'.toNat
    else if isHexDigit c then c.toLower.toNat - 'a'.toNat + 10
    else base
  if value < base then some value else none

/-- The number that some digits stand for. -/
def numberInBase? (base : Nat) (cs : List Char) : Option Nat := do
  return (← cs.mapM (digitInBase? base)).foldl (fun n d => n * base + d) 0

/-- A number of an IPv4 address: hexadecimal after `0x`, octal after a zero, and decimal otherwise. No
    digits after `0x` are zero. -/
def looseNumber? : List Char → Option Nat
  | [] => none
  | '0' :: c :: cs => if c = 'x' ∨ c = 'X' then numberInBase? 16 cs else numberInBase? 8 (c :: cs)
  | cs => numberInBase? 10 cs

/-- The labels of a name, without the empty one that a dot at the end makes. -/
def addressParts (cs : List Char) : List (List Char) :=
  let parts := cs.splitOn '.'
  if parts.length ≠ 1 ∧ parts.getLast? = some [] then parts.dropLast else parts

/-- Whether the last label of a name is a number, or consists of digits. -/
def endsInNumber (cs : List Char) : Bool :=
  match (addressParts cs).getLast? with
  | some last => (!last.isEmpty && last.all Char.isDigit) || (looseNumber? last).isSome
  | none => false

/-- The greatest number that fits into the octets which are left after some. -/
def greatestLast? (octets : Nat) : Option Nat := [4294967295, 16777215, 65535, 255][octets]?

/-- Whether a name is an IPv4 address: up to four numbers, all but the last of which are octets, and
    the last of which fits into the octets that are left. -/
def isLooseIpv4 (cs : List Char) : Bool :=
  match (addressParts cs).mapM looseNumber? with
  | some numbers =>
    match numbers.getLast?, greatestLast? (numbers.length - 1) with
    | some last, some greatest => numbers.dropLast.all (· ≤ 255) && last ≤ greatest
    | _, _ => false
  | none => false

end GroupQueue.Url
