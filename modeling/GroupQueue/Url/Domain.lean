import GroupQueue.Text.Utf8
import GroupQueue.Url.DomainCharacter
import GroupQueue.Url.Punycode

/-!
# `GroupQueue.Url.Domain` — the names of domains

The name of a domain consists of labels with dots between them. It is given as bytes, which have to be
text, and is brought into its plain form first. A label that begins with `xn--` stands for a text beyond
ASCII. A label must not begin with a mark, joiners stand only where they have an effect, and the
characters of a label run one way as soon as some label of the name runs from right to left.

## Contents
- `joinersFit` — where joiners stand.
- `runsRight`, `runsLeft` — labels that run one way.
- `labelText?`, `isLabel` — a label and what it stands for.
- `composeStruck`, `domainName?` — the plain form of a name.
-/

namespace GroupQueue.Url

/-! ## Joiners -/

/-- Whether the joiner behind some characters, the last one first, has an effect on what follows: it
    takes part in writing after a sign without vowel, and keeps apart two characters that join. -/
def joinerFits (before : List Char) (joiner : Char) (after : List Char) : Bool :=
  before.head?.any isVirama ||
    (joiner == '\u200c' && (before.dropWhile isTransparent).head?.any joinsNext &&
      (after.dropWhile isTransparent).head?.any joinsPrevious)

/-- Whether all joiners fit; `before` holds the characters so far, the last one first. -/
def joinersFit (before : List Char) : List Char → Bool
  | [] => true
  | c :: cs => (!isJoiner c || joinerFits before c cs) && joinersFit (c :: before) cs

/-! ## Directions -/

/-- The last direction that is not that of a mark. -/
def lastDirection? (ds : List Direction) : Option Direction :=
  (ds.reverse.dropWhile (· == .mark)).head?

/-- Whether a label that begins with a character from right to left runs that way throughout. -/
def runsLeft (ds : List Direction) : Bool :=
  !ds.contains .leftToRight &&
    (lastDirection? ds).any [Direction.rightToLeft, .european, .arabic].contains &&
    !(ds.contains .european && ds.contains .arabic)

/-- Whether a label that begins with a character from left to right runs that way throughout. -/
def runsRight (ds : List Direction) : Bool :=
  !ds.contains .rightToLeft && !ds.contains .arabic &&
    (lastDirection? ds).any [Direction.leftToRight, .european].contains

/-- Whether a label runs one way. -/
def runsOneWay (label : List Char) : Bool :=
  let ds := label.flatMap directions
  match ds with
  | [] => true
  | .rightToLeft :: _ => runsLeft ds
  | .leftToRight :: _ => runsRight ds
  | _ => false

/-- Whether a label has characters that run from right to left. -/
def hasRightToLeft (label : List Char) : Bool :=
  (label.flatMap directions).any fun d => d == .rightToLeft || d == .arabic

/-! ## Labels -/

/-- The text that a label in its plain form stands for. -/
def labelText? (label : List Char) : Option (List Char) :=
  match label with
  | 'x' :: 'n' :: '-' :: '-' :: code => do
    let text ← decodePunycode? code
    if text.any (128 ≤ ·.toNat) ∧ text.all isPlain then return text else none
  | _ => some label

/-- Whether a text can be a label. -/
def isLabel (text : List Char) : Bool := !text.head?.any isMark && joinersFit [] text

/-! ## Names -/

/-- A text with its struck out angle brackets as single characters, which names may contain. -/
def composeStruck : List Char → List Char
  | '<' :: '\u0338' :: cs => '≮' :: composeStruck cs
  | '>' :: '\u0338' :: cs => '≯' :: composeStruck cs
  | c :: cs => c :: composeStruck cs
  | [] => []

/-- The plain form of a name; `none` if it is not allowed. -/
def domainName? (bytes : List UInt8) : Option (List Char) := do
  let given ← (Text.decodeUtf8 bytes).toOption
  let name := (← (composeStruck given.toList).mapM plainForm?).flatten
  let texts ← (name.splitOn '.').mapM labelText?
  if texts.all isLabel && (!texts.any hasRightToLeft || texts.all runsOneWay) then return name
  else none

end GroupQueue.Url
