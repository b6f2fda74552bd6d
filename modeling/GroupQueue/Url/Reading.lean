import GroupQueue.Text.Numeral
import GroupQueue.Url.Basic

/-!
# `GroupQueue.Url.Reading` — reading URLs

A URL is read from left to right: the scheme up to the first colon; after two slashes the user up to the
last at sign, the host and the port; then the path, the query and the fragment. Controls and blanks
around it do not count, nor do tabs and line ends inside it. In the special schemes a backslash is as
good as a slash, and a host has to be there. A URL of a file may lack it.

## Contents
- `SchemeKind` — how the schemes differ.
- `resolveSegments` — a path without steps to itself or upwards.
- `readAuthority`, `readFileHost` — what stands between the scheme and the path.
- `Url.read` — a whole URL.
-/

namespace GroupQueue.Url

/-! ## Schemes -/

/-- How schemes differ. -/
inductive SchemeKind where
  | special
  | file
  | other
deriving DecidableEq, Repr

/-- The special schemes with a host, and the ports that belong to them. -/
def specialPorts : List (String × Nat) :=
  [("http", 80), ("https", 443), ("ws", 80), ("wss", 443), ("ftp", 21)]

/-- The kind of a scheme. -/
def SchemeKind.ofScheme (scheme : String) : SchemeKind :=
  if scheme = "file" then file else if (specialPorts.lookup scheme).isSome then special else other

/-- The scheme before the first colon, in lower case, and what follows the colon. -/
def splitScheme? (cs : List Char) : Option (String × List Char) :=
  let isSchemeChar := fun (c : Char) => c.isAlphanum || c == '+' || c == '-' || c == '.'
  match cs.takeWhile isSchemeChar, cs.dropWhile isSchemeChar with
  | first :: more, ':' :: rest =>
    if first.isAlpha then some ((String.ofList (first :: more)).toLower, rest) else none
  | _, _ => none

/-- Whether `c` is a slash for URLs of a kind. -/
def SchemeKind.isSlash (kind : SchemeKind) (c : Char) : Bool :=
  c == '/' || (kind != .other && c == '\\')

/-- Whether the part before the path ends at `c`. -/
def SchemeKind.endsAuthority (kind : SchemeKind) (c : Char) : Bool :=
  kind.isSlash c || c == '?' || c == '#'

/-! ## Paths -/

/-- A segment that stands for where it is. -/
def isHere (segment : List Char) : Bool :=
  [".", "%2e"].contains (String.ofList segment).toLower

/-- A segment that stands for one step upwards. -/
def isUpwards (segment : List Char) : Bool :=
  ["..", ".%2e", "%2e.", "%2e%2e"].contains (String.ofList segment).toLower

/-- Follow the segments of a path; `done` holds those so far, the last one first. -/
def resolveSegments (done : List (List Char)) : List (List Char) → List (List Char)
  | [] => done.reverse
  | segment :: rest =>
    let ended := if rest.isEmpty then [[]] else []
    if isUpwards segment then resolveSegments (ended ++ done.drop 1) rest
    else if isHere segment then resolveSegments (ended ++ done) rest
    else resolveSegments (segment :: done) rest

/-- The path that some characters stand for, up to the query or fragment. -/
def readPath (kind : SchemeKind) (cs : List Char) : List Char :=
  let written := cs.takeWhile fun c => c != '?' && c != '#'
  if written.isEmpty ∧ kind = .other then []
  else
    let slashes := written.map fun c => if kind.isSlash c then '/' else c
    let body := if slashes.head? = some '/' then slashes.drop 1 else slashes
    '/' :: List.intercalate ['/'] (resolveSegments [] (body.splitOn '/'))

/-- The query behind a path. -/
def readQuery (cs : List Char) : List Char :=
  match cs.dropWhile fun c => c != '?' && c != '#' with
  | '?' :: rest => rest.takeWhile (· != '#')
  | _ => []

/-- A URL with the path and the query that some characters hold. -/
def withPath (url : Url) (kind : SchemeKind) (cs : List Char) : Url :=
  { url with path := readPath kind cs, query := readQuery cs }

/-! ## Hosts, users and ports -/

/-- The text before the last `@` of an authority and what follows it, if it has one. -/
def splitUser? (kind : SchemeKind) (cs : List Char) : Option (List Char × List Char) :=
  let authority := cs.takeWhile (!kind.endsAuthority ·)
  let host := (authority.reverse.takeWhile (· != '@')).reverse
  if host.length < authority.length then
    let before := authority.length - host.length
    some (authority.take (before - 1), cs.drop before)
  else none

/-- The host at the front of a text, which a colon outside brackets ends, and the rest. -/
def splitHost (kind : SchemeKind) (inBrackets : Bool) : List Char → List Char × List Char
  | [] => ([], [])
  | c :: cs =>
    if kind.endsAuthority c || (c == ':' && !inBrackets) then ([], c :: cs)
    else
      let inside := if c = '[' then true else if c = ']' then false else inBrackets
      let (host, rest) := splitHost kind inside cs
      (c :: host, rest)

/-- The port that follows a colon, and the rest. -/
def readPort (cs : List Char) : Except UrlFault (Option Nat × List Char) :=
  let digits := cs.takeWhile Char.isDigit
  let rest := cs.drop digits.length
  if decimal digits ≤ 65535 ∧ rest.head?.all SchemeKind.special.endsAuthority then
    .ok (if digits.isEmpty then none else some (decimal digits), rest)
  else .error .invalidPort

/-- Read the host and the port of a URL, which already has its user. -/
def readHostAndPort (url : Url) (kind : SchemeKind) (cs : List Char) :
    Except UrlFault (Url × List Char) := do
  let (text, rest) := splitHost kind false cs
  let hasUser := !url.user.isEmpty || !url.password.isEmpty
  if text.isEmpty ∧ kind = .special then throw .emptyHost
  let host ← if kind = .special then readDomainHost text else readOpaqueHost text
  if text.isEmpty ∧ rest.head? = some ':' then throw .emptyHost
  let (port, rest) ← if rest.head? = some ':' then readPort (rest.drop 1) else pure (none, rest)
  if text.isEmpty ∧ hasUser then throw .emptyHost
  let host := if text.isEmpty then none else some host
  let port := if port = specialPorts.lookup url.scheme then none else port
  return ({ url with host, port }, rest)

/-- Read what follows the two slashes of a URL that is none of a file. -/
def readAuthority (url : Url) (kind : SchemeKind) (cs : List Char) :
    Except UrlFault (Url × List Char) :=
  match splitUser? kind cs with
  | none => readHostAndPort url kind cs
  | some (text, rest) =>
    if text.isEmpty ∧ rest.head?.any kind.endsAuthority then .error .emptyHost
    else
      let user := text.takeWhile (· != ':')
      let password := (text.dropWhile (· != ':')).drop 1
      readHostAndPort { url with user, password } kind rest

/-- Whether a text names a drive: a letter and a colon or bar. -/
def isDrive : List Char → Bool
  | [letter, mark] => letter.isAlpha && (mark == ':' || mark == '|')
  | _ => false

/-- Read the host of a file. A drive is part of the path, and `localhost` is no host. -/
def readFileHost (url : Url) (cs : List Char) : Except UrlFault (Url × List Char) := do
  let text := cs.takeWhile (!SchemeKind.file.endsAuthority ·)
  if isDrive text then return (url, cs)
  let rest := cs.drop text.length
  if text.isEmpty then return (url, rest)
  let host ← readDomainHost text
  if host = .domain "localhost".toList then return (url, rest)
  return ({ url with host := some host }, rest)

/-! ## Whole URLs -/

/-- The characters of a URL that count. -/
def countingChars (s : String) : List Char :=
  let atEdge := fun (c : Char) => c.toNat ≤ 32
  let trimmed := ((s.toList.dropWhile atEdge).reverse.dropWhile atEdge).reverse
  trimmed.filter fun c => c != '\t' && c != '\n' && c != '\r'

/-- Read a URL. -/
def read (s : String) : Except UrlFault Url := do
  let some (scheme, rest) := splitScheme? (countingChars s) | throw .noScheme
  let kind := SchemeKind.ofScheme scheme
  let url : Url := { scheme }
  match kind, rest with
  | .special, _ =>
    let (url, rest) ← readAuthority url kind (rest.dropWhile kind.isSlash)
    return withPath url kind rest
  | .file, a :: b :: rest =>
    if kind.isSlash a && kind.isSlash b then
      let (url, rest) ← readFileHost url rest
      return withPath url kind rest
    else return withPath url kind (a :: b :: rest)
  | .other, '/' :: '/' :: rest =>
    let (url, rest) ← readAuthority url kind rest
    return withPath url kind rest
  | .other, '/' :: _ => return withPath url kind rest
  | .other, _ =>
    -- Without a slash the path is kept as it is.
    return { url with path := rest.takeWhile fun c => c != '?' && c != '#', query := readQuery rest }
  | _, _ => return withPath url kind rest

end GroupQueue.Url
