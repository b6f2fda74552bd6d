import GroupQueue.Failure

/-!
# `GroupQueue.Telemetry.Endpoint` — the address that telemetry is sent to

An endpoint is a URI: a scheme with `://`, an authority and a path, or an authority alone, or a path
alone. It is checked from left to right, byte by byte; only the path and the query may hold characters
beyond ASCII.

## Contents
- `AuthorityScan` — what is known of an authority after some of its characters.
- `Endpoint.authorityLength` — the length of the authority at the front of a text.
- `Endpoint.checkPath` — the faults of a path with its query.
- `Endpoint.check` — the faults of an endpoint.
-/

namespace GroupQueue.Telemetry.Endpoint

/-! ## Authorities -/

/-- The characters that may stand anywhere in an authority. -/
def isAuthorityChar (c : Char) : Bool :=
  c.isAlphanum || "!$&'()*+,-.;=_~".toList.contains c

/-- What is known of an authority after some of its characters. -/
structure AuthorityScan where
  /-- The colons that do not belong to a user or a numeric host. -/
  colons : Nat := 0
  opened : Bool := false
  closed : Bool := false
  /-- A percent sign that does not belong to a user or a numeric host. -/
  percent : Bool := false
  /-- The last character is an `@`. -/
  endsUser : Bool := false
deriving DecidableEq, Repr

namespace AuthorityScan

/-- Take in one more character. -/
def step (scan : AuthorityScan) (c : Char) : Except EndpointFault AuthorityScan :=
  let scan := { scan with endsUser := false }
  if c = ':' then
    if 8 ≤ scan.colons then .error .invalidAuthority else .ok { scan with colons := scan.colons + 1 }
  else if c = '[' then
    if scan.percent || scan.opened then .error .invalidAuthority else .ok { scan with opened := true }
  else if c = ']' then
    if !scan.opened || scan.closed then .error .invalidAuthority
    else .ok { scan with closed := true, colons := 0, percent := false }
  else if c = '@' then .ok { scan with endsUser := true, colons := 0, percent := false }
  else if c = '%' then .ok { scan with percent := true }
  else if isAuthorityChar c then .ok scan
  else .error .invalidCharacter

/-- The faults that show only at the end. -/
def finish (scan : AuthorityScan) : Except EndpointFault Unit :=
  if scan.opened != scan.closed || 1 < scan.colons || scan.endsUser || scan.percent then
    .error .invalidAuthority
  else .ok ()

end AuthorityScan

/-- The characters after which no authority continues. -/
def endsAuthority (c : Char) : Bool := c == '/' || c == '?' || c == '#'

/-- The length of the authority at the front of a text. -/
def authorityLength (cs : List Char) : Except EndpointFault Nat := do
  let authority := cs.takeWhile (!endsAuthority ·)
  let scan ← authority.foldlM AuthorityScan.step {}
  scan.finish
  return authority.length

/-! ## Paths -/

/-- The characters that may stand in a query. -/
def isQueryChar (c : Char) : Bool :=
  let n := c.toNat
  n == 0x21 || (0x24 ≤ n && n ≤ 0x3b) || n == 0x3d || (0x3f ≤ n && n ≠ 0x7f)

/-- The characters that may stand in a path. -/
def isPathChar (c : Char) : Bool :=
  let n := c.toNat
  n == 0x21 || n == 0x22 || (0x24 ≤ n && n ≤ 0x3b) || n == 0x3d ||
    (0x40 ≤ n && n ≠ 0x60 && n ≠ 0x7f)

/-- The faults of a path with its query, up to the fragment. -/
def checkPath (cs : List Char) : Except EndpointFault Unit :=
  let address := cs.takeWhile (· != '#')
  let path := address.takeWhile (· != '?')
  let query := (address.dropWhile (· != '?')).drop 1
  if path.all isPathChar && query.all isQueryChar then .ok () else .error .invalidCharacter

/-! ## Endpoints -/

/-- What follows the scheme of an endpoint, if it has one. A text of three characters has none. -/
def afterScheme? (cs : List Char) : Except EndpointFault (Option (List Char)) :=
  let isSchemeChar := fun (c : Char) => c.isAlphanum || "+-.~".toList.contains c
  match cs.dropWhile isSchemeChar with
  | ':' :: '/' :: '/' :: rest =>
    if cs.length ≤ 3 then .ok none
    else if 64 < (cs.takeWhile isSchemeChar).length then .error .schemeTooLong
    else .ok (some rest)
  | _ => .ok none

/-- The faults of an endpoint of several characters that does not start with a slash. -/
def checkFull (cs : List Char) : Except EndpointFault Unit := do
  match ← afterScheme? cs with
  | none =>
    if (← authorityLength cs) ≠ cs.length then throw .invalidFormat
  | some [] => throw .empty
  | some rest =>
    let length ← authorityLength rest
    if length = 0 then throw .invalidFormat
    checkPath (rest.drop length)

/-- The faults of an endpoint. -/
def check (s : String) : Except EndpointFault Unit :=
  if 65534 < s.utf8ByteSize then .error .tooLong
  else
    match s.toList with
    | [] => .error .empty
    | ['/'] | ['*'] => .ok ()
    | [c] => do if (← authorityLength [c]) ≠ 1 then throw .invalidCharacter
    | '/' :: cs => checkPath ('/' :: cs)
    | cs => checkFull cs

end GroupQueue.Telemetry.Endpoint
