import GroupQueue.Url.Domain
import GroupQueue.Url.Encoding
import GroupQueue.Url.NumericHost

/-!
# `GroupQueue.Url.Basic` — URLs and their hosts

A URL has a scheme and a path; it may have a host, with a user, a password and a port, and a query. Its
parts are kept as they are written, and are decoded where they are used. In the special schemes a host is
the name of a domain or a numeric address; elsewhere it is any text without characters that have a
meaning in a URL.

## Contents
- `UrlFault`, `UrlFault.message` — why a text is no URL.
- `UrlHost`, `readDomainHost`, `readOpaqueHost` — hosts.
- `Url`, `Url.parameters` — URLs, and the pairs of their queries.
-/

namespace GroupQueue

/-- Why a text is no URL. -/
inductive UrlFault where
  /-- The text has no scheme. -/
  | noScheme
  | emptyHost
  | invalidDomain
  | invalidIpv4
  | invalidIpv6
  | invalidCharacter
  | invalidPort
deriving DecidableEq, Repr

/-- The wording of a fault. -/
def UrlFault.message : UrlFault → String
  | noScheme => "relative URL without a base"
  | emptyHost => "empty host"
  | invalidDomain => "invalid international domain name"
  | invalidIpv4 => "invalid IPv4 address"
  | invalidIpv6 => "invalid IPv6 address"
  | invalidCharacter => "invalid domain character"
  | invalidPort => "invalid port number"

/-- A host. -/
inductive UrlHost where
  /-- A numeric address. -/
  | numeric (text : List Char)
  /-- The plain form of the name of a domain. -/
  | domain (name : List Char)
  /-- A text whose meaning the scheme defines. -/
  | opaqueText (text : List Char)
deriving DecidableEq, Repr

/-- A URL. -/
structure Url where
  scheme : String
  user : List Char := []
  password : List Char := []
  host : Option UrlHost := none
  /-- The port, unless it is the one that belongs to the scheme. -/
  port : Option Nat := none
  path : List Char := []
  query : List Char := []
deriving DecidableEq, Repr

namespace Url

/-- The pairs of the query. -/
def parameters (url : Url) : List (String × String) := queryPairs url.query

/-- Characters that never stand in a host. -/
def forbiddenInHost : List Char :=
  ['\x00', '\t', '\n', '\r', ' ', '#', '/', ':', '<', '>', '?', '@', '[', '\\', ']', '^', '|']

/-- A numeric host between brackets. -/
def readBracketed (cs : List Char) : Except UrlFault UrlHost :=
  if cs.getLast? = some ']' ∧ isIpv6 (cs.drop 1).dropLast then .ok (.numeric cs)
  else .error .invalidIpv6

/-- A host outside of the special schemes. -/
def readOpaqueHost (cs : List Char) : Except UrlFault UrlHost :=
  if cs.head? = some '[' then readBracketed cs
  else if cs.any forbiddenInHost.contains then .error .invalidCharacter
  else .ok (.opaqueText cs)

/-- A host in one of the special schemes. -/
def readDomainHost (cs : List Char) : Except UrlFault UrlHost :=
  if cs.head? = some '[' then readBracketed cs
  else
    match domainName? (percentDecode cs) with
    | none => .error .invalidDomain
    | some name =>
      if name.isEmpty then .error .emptyHost
      else if endsInNumber name then
        if isLooseIpv4 name then .ok (.numeric name) else .error .invalidIpv4
      else .ok (.domain name)

end Url

end GroupQueue
