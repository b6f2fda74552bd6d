import GroupQueue.Queue.Request
import GroupQueue.Sql.Address
import GroupQueue.Sql.Migration
import GroupQueue.Sql.Server
import GroupQueue.Sql.Store

/-!
# `GroupQueue.Sql.Session` — a queue service over a database server

A service first connects to its server through a pool of connections, and then performs requests.

## Contents
- `Endpoint`, `connectElsewhere`, `connect` — where the server is, and why there may be no
  connection.
- `ServiceRequest` — what can be asked of the service.
- `ServiceRequest.perform` — the conversation that a request leads to.
-/

namespace GroupQueue.Sql

/-- What is known of the server to connect to. -/
structure Endpoint where
  /-- The address, if it is another one than that of the scripted server. -/
  address : Option String := none
  /-- What an address leaves open. -/
  fallback : ServerAddress := {}
  /-- The message with which the server turns connections down. -/
  refusal : Option String := none
  /-- The greatest number of connections. -/
  poolSize : Nat := 1
deriving DecidableEq, Repr

/-- Try to reach a server at another address than the scripted server's. Nobody answers there: a socket
    fails at once, and any other host is tried until the time is up. -/
def connectElsewhere (address : ServerAddress) (poolSize : Nat) : DatabaseFault :=
  match address.socketPath? with
  | some path => if poolSize = 0 then .poolTimeout else .socket (socketFault path)
  | none => .poolTimeout

/-- Connect to the server. -/
def connect (endpoint : Endpoint) : Except DatabaseFault Unit :=
  match endpoint.address with
  | some address => do
    let address ← (ServerAddress.read endpoint.fallback address).mapError .address
    throw (connectElsewhere address endpoint.poolSize)
  | none =>
    if endpoint.poolSize = 0 then .error .poolTimeout
    else
      match endpoint.refusal with
      | some message => .error (.reported message)
      | none => .ok ()

/-- What can be asked of a service over a database. -/
inductive ServiceRequest where
  | queue (q : Queue) (now : Instant) (request : Request)
  /-- Bring the database up to date. -/
  | migrate
  /-- Check that the database answers. -/
  | probe
deriving Repr

/-- The conversation that a request leads to. -/
def ServiceRequest.perform : ServiceRequest → SqlOperation Response
  | queue q now request => ExceptT.mk (converse (request.perform q now).run)
  | migrate => do Sql.migrate; return .nothing
  | probe => do Sql.probe; return .nothing

end GroupQueue.Sql
