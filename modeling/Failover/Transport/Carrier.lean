/-
  Failover.Transport.Carrier
  ──────────────────────────
  **A transport that is set up for one connection.** A carrier is a service
  whose request tells its process which transport is wanted and where to
  connect to.  When it runs, it names an endpoint on this machine; whatever
  is sent to a target through that endpoint goes by way of the connection.
-/
import Failover.Connection
import Failover.Http.Fetch
import Failover.Service.Run

namespace Failover

open Service

/-- A service for a connection. -/
structure Carrier where
  /-- The id of the service. -/
  service : String
  connection : Connection
  deriving DecidableEq, Repr

namespace Carrier

/-! ## §1. Setting up. -/

/-- The name of every such service. -/
def serviceName : String := "transport"

/-- The options with the arguments of a transport behind those that are common to all. -/
def launchOptions (t : Transport) (options : Options) : Options :=
  { options with
    args := options.args ++ (if t.bundled then [Environment.namespaceFlag, options.space] else []) ++ t.args }

/-- The request for a connection. -/
def requestFor (c : Connection) : List (String × String) :=
  [("service", serviceName), ("transport", c.transport), ("remoteaddr", c.addr),
    ("secret", c.secret)]

/-- Set variables of a service one after the other, up to the first that is refused. -/
def setAll (id : String) : List (String × String) → Fleet → Except Fault Unit × Fleet
  | [], f => (.ok (), f)
  | (key, value) :: rest, f =>
      match f.setVar id key value with
      | (.ok (), f) => setAll id rest f
      | refused => refused

/-- Set up a service for a connection. -/
def create (f : Fleet) (registry id : String) (c : Connection) (t : Transport)
    (options : Options) : Except Fault Carrier × Fleet :=
  match t.program with
  | .error cause => (.error cause, f)
  | .ok program =>
      let f := f.create registry id serviceName program (launchOptions t options)
      match setAll id (requestFor c) f with
      | (.ok (), f) => (.ok ⟨id, c⟩, f)
      | (.error cause, f) => (.error cause, f)

/-- Set a variable of a carrier that is not started. -/
def setIdle (k : Carrier) (f : Fleet) (action : IdleAction) (key value : String) :
    Except Fault Unit × Fleet :=
  if (f.service? k.service).any (·.lifecycle == .idle) then f.setVar k.service key value
  else (.error (.alreadyRunning action), f)

/-- Tell where to listen. -/
def setBindAddr (k : Carrier) (f : Fleet) (addr : String) : Except Fault Unit × Fleet :=
  k.setIdle f .setBindAddress "bindaddr" addr

/-- Have the process tell more about what it does. -/
def setVerbose (k : Carrier) (f : Fleet) : Except Fault Unit × Fleet :=
  k.setIdle f .setVerbose "verbose" "yes"

/-! ## §2. The endpoint. -/

/-- A value of the answer of the process. -/
def answer? (k : Carrier) (f : Fleet) (key : String) : Option String :=
  (f.service? k.service).bind (·.response.get? key)

/-- The endpoint, once the process has named one. -/
def bindAddr? (k : Carrier) (f : Fleet) : Option String := k.answer? f "bindaddr"

/-- The protocol of the endpoint. -/
def protocol? (k : Carrier) (f : Fleet) : Option String := k.answer? f "protocol"

/-- Have the process connect through the endpoint of another carrier, which has to run. -/
def setParent (k parent : Carrier) (f : Fleet) : Except Fault Unit × Fleet :=
  if (f.service? k.service).any (·.lifecycle == .idle) then
    if !(f.service? parent.service).any Service.running then (.error (.config .parentIdle), f)
    else
      match parent.bindAddr? f with
      | none => (.error (.config .parentWithoutAddress), f)
      | some addr => f.setVar k.service "parentaddr" addr
  else (.error (.alreadyRunning .setParent), f)

/-- The endpoint, which has to be there. -/
def endpoint (k : Carrier) (f : Fleet) : Except Fault String :=
  match k.bindAddr? f with
  | some addr => .ok addr
  | none => .error (.connection (.noEndpoint k.service))

/-! ## §3. Using it. -/

/-- What a target answers to what it is sent through the endpoint. -/
def dial (k : Carrier) (f : Fleet) (net : Net.Network) (host : String) (port : UInt16)
    (sent : List UInt8) : Except Fault (List UInt8) :=
  match k.endpoint f with
  | .error cause => .error cause
  | .ok endpoint => Socks.tunnel net endpoint (.ofText host) port sent

/-- The proxy for pages that are fetched through the endpoint. -/
def proxy (k : Carrier) (f : Fleet) (net : Net.Network) : Except Fault Net.SocketAddress :=
  match k.endpoint f with
  | .error cause => .error cause
  | .ok endpoint =>
      match Http.proxyEndpoint? net endpoint with
      | some address => .ok address
      | none => .error (.http .failed)

/-- Fetch a page through the endpoint. -/
def fetch (k : Carrier) (f : Fleet) (net : Net.Network) (url : String) :
    Except Fault Http.Answer :=
  match k.endpoint f with
  | .error cause => .error cause
  | .ok endpoint => Http.fetchThrough net endpoint url

end Carrier

end Failover
