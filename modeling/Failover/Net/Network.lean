/-
  Failover.Net.Network
  ────────────────────
  **Reaching other machines.** What a program can do with the network is
  given to it: look up a name, connect to an endpoint, listen on one.  A
  connection that was made has a local address and a peer that answers,
  and listening tells the endpoint with the port that was given.

  `Target.resolve` is the rule that makes an endpoint of a text with a
  host and a port.
-/
import Failover.Net.SocketAddress

namespace Failover.Net

/-- The other side of a connection that was made. -/
structure Peer where
  /-- The address of this side. -/
  localAddress : SocketAddress
  /-- What the peer sends until it closes, given all that it was sent. -/
  answer : List UInt8 → List UInt8

/-- What can be done with the network. -/
structure Network where
  lookup : String → Except IoFault IpAddress
  connect : SocketAddress → Except IoFault Peer
  listen : SocketAddress → Except IoFault SocketAddress

/-- A network on which nothing can be reached.  One can still listen; where no port is asked for,
it is the given one. -/
def Network.isolated (freePort : UInt16) : Network where
  lookup _ := .error .unresolved
  connect _ := .error .unreachable
  listen a := .ok (if a.port = 0 then { a with port := freePort } else a)

/-- Cut a text at its last colon. -/
def lastColon (s : List Char) : Option (List Char × List Char) :=
  let back := s.reverse.takeWhile (· != ':')
  if back.length = s.length then none
  else some (s.take (s.length - back.length - 1), back.reverse)

/-- The port that a text spells; a plus sign before it does not count. -/
def portOf (s : List Char) : Option UInt16 :=
  let digits := if s.head? = some '+' then s.drop 1 else s
  match entire (number 10 none true 65536) digits with
  | some n => some (UInt16.ofNat n)
  | none => none

/-- The endpoint of a text: a numeric one, or a host and a port with a colon between them. -/
def Network.resolve (net : Network) (target : String) : Except IoFault SocketAddress :=
  match SocketAddress.ofText? target with
  | some a => .ok a
  | none =>
      match lastColon target.toList with
      | none => .error .invalidSocketAddress
      | some (host, port) =>
          match portOf port with
          | none => .error .invalidPort
          | some port =>
              match IpAddress.ofText? (String.ofList host) with
              | some ip => .ok ⟨ip, port, 0⟩
              | none =>
                  if host.contains '\x00' then .error .nulInName
                  else
                    match net.lookup (String.ofList host) with
                    | .ok ip => .ok ⟨ip, port, 0⟩
                    | .error cause => .error cause

/-- Listen on the endpoint of a text. -/
def Network.bind (net : Network) (target : String) : Except IoFault SocketAddress :=
  match net.resolve target with
  | .ok a => net.listen a
  | .error cause => .error cause

/-- Connect to the endpoint of a text. -/
def Network.dial (net : Network) (target : String) : Except IoFault Peer :=
  match net.resolve target with
  | .ok a => net.connect a
  | .error cause => .error cause

end Failover.Net
