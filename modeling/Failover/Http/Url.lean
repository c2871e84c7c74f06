/-
  Failover.Http.Url
  ─────────────────
  **Where a page is.** An address of a page names a host, perhaps a port,
  and what to ask for there.
-/
import Failover.Http.Message
import Failover.Net.Network

namespace Failover.Http

open Net

/-- The host and the port of a server, given the port when none is named. -/
def authority? (standard : UInt16) (s : List Char) : Option (String × UInt16) :=
  let s := (s.reverse.takeWhile (· != '@')).reverse
  let (host, rest) :=
    if s.head? = some '[' then
      ((s.drop 1).takeWhile (· != ']'), ((s.dropWhile (· != ']')).drop 1))
    else (s.takeWhile (· != ':'), s.dropWhile (· != ':'))
  if host.isEmpty || host.any (·.isWhitespace) then none
  else
    match rest with
    | [] | [':'] => some (String.ofList host, standard)
    | ':' :: port => (portOf port).map fun p => (String.ofList host, p)
    | _ => none

/-- Whether a character ends the part of an address that names the server. -/
def endsAuthority (c : Char) : Bool := c == '/' || endsPath c

/-- The address of a page. -/
structure Url where
  host : String
  port : UInt16
  /-- What to ask for, with the query. -/
  target : String
  deriving DecidableEq, Repr

/-- The address that a text spells. -/
def Url.ofText? (text : String) : Option Url := do
  let s ← behind? "http://" text.toList
  let (host, port) ← authority? 80 (s.takeWhile (!endsAuthority ·))
  let rest := (s.dropWhile (!endsAuthority ·)).takeWhile (· != '#')
  let target := if rest.head? = some '/' then rest else '/' :: rest
  return ⟨host, port, String.ofList target⟩

/-- The endpoint of a proxy that a text names.  The host has to be known. -/
def proxyEndpoint? (net : Network) (text : String) : Option SocketAddress := do
  let (host, port) ← authority? 1080 (text.toList.takeWhile (!endsAuthority ·))
  match IpAddress.ofText? host with
  | some ip => return ⟨ip, port, 0⟩
  | none =>
      match net.lookup host with
      | .ok ip => return ⟨ip, port, 0⟩
      | .error _ => none

end Failover.Http
