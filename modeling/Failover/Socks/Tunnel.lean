/-
  Failover.Socks.Tunnel
  ─────────────────────
  **A conversation with a target through a proxy.** The proxy is dialed
  and asked for the target; from then on everything that is sent goes to
  the target, and everything that comes back is from it.
-/
import Failover.Socks.Client
import Failover.Net.Network

namespace Failover.Socks

open Bytes Exchange

/-- Everything that is sent to the proxy: the greeting, the request, and what is for the target. -/
def outgoing (target : Address) (port : UInt16) (sent : List UInt8) : List UInt8 :=
  match connectRequest target port with
  | .ok request => greeting ++ request ++ sent
  | .error _ => greeting

/-- What a target answers to what it is sent through the proxy on an endpoint. -/
def tunnel (net : Net.Network) (endpoint : String) (target : Address) (port : UInt16)
    (sent : List UInt8) : Except Fault (List UInt8) :=
  match net.dial endpoint with
  | .error cause => .error (.io cause)
  | .ok peer =>
      let talk : Exchange (List UInt8) := do
        clientConnect target port
        writeAll sent
        readRest
      (talk.outcome ⟨⟨[peer.answer (outgoing target port sent)], .closed⟩, .empty none⟩).1

end Failover.Socks
