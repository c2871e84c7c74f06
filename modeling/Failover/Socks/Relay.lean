/-
  Failover.Socks.Relay
  ────────────────────
  **Serving one client of the proxy.** After the greeting and the request
  the target is dialed.  If it cannot be reached the client is told so by
  a reply code; otherwise everything goes back and forth until both sides
  have ended.
-/
import Failover.Socks.Server
import Failover.Net.Network

namespace Failover.Socks

open Bytes Exchange

/-- The reply code for a target that could not be reached. -/
def replyCode : IoFault → UInt8
  | .refused => 5
  | .cannotAssign => 3
  | .notFound => 4
  | _ => 1

/-- Serve one client. -/
def serveClient (net : Net.Network) : Exchange Unit := do
  acceptGreeting
  let request ← readRequest
  match net.dial request.target with
  | .error cause =>
      writeReply (replyCode cause) none
      throw (.connection (.targetFailed request.target cause))
  | .ok peer =>
      writeReply 0 (some (.ip peer.localAddress.ip, peer.localAddress.port))
      let sent ← readRest
      writeAll (peer.answer sent)

end Failover.Socks
