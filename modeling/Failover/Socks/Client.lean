/-
  Failover.Socks.Client
  ─────────────────────
  **The client's side of a connection through a proxy.** The client offers
  no authentication and nothing else, asks for the target, and consumes
  the answer up to its last byte: what the server sends afterwards comes
  from the target.
-/
import Failover.Socks.Address

namespace Failover.Socks

open Bytes Exchange

/-- The greeting: one method, no authentication. -/
def greeting : List UInt8 := [version, 1, 0]

/-- Take the method that the server chose, which has to be the offered one. -/
def checkMethod (method : UInt8) : Except Fault Unit :=
  if method = 0 then .ok ()
  else if method = 0xFF then .error .auth
  else .error (.protocol (.authMethod method))

/-- The request for a target. -/
def connectRequest (target : Address) (port : UInt16) : Except Fault (List UInt8) := do
  return [version, 1, 0] ++ (← target.encode) ++ Address.portBytes port

/-- Ask the server on the other end for a connection to a target. -/
def clientConnect (target : Address) (port : UInt16) : Exchange Unit := do
  (writeAll greeting).explained .greetingUnsent
  let chosen ← (readExact 2).explained .greetingUnanswered
  if chosen.getD 0 0 ≠ version then throw (.protocol .greetingVersion)
  ofResult (checkMethod (chosen.getD 1 0))
  let request ← ofResult (connectRequest target port)
  (writeAll request).explained .requestUnsent
  let reply ← (readExact 4).explained .requestUnanswered
  if reply.getD 0 0 ≠ version then throw (.protocol .replyVersion)
  if reply.getD 1 0 ≠ 0 then throw (.connection (.refusedWith (reply.getD 1 0)))
  let _ ← Address.read (reply.getD 3 0)

end Failover.Socks
