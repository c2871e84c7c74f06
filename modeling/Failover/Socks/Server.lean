/-
  Failover.Socks.Server
  ─────────────────────
  **The server's side of a connection through a proxy.** A client has to
  offer no authentication and may ask for nothing but a connection; any
  other command is answered before the conversation ends.
-/
import Failover.Socks.Address

namespace Failover.Socks

open Bytes Exchange

/-- Read the greeting and answer it. -/
def acceptGreeting : Exchange Unit := do
  let head ← readExact 2
  if head.getD 0 0 ≠ version then throw (.protocol (.clientVersion (head.getD 0 0)))
  let methods ← readExact (head.getD 1 0).toNat
  if methods.contains 0 then writeAll [version, 0]
  else
    writeAll [version, 0xFF]
    throw .auth

/-- Write a reply.  Without a bound address it names the unspecified one. -/
def writeReply (code : UInt8) (bound : Option (Address × UInt16)) : Exchange Unit := do
  let (address, port) := bound.getD (.ip .unspecified, 0)
  let encoded ← ofResult address.encode
  writeAll ([version, code, 0] ++ encoded ++ Address.portBytes port)

/-- The code for a command that is not supported. -/
def commandNotSupported : UInt8 := 7

/-- A request for a connection. -/
structure Request where
  address : Address
  port : UInt16
  deriving DecidableEq, Repr

/-- The target of a request, as a text. -/
def Request.target (r : Request) : String := r.address.textWithPort r.port

/-- Read a request. -/
def readRequest : Exchange Request := do
  let header ← readExact 4
  if header.getD 0 0 ≠ version then throw (.protocol (.clientVersion (header.getD 0 0)))
  let (address, port) ← Address.read (header.getD 3 0)
  if header.getD 1 0 ≠ 1 then
    writeReply commandNotSupported none
    throw (.protocol (.command (header.getD 1 0)))
  return ⟨address, port⟩

end Failover.Socks
