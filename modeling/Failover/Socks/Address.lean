/-
  Failover.Socks.Address
  ──────────────────────
  **Addresses in the SOCKS protocol, version 5.** A numeric address or a
  name, written as a type byte, the bytes of the address and, after it, a
  port with its high byte first.  A name has a length byte before it, so
  it has at most 255 bytes.
-/
import Failover.Bytes.Stream
import Failover.Net.IpAddress

namespace Failover.Socks

open Net Bytes

/-- The version byte of every message. -/
def version : UInt8 := 5

/-- Where a client wants to go. -/
inductive Address where
  | ip (address : IpAddress)
  | domain (name : String)
  deriving DecidableEq, Repr

namespace Address

/-! ## §1. Texts. -/

/-- The address that a host text stands for: a numeric one if it spells one, else a name. -/
def ofText (host : String) : Address :=
  match IpAddress.ofText? host with
  | some address => .ip address
  | none => .domain host

/-- The address with a port, as a text. -/
def textWithPort (a : Address) (port : UInt16) : String :=
  match a with
  | .ip (.v6 octets) => "[" ++ (IpAddress.v6 octets).text ++ "]:" ++ toString port.toNat
  | .ip address => address.text ++ ":" ++ toString port.toNat
  | .domain name => name ++ ":" ++ toString port.toNat

/-! ## §2. Bytes. -/

/-- A port with its high byte first. -/
def portBytes (port : UInt16) : List UInt8 := [UInt8.ofNat (port.toNat / 256), UInt8.ofNat port.toNat]

/-- The port of two bytes. -/
def portOfBytes (high low : UInt8) : UInt16 := UInt16.ofNat (high.toNat * 256 + low.toNat)

/-- The type byte and the bytes of an address. -/
def encode : Address → Except Fault (List UInt8)
  | .ip (.v4 octets) => .ok (1 :: octets.bytes)
  | .ip (.v6 octets) => .ok (4 :: octets.bytes)
  | .domain name =>
      let bytes := Text.Utf8.bytesOf name
      if 255 < bytes.length then .error (.connection .domainTooLong)
      else .ok (3 :: UInt8.ofNat bytes.length :: bytes)

/-- The address of some bytes and the port of the two that follow, given what makes an address. -/
def split (make : List UInt8 → Except Fault Address) (n : Nat) (bytes : List UInt8) :
    Except Fault (Address × UInt16) :=
  match make (bytes.take n) with
  | .ok a => .ok (a, portOfBytes (bytes.getD n 0) (bytes.getD (n + 1) 0))
  | .error f => .error f

/-- The address of four bytes. -/
def ofV4 (bytes : List UInt8) : Except Fault Address :=
  match Octets.ofList? 4 bytes with
  | some octets => .ok (.ip (.v4 octets))
  | none => .error (.io .earlyEof)

/-- The address of sixteen bytes. -/
def ofV6 (bytes : List UInt8) : Except Fault Address :=
  match Octets.ofList? 16 bytes with
  | some octets => .ok (.ip (.v6 octets))
  | none => .error (.io .earlyEof)

/-- The name of some bytes. -/
def ofName (bytes : List UInt8) : Except Fault Address :=
  match Text.Utf8.textOf bytes with
  | .ok name => .ok (.domain name)
  | .error m => .error (.parse (.domain m))

/-- Read an address of a type, and a port. -/
def read (type : UInt8) : Exchange (Address × UInt16) := do
  match type with
  | 1 => Exchange.ofResult (split ofV4 4 (← Exchange.readExact 6))
  | 3 =>
      let n := ((← Exchange.readExact 1).headD 0).toNat
      Exchange.ofResult (split ofName n (← Exchange.readExact (n + 2)))
  | 4 => Exchange.ofResult (split ofV6 16 (← Exchange.readExact 18))
  | _ => throw (.protocol (.addressType type))

end Address

end Failover.Socks
