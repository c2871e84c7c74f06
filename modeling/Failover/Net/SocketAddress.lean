/-
  Failover.Net.SocketAddress
  ──────────────────────────
  **Addresses of endpoints.** A numeric address and a port; an address of
  version 6 stands in brackets and may have a zone.
-/
import Failover.Net.IpAddress

namespace Failover.Net

/-- The address of an endpoint. -/
structure SocketAddress where
  ip : IpAddress
  port : UInt16
  /-- The zone of an address of version 6; nought is none. -/
  zone : Nat
  deriving DecidableEq, Repr

namespace SocketAddress

/-- The text of an endpoint. -/
def text (a : SocketAddress) : String :=
  let port := ":" ++ toString a.port.toNat
  match a.ip with
  | .v4 _ => a.ip.text ++ port
  | .v6 _ =>
      "[" ++ a.ip.text ++ (if a.zone = 0 then "" else "%" ++ toString a.zone) ++ "]" ++ port

/-- A colon and a port. -/
def frontPort : Front UInt16 := fun s => do
  let (_, s) ← mark ':' s
  let (n, s) ← number 10 none true 65536 s
  return (UInt16.ofNat n, s)

/-- A zone behind its mark, if there is one. -/
def frontZone : Front Nat := fun s =>
  match (do
    let (_, s) ← mark '%' s
    number 10 none true UInt32.size s : Option (Nat × List Char)) with
  | some r => some r
  | none => some (0, s)

/-- An endpoint of version 4. -/
def frontSocketV4 : Front SocketAddress := fun s => do
  let (octets, s) ← frontV4 s
  let (port, s) ← frontPort s
  return (⟨.v4 octets, port, 0⟩, s)

/-- An endpoint of version 6. -/
def frontSocketV6 : Front SocketAddress := fun s => do
  let (_, s) ← mark '[' s
  let (octets, s) ← frontV6 s
  let (zone, s) ← frontZone s
  let (_, s) ← mark ']' s
  let (port, s) ← frontPort s
  return (⟨.v6 octets, port, zone⟩, s)

/-- The endpoint that a text spells. -/
def ofText? (text : String) : Option SocketAddress :=
  match entire frontSocketV4 text.toList with
  | some a => some a
  | none => entire frontSocketV6 text.toList

end SocketAddress

end Failover.Net
