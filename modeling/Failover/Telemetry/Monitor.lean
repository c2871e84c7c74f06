/-
  Failover.Telemetry.Monitor
  ──────────────────────────
  **Counting traffic.** A monitor has two counters, of the bytes read and
  of the bytes written, and for each remote address the number of its open
  connections.  The counters have 64 bits and start again at nought; a
  reading of the monitor needs their sum, and is refused when the sum does
  not fit.

  Closing a connection takes two steps, which others may come between: one
  connection less, and then the address is dropped if it has none left.
-/
import Failover.Named
import Failover.Fault

namespace Failover.Telemetry

/-- Counters and open connections. -/
structure Monitor where
  read : UInt64
  written : UInt64
  /-- How many connections to each remote address are open. -/
  counts : Named Nat
  /-- The sum of the counters at the last reading. -/
  reported : Nat
  deriving DecidableEq, Repr

/-- What a monitor tells at one time. -/
structure Reading where
  opened : List String
  readTotal : Nat
  writeTotal : Nat
  /-- The bytes since the last reading, from which the throughput is taken. -/
  gained : Nat
  deriving DecidableEq, Repr

namespace Monitor

/-- A monitor that has seen nothing. -/
def start : Monitor := ⟨0, 0, .empty, 0⟩

/-! ## §1. Bytes. -/

/-- Count bytes that were read. -/
def addRead (m : Monitor) (n : Nat) : Monitor := { m with read := m.read + UInt64.ofNat n }

/-- Count bytes that were written. -/
def addWritten (m : Monitor) (n : Nat) : Monitor := { m with written := m.written + UInt64.ofNat n }

/-- Both counters. -/
def totals (m : Monitor) : Nat × Nat := (m.read.toNat, m.written.toNat)

/-! ## §2. Connections. -/

/-- How many connections to an address are open. -/
def count (m : Monitor) (addr : String) : Nat := (m.counts.get? addr).getD 0

/-- A connection to an address opens. -/
def track (m : Monitor) (addr : String) : Monitor :=
  { m with counts := m.counts.insert addr (m.count addr + 1) }

/-- The first step of closing: one connection less.  It tells whether that was the last one. -/
def lower (m : Monitor) (addr : String) : Bool × Monitor :=
  match m.counts.get? addr with
  | none => (false, m)
  | some n => (n - 1 == 0, { m with counts := m.counts.insert addr (n - 1) })

/-- The second step of closing: an address without connections is dropped. -/
def sweep (m : Monitor) (addr : String) : Monitor :=
  if m.counts.get? addr = some 0 then { m with counts := m.counts.erase addr } else m

/-- A connection to an address closes: the second step is taken if the connection was the last. -/
def release (m : Monitor) (addr : String) : Monitor :=
  let (last, m') := m.lower addr
  if last then m'.sweep addr else m'

/-- The addresses with open connections, sorted. -/
def opened (m : Monitor) : List String := (m.counts.pairs.filter (0 < ·.2)).map (·.1)

/-! ## §3. Readings. -/

/-- Take a reading.  A sum that does not fit into 64 bits is refused, and changes nothing. -/
def snapshot (m : Monitor) : Except Breach Reading × Monitor :=
  let total := m.read.toNat + m.written.toNat
  if UInt64.size ≤ total then (.error .sumOverflow, m)
  else
    (.ok ⟨m.opened, m.read.toNat, m.written.toNat, total - m.reported⟩,
      { m with reported := total })

end Monitor

end Failover.Telemetry
