/-
  Failover.Host.Basic
  ───────────────────
  **The machine on which processes are launched.** A host has variables of
  its own, which are bytes and need not be text, and programs: launching
  one with arguments and an environment either fails or gives the acts of
  a process.
-/
import Failover.Environment
import Failover.Fault
import Failover.Host.Act
import Failover.Transport

namespace Failover

/-- A machine on which processes can be launched. -/
structure Host where
  /-- The names and values of its variables. -/
  environment : List (List UInt8 × List UInt8)
  launch : Program → List String → Environment.Entries → Except IoFault (List Host.Act)

/-- The variables of a host as text, if all of them are. -/
def Host.entries? (h : Host) : Option Environment.Entries :=
  h.environment.mapM fun (name, value) =>
    match Text.Utf8.textOf name, Text.Utf8.textOf value with
    | .ok name, .ok value => some (name, value)
    | _, _ => none

/-- The variables that entries give. -/
def Host.variablesOf (entries : Environment.Entries) : List (List UInt8 × List UInt8) :=
  entries.map fun (name, value) => (Text.Utf8.bytesOf name, Text.Utf8.bytesOf value)

end Failover
