/-
  Failover.Telemetry.Sample
  ─────────────────────────
  **One report of a transport about its traffic.**
-/
import Failover.Json.Record
import Failover.Fault

namespace Failover.Telemetry

/-- A report: the remote addresses with an open connection, the bytes read and written since the
beginning, and the bytes per second since the last report. -/
structure Sample where
  opened : List String
  readTotal : Nat
  writeTotal : Nat
  throughput : Decimal.Double
  deriving DecidableEq, Repr

namespace Sample

/-- The report before there is one. -/
def none : Sample := ⟨[], 0, 0, .zero⟩

/-- The fields of a report. -/
def record : Record where
  title := "TransportTraffic"
  fields := [
    ⟨"opened", [], .texts, Option.none⟩,
    ⟨"readTotal", [], .natural, Option.none⟩,
    ⟨"writeTotal", [], .natural, Option.none⟩,
    ⟨"throughput", [], .double, Option.none⟩]

/-- The report of a document. -/
def ofValues : Values record.fields → Sample
  | (opened, readTotal, writeTotal, throughput, ()) => ⟨opened, readTotal, writeTotal, throughput⟩

/-- The document of a report. -/
def toValues (s : Sample) : Values record.fields :=
  (s.opened, s.readTotal, s.writeTotal, s.throughput, ())

/-- The report as a JSON object. -/
def toJson (s : Sample) : String := String.ofList (Json.writeRecord record.fields s.toValues)

/-- The report that a JSON text spells. -/
def ofJson (bytes : List UInt8) : Except Fault Sample :=
  match Json.recordOf record bytes with
  | .ok vs => .ok (ofValues vs)
  | .error f => .error (.parse (.json f))

end Sample

end Failover.Telemetry
