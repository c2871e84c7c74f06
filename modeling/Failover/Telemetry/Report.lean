/-
  Failover.Telemetry.Report
  ─────────────────────────
  **Posting reports.** A transport reports its traffic to the address that
  it was given, and shows the secret that it was given with it.
-/
import Failover.Http.Fetch
import Failover.Telemetry.Sample

namespace Failover.Telemetry

/-- Where a transport reports its traffic, and the secret to show. -/
structure ReportTarget where
  url : String
  secret : String
  deriving DecidableEq, Repr

/-- What stands before a secret that is shown. -/
def bearer : List UInt8 := Text.Utf8.bytesOf "Bearer "

/-- The header that shows a secret. -/
def authorization (secret : String) : String × List UInt8 :=
  ("authorization", bearer ++ Text.Utf8.bytesOf secret)

/-- Whether a byte may stand in a header. -/
def isHeaderByte (b : UInt8) : Bool := (32 ≤ b && b != 127) || b == 9

namespace ReportTarget

/-- The request that posts a report to a path. -/
def request (t : ReportTarget) (path : String) (s : Sample) : Http.Request :=
  ⟨"POST", path,
    [authorization t.secret, ("content-type", Text.Utf8.bytesOf "application/json")],
    Text.Utf8.bytesOf s.toJson⟩

/-- Post a report. -/
def post (t : ReportTarget) (net : Net.Network) (s : Sample) : Except Fault Unit :=
  match Http.Url.ofText? t.url with
  | none => .error (.http .failed)
  | some url =>
      if !(authorization t.secret).2.all isHeaderByte then .error (.http .failed)
      else
        match Http.ask net url (t.request url.target s) with
        | .error f => .error f
        | .ok answer =>
            if answer.isError then .error (.http (.statusRefused answer.status t.url)) else .ok ()

end ReportTarget

end Failover.Telemetry
