/-
  Failover.Telemetry.Receiver
  ───────────────────────────
  **Receiving reports.** A receiver keeps the latest report that was
  posted with its secret, and shows it to everyone.  A body that is too
  long is refused before anything else about it is looked at; a report
  without the secret changes nothing, whatever it says.
-/
import Failover.Service.Options
import Failover.Telemetry.Report

namespace Failover.Telemetry

open Http

/-- The secret that reports have to show, and the latest report. -/
structure Receiver where
  secret : String
  latest : Option Sample
  deriving DecidableEq, Repr

namespace Receiver

/-- A receiver without a report. -/
def start (secret : String) : Receiver := ⟨secret, none⟩

/-- The most bytes of a body. -/
def bodyLimit : Nat := 2 * 1024 * 1024

/-- Whether a byte is visible ASCII, a blank or a tab. -/
def isVisible (b : UInt8) : Bool := (32 ≤ b && b < 127) || b == 9

/-- Whether the value of a header shows the secret. -/
def admits (r : Receiver) (value : List UInt8) : Bool :=
  value.all isVisible && bearer.isPrefixOf value &&
    value.drop bearer.length == Text.Utf8.bytesOf r.secret

/-- Whether a request shows the secret; of several headers the first one counts. -/
def authorized (r : Receiver) (q : Request) : Bool := (q.header? "authorization").any r.admits

/-- The report that is shown. -/
def shown (r : Receiver) : Sample := r.latest.getD .none

/-- The answer that shows the report. -/
def page (r : Receiver) : Response := ⟨200, some "application/json", none, r.shown.toJson⟩

/-- The answer to a body that is too long. -/
def tooLong : Response :=
  ⟨413, some "text/plain; charset=utf-8", none,
    "Failed to buffer the request body: length limit exceeded"⟩

/-- The methods that are answered. -/
def methods : String := "GET,HEAD,POST"

/-- A report is posted. -/
def accept (r : Receiver) (q : Request) : Response × Receiver :=
  if bodyLimit < q.body.length then (tooLong, r)
  else if !r.authorized q then (.bare 401, r)
  else
    match Sample.ofJson q.body with
    | .ok s => (.bare 200, { r with latest := some s })
    | .error _ => (.bare 400, r)

/-- Answer a request. -/
def respond (r : Receiver) (q : Request) : Response × Receiver :=
  if q.path ≠ Service.trafficPath then (.bare 404, r)
  else
    match q.method with
    | "GET" => (r.page, r)
    | "HEAD" => ({ r.page with body := "" }, r)
    | "POST" => r.accept q
    | _ => ({ Response.bare 405 with allow := some methods }, r)

/-- Answer requests one after the other. -/
def respondAll (r : Receiver) : List Request → List Response × Receiver
  | [] => ([], r)
  | q :: rest =>
      let (a, r') := r.respond q
      let (as, r'') := r'.respondAll rest
      (a :: as, r'')

end Receiver

end Failover.Telemetry
