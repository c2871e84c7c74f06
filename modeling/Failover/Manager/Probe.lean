/-
  Failover.Manager.Probe
  ──────────────────────
  **Testing a transport.** A probe tells whether the internet is reached
  through an endpoint.  The usual probe fetches a page through it, and
  takes any answer that tells success.
-/
import Failover.Http.Fetch

namespace Failover.Manager

/-- A probe: how many milliseconds it takes, and what it tells of an endpoint when it is asked for
the `n`-th time. -/
structure Probe where
  duration : Nat
  outcome : Nat → String → Except Fault Unit

/-- Fetch a page through an endpoint. -/
def fetchPage (net : Net.Network) (url endpoint : String) : Except Fault Unit :=
  match Http.fetchThrough net endpoint url with
  | .error f => .error f
  | .ok answer =>
      if answer.isSuccess then .ok () else .error (.http (.probeRefused answer.status))

/-- The probe that fetches a page. -/
def Probe.page (net : Net.Network) (url : String) : Probe where
  duration := 0
  outcome _ endpoint := fetchPage net url endpoint

end Failover.Manager
