/-
  Failover.Service.Options
  ────────────────────────
  **How the processes of an installation are launched.**
-/
import Failover.Environment

namespace Failover.Service

/-- What all processes of an installation have in common. -/
structure Options where
  /-- The namespace of their variables. -/
  space : String
  /-- The secret with which they report their traffic. -/
  authSecret : String
  /-- Where they report it. -/
  callbackUrl : String
  /-- How many milliseconds a process has to leave on its own. -/
  stopGrace : Nat
  /-- Arguments before those of the transport. -/
  args : List String
  deriving DecidableEq, Repr

/-- The path on which reports are received. -/
def trafficPath : String := "/api/transports/traffic/"

/-- The options when nothing is configured. -/
def Options.standard : Options :=
  ⟨Environment.defaultNamespace, "", "http://127.0.0.1:8899" ++ trafficPath, 5000, []⟩

end Failover.Service
