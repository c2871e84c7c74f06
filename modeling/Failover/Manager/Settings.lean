/-
  Failover.Manager.Settings
  ─────────────────────────
  **What keeping a transport connected needs to know.**
-/
import Failover.Service.Options

namespace Failover.Manager

/-- The settings of a manager.  Times are in milliseconds. -/
structure Settings where
  /-- How long to wait after an attempt before the next one. -/
  reconnectDelay : Nat
  /-- How often a connection that is up is tested again. -/
  reverifyInterval : Nat
  /-- How many events of a connection are kept. -/
  historyLimit : Nat
  /-- Where transports are asked to listen. -/
  proxyBindAddr : String
  /-- The protocol that a transport has to speak there. -/
  expectedProtocol : String
  /-- Whether transports are asked to tell more about what they do. -/
  verbose : Bool
  service : Service.Options
  deriving DecidableEq, Repr

/-- The settings when nothing is configured. -/
def Settings.standard : Settings :=
  ⟨4000, 10000, 20, "127.0.0.1:0", "socks5", false, .standard⟩

end Failover.Manager
