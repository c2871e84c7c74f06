/-
  Failover.Supervisor
  ───────────────────
  **A configuration at work.** A supervisor keeps one of the configured
  connections up, and receives the reports of its transports.  When it is
  shut down, the manager stops first, and then every service that is left.

  Main statement: `create_eq_error_iff` — a configuration fails to be set
  to work just when it names no address for reports.
-/
import Failover.Config
import Failover.Manager.Run
import Failover.Telemetry.Receiver

namespace Failover

/-- A configuration and what it has set to work. -/
structure Supervisor where
  config : Config
  /-- Where reports are received. -/
  address : Net.SocketAddress
  receiver : Telemetry.Receiver
  manager : Manager

namespace Supervisor

/-- The registry of all services of a supervisor. -/
def registry : String := "services"

/-- Set a configuration to work. -/
def create (shuffle : Manager.Shuffle) (c : Config) : Except ConfigFault Supervisor :=
  match c.controllerAddress with
  | .error cause => .error cause
  | .ok address => .ok {
      config := c
      address := address
      receiver := .start c.secret
      manager := .create c.managerSettings .empty registry c.transports shuffle c.connections }

/-- How the connection that is up is tested. -/
def probe (s : Supervisor) (net : Net.Network) : Manager.Probe :=
  .page net s.config.manager.probeUrl

/-- Stop the manager, and then every service that is left. -/
def shutdown (host : Host) (net : Net.Network) (s : Supervisor) : Supervisor :=
  let probe := s.probe net
  { s with manager := (s.manager.stop host probe).stopServices host probe }

/-- The services that run. -/
def running (s : Supervisor) : List Service.Info :=
  (s.manager.fleet.allServices registry).filter (·.running)

/-- A configuration fails to be set to work just when it names no address for reports. -/
theorem create_eq_error_iff (shuffle : Manager.Shuffle) (c : Config) (cause : ConfigFault) :
    create shuffle c = .error cause ↔ c.controllerAddress = .error cause := by
  unfold create
  split <;> simp_all

end Supervisor

end Failover
