/-
  Failover.Config.Storage
  ───────────────────────
  **A configuration as it is stored.**  A configuration is saved as a
  document with all of its settings, whether they are the default or not,
  each under its own name.  The ids of connections are left out.

  The document is laid out by a writer that is given.  The transports have
  no order of their own, so they are written in any order.
-/
import Failover.Config
import Failover.Yaml.Value

namespace Failover

/-- What a document holds of the settings. -/
def ManagerConfig.toValues (m : ManagerConfig) : Values ManagerConfig.record.fields :=
  (m.reconnectDelay, m.reverifyInterval, m.probeUrl, m.probeTimeout, m.historyLimit,
    m.proxyBindAddr, m.expectedProtocol, m.stopGrace, m.verbose, ())

/-- What is written of the settings is all of them. -/
theorem ManagerConfig.ofValues_toValues (m : ManagerConfig) : ofValues m.toValues = m := rfl

namespace Config

open Yaml

/-! ## §1. The document. -/

/-- The transports as data, in an order. -/
def transportData (order : List (String × Transport)) : Value :=
  .mapping (order.map fun p => (p.1, .ofRecord Transport.record.fields p.2.toValues))

/-- The connections as data. -/
def connectionData (connections : List Connection) : Value :=
  .list (connections.map fun k => .ofRecord Connection.record.fields k.toValues)

/-- The members of the document of a configuration, with its transports in an order. -/
def dataMembers (c : Config) (order : List (String × Transport)) : List (String × Value) :=
  [("controller-bind-addr", .text c.controllerBindAddr),
    ("client-auth-key", .maybeText c.authKey),
    ("env-namespace", .text c.space),
    ("log-level", .maybeText c.logLevel),
    ("manager", .ofRecord ManagerConfig.record.fields c.manager.toValues),
    ("transports", transportData order),
    ("connections", connectionData c.connections)]

/-- A configuration as data. -/
def data (c : Config) (order : List (String × Transport)) : Value := .mapping (c.dataMembers order)

/-! ## §2. The file. -/

/-- What a file holds after a configuration was saved to it. -/
def saved (write : Value → String) (c : Config) (order : List (String × Transport)) : List UInt8 :=
  Text.Utf8.bytesOf (write (c.data order))

end Config

end Failover
