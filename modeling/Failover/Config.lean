/-
  Failover.Config
  ───────────────
  **The configuration.** A configuration is read from a YAML document;
  what it does not tell has a default.  Then it is prepared, which fills in
  what is derived — ids of connections, names of transports, and a fresh
  secret if there is none — and validated.

  What is stored of a configuration is all of it but the ids of its
  connections, which are derived again when it is read back.
-/
import Failover.Connection
import Failover.Manager.Settings
import Failover.Named
import Failover.Net.SocketAddress
import Failover.Transport
import Failover.Yaml.Reading

namespace Failover

/-! ## §1. Settings. -/

/-- The part of a configuration about keeping a transport connected.  Times are in milliseconds. -/
structure ManagerConfig where
  reconnectDelay : Nat
  reverifyInterval : Nat
  probeUrl : String
  probeTimeout : Nat
  /-- Events kept for each connection. -/
  historyLimit : Nat
  /-- Where transports are asked to listen. -/
  proxyBindAddr : String
  /-- The protocol that a transport has to speak there. -/
  expectedProtocol : String
  stopGrace : Nat
  verbose : Bool
  deriving DecidableEq, Repr

/-- A configuration. -/
structure Config where
  /-- Where reports are received. -/
  controllerBindAddr : String
  /-- The secret with which transports report. -/
  authKey : Option String
  /-- The namespace of the variables of processes. -/
  space : String
  logLevel : Option String
  manager : ManagerConfig
  transports : Named Transport
  connections : List Connection
  deriving DecidableEq, Repr

namespace ManagerConfig

/-- The page that is fetched to test a transport. -/
def defaultProbeUrl : String := "http://www.gstatic.com/generate_204"

/-- The settings and their defaults in a document. -/
def record : Record where
  title := "ManagerConfig"
  fields := [
    ⟨"reconnect-delay-ms", [], .natural, some (4000 : Nat)⟩,
    ⟨"reverify-interval-ms", [], .natural, some (10000 : Nat)⟩,
    ⟨"probe-url", [], .text, some defaultProbeUrl⟩,
    ⟨"probe-timeout-ms", [], .natural, some (10000 : Nat)⟩,
    ⟨"history-limit", [], .natural, some (20 : Nat)⟩,
    ⟨"proxy-bind-addr", [], .text, some "127.0.0.1:0"⟩,
    ⟨"expected-protocol", [], .text, some "socks5"⟩,
    ⟨"stop-grace-ms", [], .natural, some (5000 : Nat)⟩,
    ⟨"verbose", [], .flag, some false⟩]

/-- The settings of a document. -/
def ofValues : Values record.fields → ManagerConfig
  | (reconnectDelay, reverifyInterval, probeUrl, probeTimeout, historyLimit, proxyBindAddr,
      expectedProtocol, stopGrace, verbose, ()) =>
      ⟨reconnectDelay, reverifyInterval, probeUrl, probeTimeout, historyLimit, proxyBindAddr,
        expectedProtocol, stopGrace, verbose⟩

/-- The settings when nothing is configured. -/
def standard : ManagerConfig :=
  ⟨4000, 10000, defaultProbeUrl, 10000, 20, "127.0.0.1:0", "socks5", 5000, false⟩

/-- Whether a text begins with another one. -/
def beginsWith (s start : String) : Bool := start.toList.isPrefixOf s.toList

/-- Whether the settings make sense. -/
def validate (m : ManagerConfig) : Except ConfigFault Unit :=
  if m.historyLimit = 0 then .error .historyLimit
  else if m.reconnectDelay = 0 ∨ m.reverifyInterval = 0 then .error .intervals
  else if m.probeTimeout = 0 then .error .probeTimeout
  else if !beginsWith m.probeUrl "http://" && !beginsWith m.probeUrl "https://" then
    .error (.probeUrl m.probeUrl)
  else if m.proxyBindAddr.isEmpty then .error .proxyAddress
  else .ok ()

end ManagerConfig

namespace Config

/-- The name of the transport that comes with this program. -/
def bundledTransport : String := "socks5"

/-- The configuration when nothing is configured. -/
def standard : Config where
  controllerBindAddr := "127.0.0.1:8899"
  authKey := none
  space := Environment.defaultNamespace
  logLevel := some "info"
  manager := .standard
  transports := Named.empty.insert bundledTransport (.ofBundled bundledTransport)
  connections := []

/-! ## §2. Reading. -/

/-- The configuration of a document, as far as the document tells it. -/
def ofDocument (d : Yaml.Document) : Option Config := do
  let ms ← d.members d.root
  let field {α : Type} (name : String) (default : α) (read : Yaml.Node → Option α) : Option α :=
    Yaml.Document.member ms (· == name) (some default) read
  let controllerBindAddr ← field "controller-bind-addr" standard.controllerBindAddr d.text
  let authKey ← field "client-auth-key" standard.authKey d.maybeText
  let space ← field "env-namespace" standard.space d.text
  let logLevel ← field "log-level" standard.logLevel d.maybeText
  let manager ← field "manager" standard.manager fun n =>
    (d.record ManagerConfig.record.fields n).map ManagerConfig.ofValues
  let transports ← field "transports" standard.transports fun n => do
    let entries ← (← d.members n).mapM fun (name, v) =>
      (d.record Transport.record.fields v).map fun vs => (name, Transport.ofValues vs)
    return Named.ofList entries
  let connections ← field "connections" standard.connections fun n => do
    (← d.items n).mapM fun v =>
      (d.record Connection.record.fields v).map Connection.ofValues
  return ⟨controllerBindAddr, authKey, space, logLevel, manager, transports, connections⟩

/-! ## §3. Preparing. -/

/-- The symbols of generated secrets. -/
def keySymbols : List Char :=
  "ABCDEFGHIJKLMNOPQRSTUVWXYZabcdefghijklmnopqrstuvwxyz0123456789".toList

/-- How long they are. -/
def generatedKeyLength : Nat := 32

/-- The secret that comes of drawing one symbol after the other. -/
def generatedKey (draws : Nat → Fin keySymbols.length) : String :=
  String.ofList ((List.range generatedKeyLength).map fun i => keySymbols.get (draws i))

/-- The configuration with all that is derived filled in. -/
def prepare (fresh : String) (c : Config) : Config :=
  { c with
    connections := c.connections.map Connection.withId
    transports := c.transports.map fun name t => t.named name
    authKey := if (c.authKey.getD "").isEmpty then some fresh else c.authKey }

/-- What is stored of a configuration. -/
def stored (c : Config) : Config :=
  { c with connections := c.connections.map fun k => { k with id := "" } }

/-! ## §4. Validating. -/

/-- The endpoint on which reports are received. -/
def controllerAddress (c : Config) : Except ConfigFault Net.SocketAddress :=
  match Net.SocketAddress.ofText? c.controllerBindAddr with
  | some a => .ok a
  | none => .error (.controllerAddress c.controllerBindAddr)

/-- Every transport has to come with this program or to have a command. -/
def validateTransports (ts : List (String × Transport)) : Except ConfigFault Unit :=
  match ts.find? fun t => !t.2.bundled && t.2.command.isNone with
  | some t => .error (.launchless t.1)
  | none => .ok ()

/-- Every connection has to name a transport, and no two may be the same; `seen` are the ids of
those before. -/
def validateConnections : List String → List Connection → Except ConfigFault Unit
  | _, [] => .ok ()
  | seen, k :: rest =>
      if k.transport.isEmpty then .error .connectionWithoutTransport
      else if seen.contains k.id then .error (.duplicateConnection k.displayName)
      else validateConnections (k.id :: seen) rest

/-- Whether the configuration makes sense. -/
def validate (c : Config) : Except ConfigFault Unit := do
  let _ ← c.controllerAddress
  if Environment.keyIsValid c.space then pure () else throw (.namespaceName c.space)
  c.manager.validate
  validateTransports c.transports.pairs
  validateConnections [] c.connections

/-- Why a text is no configuration. -/
inductive LoadFault where
  /-- The text is no document of a configuration. -/
  | unreadable
  | invalid (cause : ConfigFault)
  deriving DecidableEq

/-- Prepare and validate. -/
def accept (fresh : String) (c : Config) : Except LoadFault Config :=
  match (c.prepare fresh).validate with
  | .ok () => .ok (c.prepare fresh)
  | .error cause => .error (.invalid cause)

/-- The configuration of a text. -/
def load (fresh text : String) : Except LoadFault Config :=
  match (Yaml.Document.ofText? text).bind ofDocument with
  | some c => c.accept fresh
  | none => .error .unreadable

/-- A configuration after it was stored and read back. -/
def reload (fresh : String) (c : Config) : Except LoadFault Config := c.stored.accept fresh

/-! ## §5. What follows from a configuration. -/

/-- The secret, or nothing before it is filled in. -/
def secret (c : Config) : String := c.authKey.getD ""

/-- Where transports report their traffic. -/
def callbackUrl (c : Config) : String := "http://" ++ c.controllerBindAddr ++ Service.trafficPath

/-- How processes are launched. -/
def serviceOptions (c : Config) : Service.Options :=
  ⟨c.space, c.secret, c.callbackUrl, c.manager.stopGrace, []⟩

/-- What keeping a transport connected needs to know. -/
def managerSettings (c : Config) : Manager.Settings where
  reconnectDelay := c.manager.reconnectDelay
  reverifyInterval := c.manager.reverifyInterval
  historyLimit := c.manager.historyLimit
  proxyBindAddr := c.manager.proxyBindAddr
  expectedProtocol := c.manager.expectedProtocol
  verbose := c.manager.verbose
  service := c.serviceOptions

/-- The connections that may be tried. -/
def enabled (c : Config) : List Connection := c.connections.filter Connection.isEnabled

end Config

end Failover
