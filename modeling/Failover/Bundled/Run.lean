/-
  Failover.Bundled.Run
  ────────────────────
  **Running as a transport.** The request names a transport; the first of
  those at hand with that name is run.
-/
import Failover.Bundled.Announcer
import Failover.Net.Network

namespace Failover.Bundled

/-- A transport that can be run in this process: its name, and its handshake. -/
structure Bundle where
  name : String
  announce : Announcer → Announcing (Option Telemetry.ReportTarget)

/-- The transport that was asked for, with its announcer.  If there is none by that name this is
told in place of a handshake. -/
def select (env : Environment.Entries) (space : String) (bundles : List Bundle) :
    Announcing (Bundle × Announcer) :=
  let service := Parameter.of env space "service"
  if !service.has then throw (.fault (.config .noService))
  else if !service.is "transport" then throw (.fault (.config (.serviceUnknown service.get)))
  else
    let name := (Parameter.of env space "transport").get
    let announcer : Announcer := ⟨name, env, space⟩
    match bundles.find? (·.name == name) with
    | none => announcer.giveUp "TRANSPORT NOT FOUND"
    | some bundle => pure (bundle, announcer)

/-- Run the transport that was asked for. -/
def run (env : Environment.Entries) (space : String) (bundles : List Bundle) :
    Announcing (Option Telemetry.ReportTarget) := do
  let (bundle, announcer) ← select env space bundles
  bundle.announce announcer

/-- The plain proxy: it listens where it was asked to and connects to any target directly. -/
def socks5 (net : Net.Network) : Bundle where
  name := "socks5"
  announce a := do
    a.version
    match net.bind (a.parameter "bindaddr").bindAddr with
    | .error cause => a.giveUp cause.message
    | .ok address =>
        a.expose "socks5" address.text
        a.done

/-- The transports that come with this program. -/
def shipped (net : Net.Network) : List Bundle := [socks5 net]

end Failover.Bundled
