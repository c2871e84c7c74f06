/-
  Failover.Bundled.Announcer
  ──────────────────────────
  **A transport introduces itself.** An announcer writes the lines of the
  handshake for one method: the version, then endpoints and proxies, then
  that it is done, or why it gave up.

  A line is written in two steps, its text and its newline, and each of
  them is written whole or not at all.  The reason for giving up may hold
  anything; what no line may hold is written as a question mark.
-/
import Failover.Bundled.Parameter
import Failover.Handshake.Message
import Failover.Telemetry.Report

namespace Failover.Bundled

/-! ## §1. Where the lines go. -/

/-- What was written, and how many bytes there may be of it. -/
structure Outlet where
  written : List UInt8
  limit : Option Nat
  deriving DecidableEq, Repr

/-- An outlet without a limit to which nothing was written. -/
def Outlet.open : Outlet := ⟨[], none⟩

/-- Writing to an outlet. -/
abbrev Announcing (α : Type) : Type := EStateM Abort Outlet α

/-- Write bytes, all of them or none. -/
def write (bytes : List UInt8) : Announcing Unit := fun o =>
  let written := o.written ++ bytes
  if o.limit.any (· < written.length) then .error (.fault (.io .brokenPipe)) o
  else .ok () { o with written := written }

/-- Write the line of a message, which has to be safe. -/
def writeMessage (m : Handshake.Message) : Announcing Unit := fun o =>
  match m.line with
  | .error b => .error (.breach b) o
  | .ok line => (do write (Text.Utf8.bytesOf line); write [10] : Announcing Unit) o

/-! ## §2. Announcers. -/

/-- The version of the handshake. -/
def protocolVersion : String := "1.0"

/-- A method, and the environment in which it was asked for. -/
structure Announcer where
  method : String
  env : Environment.Entries
  space : String

/-- A text with a question mark for each character that no line may hold. -/
def sanitized (text : String) : String :=
  String.ofList (text.toList.map fun c => if Handshake.isArgChar c then c else '?')

namespace Announcer

/-- A parameter of the request. -/
def parameter (a : Announcer) (name : String) : Parameter := .of a.env a.space name

/-- Whether the method is the one that was asked for. -/
def handles (a : Announcer) : Bool :=
  (a.parameter "service").is "transport" && (a.parameter "transport").is a.method

/-- Give up: write why, as far as the outlet takes it, and fail with it. -/
def giveUp {α : Type} (a : Announcer) (text : String) : Announcing α := fun o =>
  let why := sanitized text
  let failed : Abort := .fault (.negotiation why)
  -- The line has the method as an argument of its own before the reason.
  match Handshake.format "ERROR" [a.method, why] with
  | .error b => .error (.breach b) o
  | .ok line =>
      match (do write (Text.Utf8.bytesOf line); write [10] : Announcing Unit) o with
      | .ok () o' => .error failed o'
      | .error _ o' => .error failed o'

/-- Open the handshake.  A process that was not launched as a service gives up at once. -/
def version (a : Announcer) : Announcing Unit := do
  writeMessage (.version protocolVersion)
  match (a.parameter "service").required with
  | .ok _ => pure ()
  | .error f => a.giveUp f.detail

/-- Name an endpoint. -/
def expose (a : Announcer) (protocol address : String) : Announcing Unit :=
  writeMessage (.expose a.method protocol address)

/-- Name a proxy. -/
def parent (a : Announcer) (protocol address : String) : Announcing Unit :=
  writeMessage (.parent a.method protocol address)

/-- Where to report traffic, if the request says so. -/
def reportTarget (a : Announcer) : Option Telemetry.ReportTarget :=
  let secret := a.parameter Environment.secretKey
  let url := a.parameter Environment.callbackKey
  if secret.has && url.has then some ⟨url.get, secret.get⟩ else none

/-- Finish the handshake; from now on traffic is reported to the target. -/
def done (a : Announcer) : Announcing (Option Telemetry.ReportTarget) := do
  writeMessage .done
  return a.reportTarget

end Announcer

end Failover.Bundled
