/-
  Failover.Transport
  ──────────────────
  **Entries of the registry of transports.** A transport is either one of
  those that this program brings along, or a command of its own.
-/
import Failover.Json.Record
import Failover.Fault

namespace Failover

/-- What is launched for a transport: this program, or another one. -/
inductive Program where
  | self
  | command (path : String)
  deriving DecidableEq, Repr

/-- A program as a text. -/
def Program.text : Program → String
  | .self => "<self>"
  | .command path => path

/-- An entry of the registry. -/
structure Transport where
  name : String
  /-- The transport comes with this program. -/
  bundled : Bool
  command : Option String
  args : List String
  /-- The command speaks the pluggable transport protocol of Tor. -/
  torpt : Bool
  deriving DecidableEq, Repr

namespace Transport

/-- A transport that comes with this program. -/
def ofBundled (name : String) : Transport := ⟨name, true, none, [], false⟩

/-- The fields of an entry in a document. -/
def record : Record where
  title := "Transport"
  fields := [
    ⟨"name", [], .text, some ""⟩,
    ⟨"bundled", [], .flag, some false⟩,
    ⟨"command", [], .path, some none⟩,
    ⟨"args", [], .texts, some []⟩,
    ⟨"torpt", [], .flag, some false⟩]

/-- The entry of a document. -/
def ofValues : Values record.fields → Transport
  | (name, bundled, command, args, torpt, ()) => ⟨name, bundled, command, args, torpt⟩

/-- The document of an entry. -/
def toValues (t : Transport) : Values record.fields :=
  (t.name, t.bundled, t.command, t.args, t.torpt, ())

/-- The entry as a JSON object. -/
def toJson (t : Transport) : String :=
  String.ofList (Json.writeRecord record.fields t.toValues)

/-- The entry that a JSON text spells. -/
def ofJson (bytes : List UInt8) : Except Fault Transport :=
  match Json.recordOf record bytes with
  | .ok vs => .ok (ofValues vs)
  | .error f => .error (.parse (.json f))

/-- The program to launch.  An entry that comes with this program needs no command. -/
def program (t : Transport) : Except Fault Program :=
  if t.bundled then .ok .self
  else
    match t.command with
    | some path => if path.isEmpty then .error (.config (.noCommand t.name)) else .ok (.command path)
    | none => .error (.config (.noCommand t.name))

/-- The entry under its name in the registry, which it takes over unless it has one. -/
def named (t : Transport) (name : String) : Transport :=
  if t.name.isEmpty then { t with name := name } else t

/-- What is written of an entry is all of it. -/
theorem ofValues_toValues (t : Transport) : ofValues t.toValues = t := rfl

end Transport

end Failover
