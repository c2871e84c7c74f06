/-
  Failover.Connection
  ───────────────────
  **Connections that a user has saved.** A connection names a transport
  and holds the secret and the address that the transport needs.  Its id is
  derived from these three texts, so the same connection is recognised
  after a restart; the id itself is never written anywhere.

  A connection can be shared as one text without blanks: two characters
  that tell the version of the form, then the three texts as a JSON object
  in base64.  Flags and id are not shared.
-/
import Failover.Bytes.Sha256
import Failover.Json.Record
import Failover.Text.Blank
import Failover.Fault

namespace Failover

/-! ## §1. Connections and their ids. -/

/-- A saved connection. -/
structure Connection where
  transport : String
  secret : String
  addr : String
  /-- A disabled connection is never tried. -/
  disabled : Bool
  /-- A user cannot delete the connection. -/
  undeletable : Bool
  /-- Derived from the three texts, or empty as long as it is not. -/
  id : String
  deriving DecidableEq, Repr

namespace Connection

/-- The text that an id is the digest of: each part behind a label. -/
def idSource (transport secret addr : String) : List UInt8 :=
  Text.Utf8.bytesOf "ADDR" ++ Text.Utf8.bytesOf addr ++
    Text.Utf8.bytesOf "TRANSPORT" ++ Text.Utf8.bytesOf transport ++
    Text.Utf8.bytesOf "SECRET" ++ Text.Utf8.bytesOf secret

/-- The id that belongs to three texts. -/
def derivedId (transport secret addr : String) : String :=
  String.ofList (Bytes.Base64.encodeBare (Bytes.Sha256.digest (idSource transport secret addr)))

/-- The connection with its id, derived unless it is there. -/
def withId (c : Connection) : Connection :=
  if c.id.isEmpty then { c with id := derivedId c.transport c.secret c.addr } else c

/-- A connection without flags, its id derived. -/
def make (transport secret addr : String) : Connection :=
  withId ⟨transport, secret, addr, false, false, ""⟩

/-- Whether the connection may be tried. -/
def isEnabled (c : Connection) : Bool := !c.disabled

/-- A short name for people: the beginning of the id, and the transport. -/
def displayName (c : Connection) : String :=
  String.ofList (c.id.toList.take 8) ++ " (" ++ c.transport ++ ")"

/-! ## §2. Documents. -/

/-- The fields of a connection in a document. -/
def record : Record where
  title := "Connection"
  fields := [
    ⟨"transport", ["t"], .text, none⟩,
    ⟨"secret", ["s"], .text, some ""⟩,
    ⟨"addr", ["a"], .text, some ""⟩,
    ⟨"disabled", [], .flag, some false⟩,
    ⟨"protected", [], .flag, some false⟩]

/-- The connection of a document, without an id. -/
def ofValues : Values record.fields → Connection
  | (transport, secret, addr, disabled, undeletable, ()) =>
      ⟨transport, secret, addr, disabled, undeletable, ""⟩

/-- What a document holds of a connection. -/
def toValues (c : Connection) : Values record.fields :=
  (c.transport, c.secret, c.addr, c.disabled, c.undeletable, ())

/-- The connection as a JSON object. -/
def toJson (c : Connection) : String :=
  String.ofList (Json.writeRecord record.fields c.toValues)

/-- The connection that a JSON text spells, without an id. -/
def ofJson (bytes : List UInt8) : Except Fault Connection :=
  match Json.recordOf record bytes with
  | .ok vs => .ok (ofValues vs)
  | .error f => .error (.parse (.json f))

/-! ## §3. The shared form. -/

/-- The fields of a shared connection. -/
def sharedRecord : Record where
  title := "SharedConnection"
  fields := [⟨"t", [], .text, none⟩, ⟨"s", [], .text, none⟩, ⟨"a", [], .text, none⟩]

/-- The characters that tell the version of the form. -/
def version : List Char := ['a', 'i']

/-- The document inside a shared connection. -/
def sharedDocument (c : Connection) : List Char :=
  Json.writeRecord sharedRecord.fields (c.transport, c.secret, c.addr, ())

/-- The connection as one text to be shared. -/
def encode (c : Connection) : String :=
  String.ofList (version ++ Bytes.Base64.encode (Text.Utf8.encode c.sharedDocument))

/-- The connection that a shared text stands for; blanks around it do not count. -/
def decode (text : String) : Except Fault Connection :=
  let s := Text.trimChars text.toList
  if (Text.Utf8.encode s).length < 3 then .error (.parse .tooShort)
  else if s.take 2 ≠ version then .error (.parse .unknownVersion)
  else
    match Bytes.Base64.decode (Text.Utf8.encode (s.drop 2)) with
    | .error f => .error (.parse (.base64 f))
    | .ok document =>
        match Json.recordOf sharedRecord document with
        | .error f => .error (.parse (.sharedJson f))
        | .ok (transport, secret, addr, ()) => .ok (make transport secret addr)

/-! ## §4. Ids. -/

/-- An id that is there stays. -/
theorem withId_of_nonempty {c : Connection} (h : c.id.isEmpty = false) : c.withId = c := by
  simp [withId, h]

/-- Reading back what a document holds of a connection forgets its id and nothing else. -/
theorem ofValues_toValues (c : Connection) : ofValues c.toValues = { c with id := "" } := rfl

end Connection

end Failover
