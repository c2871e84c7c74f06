/-
  Failover.Environment
  ────────────────────
  **The variables of a launched process.** A request reaches a transport
  as environment variables in a namespace of its own: the variable of a
  key is the namespace, an underscore and the key in capitals.  What the
  host has in that namespace is hidden; everything else of the host is
  passed on.

  Of two entries of one name the later one counts (`effective?`).  The two
  entries for the telemetry secret and address come last, so a request
  cannot replace them.

  Main statement: `build_congr` — the host's own variables of the
  namespace make no difference.
-/
import Failover.Named

namespace Failover.Environment

/-! ## §1. Names. -/

/-- The namespace when none is given. -/
def defaultNamespace : String := "TSUP"

/-- The argument behind which a transport of this program finds the namespace of its variables. -/
def namespaceFlag : String := "--env-namespace"

/-- The rest of an argument behind the flag and an equals sign. -/
def attachedSpace? (argument : String) : Option String :=
  let start := namespaceFlag ++ "="
  if start.toList.isPrefixOf argument.toList then
    some (String.ofList (argument.toList.drop start.length))
  else none

/-- The namespace that arguments name: the first one behind the flag. -/
def namespaceIn : List String → String
  | [] => defaultNamespace
  | argument :: rest =>
      match attachedSpace? argument, rest with
      | some space, _ => space
      | none, next :: _ => if argument == namespaceFlag then next else namespaceIn rest
      | none, [] => defaultNamespace

/-- The key of the telemetry secret. -/
def secretKey : String := "sauth"

/-- The key of the telemetry address. -/
def callbackKey : String := "saddr"

/-- What the names of a namespace begin with. -/
def namespaceMark (space : String) : String := space ++ "_"

/-- A text with its ASCII letters in capitals. -/
def capitals (s : String) : String := String.ofList (s.toList.map Char.toUpper)

/-- The name of the variable of a key. -/
def variableName (space key : String) : String := namespaceMark space ++ capitals key

/-- Whether a text can be a key: letters, digits and underscores. -/
def keyIsValid (key : String) : Bool :=
  !key.toList.isEmpty && key.toList.all fun c => c.isAlphanum || c == '_'

/-- Whether a name belongs to a namespace. -/
def isInside (space name : String) : Bool :=
  (namespaceMark space).toList.isPrefixOf name.toList

/-! ## §2. The environment of a process. -/

/-- Entries in their order. -/
abbrev Entries := List (String × String)

/-- The value that a process sees: the last entry of a name counts. -/
def effective? (entries : Entries) (name : String) : Option String :=
  (entries.reverse.find? (·.1 == name)).map (·.2)

/-- The entries of the host that are passed on. -/
def passed (host : Entries) (space : String) : Entries :=
  host.filter fun entry => !isInside space entry.1

/-- The entries of a request.  A key that is no name is left out. -/
def requested (space : String) (request : Variables) : Entries :=
  (request.pairs.filter fun p => keyIsValid p.1).map fun p => (variableName space p.1, p.2)

/-- The environment of a process. -/
def build (host : Entries) (space : String) (request : Variables) (secret callback : String) :
    Entries :=
  passed host space ++ requested space request ++
    [(variableName space secretKey, secret), (variableName space callbackKey, callback)]

/-! ## §3. The host's variables of the namespace make no difference. -/

theorem build_congr {host host' : Entries} {space : String}
    (h : passed host space = passed host' space) (request : Variables) (secret callback : String) :
    build host space request secret callback = build host' space request secret callback := by
  rw [build, build, h]

end Failover.Environment
