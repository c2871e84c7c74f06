/-
  Failover.Bundled.Parameter
  ──────────────────────────
  **What a transport was asked for.** A transport finds its request in its
  environment, one variable of its namespace for each parameter.  A
  variable that is empty counts as one that is not set.
-/
import Failover.Environment
import Failover.Fault

namespace Failover.Bundled

/-- A parameter of the request. -/
structure Parameter where
  env : Environment.Entries
  space : String
  name : String
  /-- The value when the variable is not set. -/
  default : Option String

namespace Parameter

/-- A parameter without a default. -/
def of (env : Environment.Entries) (space name : String) : Parameter := ⟨env, space, name, none⟩

/-- The name of its variable. -/
def variableName (p : Parameter) : String := Environment.variableName p.space p.name

/-- The value of its variable, if that is set. -/
def raw (p : Parameter) : Option String :=
  (Environment.effective? p.env p.variableName).filter (!·.isEmpty)

/-- Whether there is a value that is not empty. -/
def has (p : Parameter) : Bool := p.raw.isSome || p.default.any (!·.isEmpty)

/-- The value: that of the variable, else the default, else nothing. -/
def get (p : Parameter) : String := (p.raw.or p.default).getD ""

/-- Whether the value is a given one, which an empty value never is. -/
def is (p : Parameter) (value : String) : Bool := p.has && p.get == value

/-- The value of the variable, which has to be set; a default does not help. -/
def required (p : Parameter) : Except Fault String :=
  match p.raw with
  | some value => .ok value
  | none => .error (.config (.variableMissing p.variableName))

/-- Where to listen when nothing was asked for: on the own machine, on any free port. -/
def anyLocalPort : String := "127.0.0.1:0"

/-- The value as an endpoint to listen on. -/
def bindAddr (p : Parameter) : String := if p.has then p.get else anyLocalPort

end Parameter

/-- Whether a process was launched as a transport, judged by its environment. -/
def isService (env : Environment.Entries) (space : String) : Bool :=
  (Parameter.of env space "service").has

end Failover.Bundled
