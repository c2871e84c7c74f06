/-
  Failover.Service.Basic
  ──────────────────────
  **A supervised process and what is known of it.** A service is one
  launch of a program.  It is idle until it is started, then starting while
  the process introduces itself, running, and exited in the end; it is
  never started twice.  Its request may be filled in only while it is idle,
  and what the process answered is there once it runs.

  The last fields are the business of the task that owns the process
  (`Failover.Service.Owner`).
-/
import Failover.Handshake.Reading
import Failover.Host.Child
import Failover.Service.Options
import Failover.Transport

namespace Failover.Service

/-! ## §1. Lifecycle. -/

/-- How far a service has come. -/
inductive Lifecycle where
  | idle
  | starting
  | running
  | exited
  deriving DecidableEq, Repr

/-- Whether there is or will be a process that can be stopped. -/
def Lifecycle.isActive : Lifecycle → Bool
  | .starting | .running => true
  | .idle | .exited => false

/-! ## §2. What a service tells. -/

/-- An endpoint of a service. -/
structure Method where
  id : String
  name : String
  protocol : String
  bindAddr : String
  /-- The id of its service. -/
  service : String
  deriving DecidableEq, Repr

/-- The method of a service for an endpoint that its process named. -/
def Method.ofExposed (service : String) (e : Handshake.Exposed) : Method :=
  ⟨service ++ "/" ++ e.name, e.name, e.protocol, e.bindAddr, service⟩

/-- What is known of a service at one time. -/
structure Info where
  id : String
  name : String
  program : Program
  running : Bool
  request : Variables
  response : Variables
  methods : List Method
  deriving DecidableEq, Repr

/-! ## §3. Services. -/

/-- Where the task stands that owns the process of a service.  A cause is why the start fails, and
there is none once it has succeeded. -/
inductive Phase where
  /-- There is no such task. -/
  | none
  /-- The start has begun, and nothing is launched yet. -/
  | launching
  /-- The process introduces itself. -/
  | handshaking (negotiation : Handshake.Negotiation) (buffer : Bytes.LineBuffer)
  /-- It has, and what it told is not stored yet. -/
  | answering (negotiation : Handshake.Negotiation)
  /-- What it told is stored, and the service does not count as running yet. -/
  | announcing
  /-- The process runs. -/
  | supervising
  /-- The process was asked to leave, and is made to at a time. -/
  | ending (cause : Option Fault) (deadline : Nat)
  /-- The process is gone, and whether the service is to be removed is not looked up yet. -/
  | finishing (cause : Option Fault)
  /-- The service is to be removed from its registry. -/
  | deregistering (cause : Option Fault)
  /-- The service does not count as exited yet. -/
  | exiting (cause : Option Fault)
  /-- All is done. -/
  | finished
  /-- The task broke off. -/
  | broken

end Service

/-- A service. -/
structure Service where
  protected id : String
  name : String
  program : Program
  options : Service.Options
  /-- The registry that it was created in. -/
  home : String
  request : Variables
  response : Variables
  methods : List Service.Method
  lifecycle : Service.Lifecycle
  stopRequested : Bool
  removeOnStop : Bool
  phase : Service.Phase
  child : Option Host.Child
  /-- What the start has come to, once it has. -/
  outcome : Option (Except Abort Unit)

namespace Service

/-- A service that was not started. -/
def create (id name : String) (program : Program) (options : Options) (home : String) : Service where
  id := id
  name := name
  program := program
  options := options
  home := home
  request := .empty
  response := .empty
  methods := []
  lifecycle := .idle
  stopRequested := false
  removeOnStop := false
  phase := .none
  child := none
  outcome := none

/-- Whether the process runs and has introduced itself. -/
def running (s : Service) : Bool := s.lifecycle == .running

/-- Whether there is or will be a process that can be stopped. -/
def isActive (s : Service) : Bool := s.lifecycle.isActive

/-- Whether nothing more is to be waited for. -/
def isSettled (s : Service) : Bool := s.lifecycle == .idle || s.lifecycle == .exited

/-- Set a variable of the request, which is possible only before the start. -/
def setVar (s : Service) (key value : String) : Except Fault Service :=
  if s.lifecycle ≠ .idle then .error (.alreadyRunning .setVariable)
  else if !Environment.keyIsValid key then .error (.config (.variableName key))
  else .ok { s with request := s.request.insert key value }

/-- A variable of the request. -/
def var? (s : Service) (key : String) : Option String := s.request.get? key

/-- What is known of the service. -/
def info (s : Service) : Info :=
  ⟨s.id, s.name, s.program, s.running, s.request, s.response, s.methods⟩

/-- Begin the start.  Only an idle service can be started. -/
def begin (s : Service) : Except Fault Service :=
  match s.lifecycle with
  | .idle => .ok { s with lifecycle := .starting, phase := .launching }
  | .exited => .error (.process (.exited s.id))
  | _ => .error (.alreadyRunning .start)

/-- Ask for the process to be stopped; asking again changes nothing. -/
def requestStop (s : Service) : Service := { s with stopRequested := true }

/-- Have the service removed when it has stopped. -/
def requestRemoval (s : Service) : Service := { s with removeOnStop := true }

/-- A variable that was set is found. -/
theorem var?_setVar {s s' : Service} {key value : String} (h : s.setVar key value = .ok s')
    (k : String) : s'.var? k = if k = key then some value else s.var? k := by
  unfold setVar at h
  split at h
  · cases h
  · split at h
    · cases h
    · cases h
      exact Named.get?_insert s.request key value k

/-- A service can be started only once. -/
theorem begin_begin {s s' : Service} (h : s.begin = .ok s') :
    s'.begin = .error (.alreadyRunning .start) := by
  unfold begin at h
  split at h <;> cases h
  rfl

-- Compatibility names, for programs that look for the type among the others of this module.
export Failover (Service)

namespace Service

export Failover.Service (info)

end Service

end Failover.Service
