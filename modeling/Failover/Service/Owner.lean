/-
  Failover.Service.Owner
  ──────────────────────
  **The task that owns the process of a service.** It launches the
  process, reads the handshake, and stores and announces what it learnt.
  From then on it waits for the process to leave or for a request to stop
  it.  In the end it settles the service: removed from its registry if that
  was asked for, and then exited.

  A process that is to leave has its input closed and some time to go by
  itself; then it is terminated.  A process whose handshake failed for
  another reason than its own is not given that time.
-/
import Failover.Host.Basic
import Failover.Service.Basic

namespace Failover.Service

open Handshake
open Host (Child)

/-! ## §1. Parts of a step. -/

/-- The service with its process changed. -/
def withChild (s : Service) (f : Child → Child) : Service := { s with child := s.child.map f }

/-- Whether the process is gone. -/
def childGone (s : Service) : Bool := s.child.all fun c => !c.alive

/-- Close both ends of the process and give it time to leave. -/
def release (s : Service) (now : Nat) (cause : Option Fault) : Service :=
  { s.withChild fun c => c.closeInput.unread with
    phase := .ending cause (now + s.options.stopGrace) }

/-- End the process at once. -/
def kill (s : Service) (cause : Fault) : Service :=
  { s.withChild fun c => c.closeInput.unread.exited with phase := .finishing (some cause) }

/-- The handshake has failed.  A process that gave up itself is given time to leave. -/
def fail (s : Service) (now : Nat) (cause : Fault) : Service :=
  match cause with
  | .negotiation _ => s.release now (some cause)
  | _ => s.kill cause

/-- The handshake has come so far. -/
def proceed (s : Service) (now : Nat) (p : Progress) : Service :=
  match p with
  | .reading n b => { s with phase := .handshaking n b }
  | .done n _ => { s with phase := .answering n }
  | .failed cause => s.fail now cause

/-- Launch the process.  A host whose variables are not all text breaks the task off. -/
def launch (s : Service) (host : Host) (now : Nat) : Service :=
  match host.entries? with
  | none =>
      { s with phase := .broken, outcome := some (.error (.breach .environmentNotText)) }
  | some entries =>
      let env := Environment.build entries s.options.space s.request s.options.authSecret
        s.options.callbackUrl
      match host.launch s.program s.options.args env with
      | .error reason =>
          { s with phase := .finishing (some (.process (.launch s.program.text reason))) }
      | .ok acts =>
          { s with child := some (.launched now acts), phase := .handshaking .empty .empty }

/-- Read what the process wrote, or that it has ended, if there is either. -/
def listen? (s : Service) (now : Nat) (n : Negotiation) (b : Bytes.LineBuffer) : Option Service :=
  match s.child with
  | none => none
  | some c =>
      match c.output with
      | bytes :: rest =>
          some ({ s with child := some { c with output := rest } }.proceed now
            (.drain n (b.push bytes)))
      | [] =>
          if c.alive then none
          else some (s.proceed now (Progress.close (.reading n b) .closed))

/-! ## §2. Steps. -/

/-- The next thing that the task does by itself, if there is anything.  Removing the service from
its registry is left to the registry. -/
def advance? (s : Service) (host : Host) (now : Nat) : Option Service :=
  match s.phase with
  | .launching => some (s.launch host now)
  | .handshaking n b => s.listen? now n b
  | .answering n =>
      some { s with
        response := n.response
        methods := n.methods.map (Method.ofExposed s.id)
        phase := .announcing }
  | .announcing =>
      some { s with lifecycle := .running, outcome := some (.ok ()), phase := .supervising }
  | .supervising =>
      if s.childGone then
        some { s.withChild Child.closeInput with phase := .finishing none }
      else none
  | .ending cause deadline =>
      if s.childGone then some { s with phase := .finishing cause }
      else if deadline ≤ now then some (s.withChild Child.exited)
      else none
  | .finishing cause =>
      some { s with phase := if s.removeOnStop then .deregistering cause else .exiting cause }
  | .exiting cause =>
      some { s with
        lifecycle := .exited
        outcome := match cause with
          | some cause => some (.error (.fault cause))
          | none => s.outcome
        phase := .finished }
  | .none | .deregistering _ | .finished | .broken => none

/-- Heed a request to stop, which the task does while the process introduces itself and while it
runs. -/
def heed? (s : Service) (now : Nat) : Option Service :=
  if s.stopRequested then
    match s.phase with
    | .handshaking .. => some (s.kill (.stopped s.id))
    | .supervising => some (s.release now none)
    | _ => none
  else none

/-- The next thing that the process does. -/
def childStep? (s : Service) (now : Nat) : Option Service :=
  match s.child.bind (·.step? now) with
  | some c => some { s with child := some c }
  | none => none

/-- When the service goes on if it can do nothing now. -/
def due? (s : Service) : Option Nat :=
  let own := match s.phase with
    | .ending _ deadline => some deadline
    | _ => none
  match own, s.child.bind Child.due? with
  | some a, some b => some (min a b)
  | a, b => a.or b

end Failover.Service
