/-
  Failover.Service.Run
  ────────────────────
  **Services as time goes by.** What can happen in a fleet is one of a few
  actions: a process goes on, the task that owns it goes on or heeds a
  request to stop, or time passes.  `step?` says which of them are possible
  and what they do, and leaves open which one comes next.

  `settle` lets things happen in one order: whatever can be done is done at
  once, requests to stop before anything else, and time passes only when
  nothing else can happen.
-/
import Failover.Service.Call

namespace Failover.Service

/-! ## §1. Actions. -/

/-- Something that happens by itself. -/
inductive Action where
  /-- The process of a service goes on. -/
  | child (id : String)
  /-- The task that owns the process goes on. -/
  | owner (id : String)
  /-- The task heeds a request to stop. -/
  | heed (id : String)
  /-- Time passes. -/
  | elapse (ms : Nat)
  deriving DecidableEq, Repr

namespace Fleet

/-- The task that owns the process of a service goes on. -/
def ownerStep? (host : Host) (f : Fleet) (id : String) : Option Fleet :=
  match f.service? id with
  | none => none
  | some s =>
      match s.phase with
      | .deregistering cause =>
          some ((f.deregister id).2.modify id fun s => { s with phase := .exiting cause })
      | _ => (s.advance? host f.clock).map fun s' => f.modify id fun _ => s'

/-- What an action does, if it is possible. -/
def step? (host : Host) (f : Fleet) : Action → Option Fleet
  | .child id => do
      let s ← f.service? id
      let s' ← s.childStep? f.clock
      return f.modify id fun _ => s'
  | .owner id => f.ownerStep? host id
  | .heed id => do
      let s ← f.service? id
      let s' ← s.heed? f.clock
      return f.modify id fun _ => s'
  | .elapse ms => some { f with clock := f.clock + ms }

/-! ## §2. One order. -/

/-- The actions without the passing of time, in the order in which they are tried. -/
def actions (f : Fleet) : List Action :=
  f.services.keys.map .heed ++ f.services.keys.map .owner ++ f.services.keys.map .child

/-- Do the first thing that can be done. -/
def next? (host : Host) (f : Fleet) : Option Fleet := f.actions.findSome? (f.step? host)

/-- The earlier of two times, if there are any. -/
def earlier (a b : Option Nat) : Option Nat :=
  match a, b with
  | some a, some b => some (min a b)
  | a, b => a.or b

/-- When something can be done again if nothing can be done now. -/
def due? (f : Fleet) : Option Nat :=
  f.services.values.foldl (fun t s => earlier t s.due?) none

/-- Let things happen until a condition holds, or until a time. -/
def settleFrom (host : Host) (reached : Fleet → Bool) (deadline : Nat) : Nat → Fleet → Fleet
  | 0, f => f
  | n + 1, f =>
      if reached f then f
      else
        match f.next? host with
        | some f' => settleFrom host reached deadline n f'
        | none =>
            match f.due? with
            | some t =>
                if f.clock < t ∧ t ≤ deadline then
                  settleFrom host reached deadline n { f with clock := t }
                else { f with clock := max f.clock deadline }
            | none => { f with clock := max f.clock deadline }

/-- The most steps that are taken at a time. -/
def mostSteps : Nat := 1000000

/-- Let things happen until a condition holds, for some time at most. -/
def settle (host : Host) (f : Fleet) (ms : Nat) (reached : Fleet → Bool) : Fleet :=
  settleFrom host reached (f.clock + ms) mostSteps f

/-! ## §3. Waiting. -/

/-- How long one waits for anything at most. -/
def patience : Nat := 600000

/-- Let things happen for some time. -/
def pass (host : Host) (f : Fleet) (ms : Nat) : Fleet := f.settle host ms fun _ => false

/-- What the start of a service has come to, if it has. -/
def outcome? (f : Fleet) (id : String) : Option (Except Abort Unit) :=
  (f.service? id).bind (·.outcome)

/-- Wait for the start of a service that was begun. -/
def awaitStart (host : Host) (f : Fleet) (id : String) : Except Abort Unit × Fleet :=
  let f := f.settle host patience fun f => (f.outcome? id).isSome
  ((f.outcome? id).getD (.error (.fault .timeout)), f)

/-- Start a service and wait for its handshake. -/
def start (host : Host) (f : Fleet) (id : String) : Except Abort Unit × Fleet :=
  match f.begin id with
  | (.error cause, f) => (.error (.fault cause), f)
  | (.ok (), f) => f.awaitStart host id

/-- Whether nothing more is to be waited for at a service. -/
def isSettled (f : Fleet) (id : String) : Bool := (f.service? id).all Service.isSettled

/-- Wait until a service has exited, if it is active. -/
def wait (host : Host) (f : Fleet) (id : String) : Fleet :=
  f.settle host patience fun f => f.isSettled id

/-- Stop a service and wait for it. -/
def shutdown (host : Host) (f : Fleet) (id : String) : Fleet := (f.stop id).wait host id

/-- Stop all services of a registry and wait for them. -/
def stopAll (host : Host) (f : Fleet) (registry : String) : Fleet :=
  let ids := f.members registry
  (f.stopEach registry).settle host patience fun f => ids.all f.isSettled

end Fleet

end Failover.Service
