/-
  Failover.Manager.Attempt
  ────────────────────────
  **Attempts to connect, step by step.** An attempt first takes the active
  carrier away and waits until it has exited.  Then it sets up a carrier
  for its connection, starts it, makes it the active one if it speaks the
  expected protocol, and tests it.  Whatever goes wrong on the way is told,
  and so is the end; a connection that is up has no end yet.

  A step is one access to something that others may change.
-/
import Failover.Manager.Basic
import Failover.Manager.Probe

namespace Failover.Manager

open Service

/-! ## §1. Tests. -/

/-- The states of a connection whose test failed. -/
def failedStates : List State := [.testFailed, .failed, .ended]

/-- The states of a connection that has no endpoint to test. -/
def inactiveStates : List State := [.testFailed, .notConfigured, .ended]

/-- The states of a connection whose test succeeded. -/
def passedStates (before : State) : List State := if before = .up then [] else [.up]

/-- The next step of a test, if it can go on. -/
def Check.step? (probe : Probe) (c : Check) (m : Manager) : Option (Check × Manager) :=
  match c.phase with
  | .looking =>
      let endpoint := m.currentBindAddr
      -- Another carrier has taken the place of the one to test.
      if m.active.any fun k => k.connection.id != c.event.connection.id then
        some ({ c with phase := .finished }, m)
      else
        match endpoint with
        | none =>
            some ({ c with phase := .telling inactiveStates }, { m with transportOk := false })
        | some addr =>
            let phase := CheckPhase.probing (probe.outcome m.probes addr) (m.clock + probe.duration)
            some ({ c with phase }, { m with probes := m.probes + 1 })
  | .probing outcome due =>
      if m.clock < due then none
      else
        match outcome with
        | .ok () =>
            some ({ c with phase := .telling (passedStates c.event.state) },
              { m with transportOk := true })
        | .error _ =>
            some ({ c with phase := .telling failedStates }, { m with transportOk := false })
  | .telling [] => some ({ c with phase := .finished }, m)
  | .telling (s :: rest) =>
      match c.event.next s with
      | .ok e => some (⟨e, .telling rest⟩, m.tell e)
      | .error _ => some ({ c with phase := .broken }, m)
  | .finished | .broken => none

/-- When a test goes on. -/
def Check.due? (c : Check) : Option Nat :=
  match c.phase with
  | .probing _ due => some due
  | _ => none

/-! ## §2. Carriers. -/

/-- Set up a carrier for a connection, as the settings tell. -/
def build (m : Manager) (c : Connection) (t : Transport) : Except Fault Carrier × Manager :=
  let settings := m.loop.settings
  let at_ (f : Fleet) : Manager := { m with fleet := f }
  match Carrier.create m.fleet m.registry m.freshId c t settings.service with
  | (.error cause, f) => (.error cause, at_ f)
  | (.ok k, f) =>
      match k.setBindAddr f settings.proxyBindAddr with
      | (.error cause, f) => (.error cause, at_ f)
      | (.ok (), f) =>
          if settings.verbose then
            match k.setVerbose f with
            | (.error cause, f) => (.error cause, at_ f)
            | (.ok (), f) => (.ok k, at_ f)
          else (.ok k, at_ f)

/-! ## §3. Attempts. -/

namespace Attempt

/-- The phase that follows when all states are told. -/
def after (e : Event) : Goal → AttemptPhase
  | .building => .building e
  | .launching k => .launching e k
  | .testing => .testing ⟨e, .looking⟩
  | .finished => .finished

/-- The carrier of an attempt failed to start. -/
def giveUp (e : Event) (k : Carrier) : AttemptPhase :=
  .discarding e k.service .checking [.failed, .ended]

/-- The next phase of an attempt with what it does to the manager, if it can go on. -/
def advance? (probe : Probe) (a : Attempt) (m : Manager) : Option (AttemptPhase × Manager) :=
  match a.phase with
  | .detaching => some (.clearing m.active, { m with active := none })
  | .clearing previous =>
      let m := { m with transportOk := false }
      match previous with
      | none => some (.opening, m)
      | some k => some (.removing k .checking, m)
  | .removing k call =>
      let (call, f) := call.step k.service m.fleet
      let m := { m with fleet := f }
      match call.result? with
      | some _ => some (.awaiting k, m)
      | none => some (.removing k call, m)
  | .awaiting k => if m.fleet.isSettled k.service then some (.opening, m) else none
  | .opening =>
      let e := Event.first a.connection
      some (.telling e [.serviceInit] .building, m.tell e)
  | .telling e [] goal => some (after e goal, m)
  | .telling e (s :: rest) goal =>
      match e.next s with
      | .ok e => some (.telling e rest goal, m.tell e)
      | .error _ => some (.broken, m)
  | .building e =>
      match a.transport with
      | none => some (.telling e [.notConfigured, .ended] .finished, m)
      | some t =>
          match build m a.connection t with
          | (.error _, m) => some (.telling e [.failed, .ended] .finished, m)
          | (.ok k, m) =>
              some (.telling { e with service := some k.service } [.serviceStart] (.launching k), m)
  | .launching e k =>
      match m.fleet.begin k.service with
      | (.ok (), f) => some (.starting e k, { m with fleet := f })
      | (.error _, f) => some (giveUp e k, { m with fleet := f })
  | .starting e k =>
      match m.fleet.outcome? k.service with
      | none => none
      | some (.ok ()) => some (.judging e k, m)
      | some (.error (.fault _)) => some (giveUp e k, m)
      | some (.error (.breach _)) => some (.broken, m)
  | .judging e k =>
      if (k.protocol? m.fleet).getD "" = m.loop.settings.expectedProtocol then
        some (.installing e k, m)
      else some (.discarding e k.service .checking [.wrongProtocol, .failed, .ended], m)
  | .discarding e service call states =>
      let (call, f) := call.step service m.fleet
      let m := { m with fleet := f }
      match call.result? with
      | some _ => some (.telling e states .finished, m)
      | none => some (.discarding e service call states, m)
  | .installing e k =>
      let next := match m.active with
        | some stale => AttemptPhase.replacing e stale.service .checking
        | none => .telling e [.test] .testing
      some (next, { m with active := some k })
  | .replacing e service call =>
      let (call, f) := call.step service m.fleet
      let m := { m with fleet := f }
      match call.result? with
      | some _ => some (.telling e [.test] .testing, m)
      | none => some (.replacing e service call, m)
  | .testing check =>
      match check.phase with
      | .finished => some (.finished, m)
      | .broken => some (.broken, m)
      | _ => (check.step? probe m).map fun (check, m) => (.testing check, m)
  | .finished | .broken => none

/-- The next step of an attempt, if it can go on. -/
def step? (probe : Probe) (a : Attempt) (m : Manager) : Option (Attempt × Manager) :=
  (a.advance? probe m).map fun (phase, m) => ({ a with phase }, m)

/-- When an attempt goes on. -/
def due? (a : Attempt) : Option Nat :=
  match a.phase with
  | .testing check => check.due?
  | _ => none

end Attempt

end Failover.Manager
