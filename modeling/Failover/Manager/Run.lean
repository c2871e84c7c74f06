/-
  Failover.Manager.Run
  ────────────────────
  **A manager as time goes by.** What can happen is one of a few actions:
  the event loop begins, takes a message or heeds a timer, a task takes a
  step, or something happens in the fleet.  `step?` says which of them are
  possible and what they do; which one comes next is left open, and so is
  the order that a shuffle draws.

  `settle` lets things happen in one order: messages first, then tasks,
  then the fleet, then timers, and time passes only when nothing else can
  happen.
-/
import Failover.Manager.Attempt
import Failover.Manager.Loop

namespace Failover.Manager

open Service (Fleet)

/-! ## §1. Actions. -/

/-- Something that happens. -/
inductive Action where
  /-- The event loop begins. -/
  | begin
  /-- The event loop takes the first message of the queue. -/
  | receive (shuffle : Shuffle)
  /-- The timer for the next attempt fires. -/
  | reconnect
  /-- The timer for the next test fires. -/
  | reverify
  /-- An attempt takes a step. -/
  | attempt (index : Nat)
  /-- A renewed test takes a step; when it is over it says so. -/
  | check (index : Nat)
  | fleet (action : Service.Action)

/-- What an attempt on its place in the list does. -/
def attemptStep? (probe : Probe) (m : Manager) (i : Nat) : Option Manager := do
  let a ← m.attempts[i]?
  let (a, m) ← a.step? probe m
  return { m with attempts := m.attempts.set i a }

/-- What a renewed test on its place in the list does. -/
def checkStep? (probe : Probe) (m : Manager) (i : Nat) : Option Manager := do
  let c ← m.checks[i]?
  match c.phase with
  | .finished => return { m with checks := m.checks.eraseIdx i }.send .verified
  | _ =>
      let (c, m) ← c.step? probe m
      return { m with checks := m.checks.set i c }

/-- What an action does, if it is possible. -/
def step? (host : Host) (probe : Probe) (m : Manager) : Action → Option Manager
  | .begin => if m.loop.stage = .starting then some m.begin else none
  | .receive shuffle =>
      match m.loop.stage, m.queue with
      | .running, message :: rest => some ({ m with queue := rest }.handle shuffle message)
      | _, _ => none
  | .reconnect =>
      if m.loop.stage = .running ∧ m.loop.reconnectAt.any (· ≤ m.clock) then some m.reconnect
      else none
  | .reverify =>
      if m.loop.stage = .running ∧ m.loop.reverifyAt ≤ m.clock then some m.reverify else none
  | .attempt i => m.attemptStep? probe i
  | .check i => m.checkStep? probe i
  | .fleet action => (m.fleet.step? host action).map fun f => { m with fleet := f }

/-! ## §2. One order. -/

/-- The actions without the passing of time, in the order in which they are tried. -/
def actions (m : Manager) : List Action :=
  [.begin, .receive .keep] ++ (List.range m.attempts.length).map .attempt ++
    (List.range m.checks.length).map .check ++ m.fleet.actions.map .fleet ++
    [.reconnect, .reverify]

/-- Do the first thing that can be done. -/
def next? (host : Host) (probe : Probe) (m : Manager) : Option Manager :=
  m.actions.findSome? (m.step? host probe)

/-- When something can be done again if nothing can be done now. -/
def due? (m : Manager) : Option Nat :=
  let timers :=
    if m.loop.stage = .running then Fleet.earlier m.loop.reconnectAt (some m.loop.reverifyAt)
    else none
  let tasks := m.attempts.map Attempt.due? ++ m.checks.map Check.due?
  tasks.foldl Fleet.earlier (Fleet.earlier timers m.fleet.due?)

/-- The manager at another time. -/
def atTime (m : Manager) (t : Nat) : Manager := { m with fleet := { m.fleet with clock := t } }

/-- Attempts that have come to their end are forgotten. -/
def tidy (m : Manager) : Manager :=
  { m with attempts := m.attempts.filter fun a =>
      match a.phase with
      | .finished | .broken => false
      | _ => true }

/-- Let things happen until a condition holds, or until a time. -/
def settleFrom (host : Host) (probe : Probe) (reached : Manager → Bool) (deadline : Nat) :
    Nat → Manager → Manager
  | 0, m => m
  | n + 1, m =>
      if reached m then m
      else
        match m.next? host probe with
        | some m' => settleFrom host probe reached deadline n m'.tidy
        | none =>
            match m.due? with
            | some t =>
                if m.clock < t ∧ t ≤ deadline then
                  settleFrom host probe reached deadline n (m.atTime t)
                else m.atTime (max m.clock deadline)
            | none => m.atTime (max m.clock deadline)

/-- Let things happen until a condition holds, for some time at most. -/
def settle (host : Host) (probe : Probe) (m : Manager) (ms : Nat) (reached : Manager → Bool) :
    Manager :=
  settleFrom host probe reached (m.clock + ms) Fleet.mostSteps m

/-! ## §3. Using a manager. -/

/-- A manager that is about to begin. -/
def create (settings : Settings) (fleet : Fleet) (registry : String)
    (transports : Named Transport) (shuffle : Shuffle) (connections : List Connection) :
    Manager where
  fleet := fleet
  registry := registry
  loop := {
    settings := settings
    transports := transports
    rotation := .ofList shuffle connections
    histories := .empty
    currents := .empty
    currentId := none
    listeners := []
    reconnectAt := none
    reverifyAt := fleet.clock + settings.reverifyInterval
    verifying := false
    stage := .starting }
  queue := []
  attempts := []
  checks := []
  active := none
  transportOk := false
  inboxes := []
  probes := 0

/-- Listen to the events from now on; the inbox has the number that comes with it. -/
def subscribe (m : Manager) : Nat × Manager :=
  let i := m.inboxes.length
  (i, { m with inboxes := m.inboxes ++ [Inbox.mk true []] }.send (.addListener i))

/-- Listen no longer. -/
def unsubscribe (m : Manager) (inbox : Nat) : Manager :=
  { m with inboxes := m.inboxes.modify inbox fun b => { b with listening := false } }

/-- Replace the connections. -/
def updateConnections (m : Manager) (connections : List Connection) : Manager :=
  m.send (.updateConnections connections)

/-- Replace the registry of transports. -/
def updateTransports (m : Manager) (transports : Named Transport) : Manager :=
  m.send (.updateTransports transports)

/-- The proxy for pages that are fetched through the active carrier. -/
def proxy (m : Manager) (net : Net.Network) : Except Fault Net.SocketAddress :=
  match m.active with
  | some k => k.proxy m.fleet net
  | none => .error (.connection .noTransport)

/-- Let things happen for some time. -/
def pass (host : Host) (probe : Probe) (m : Manager) (ms : Nat) : Manager :=
  m.settle host probe ms fun _ => false

/-- Stop the event loop and wait until it has stopped. -/
def stop (host : Host) (probe : Probe) (m : Manager) : Manager :=
  (m.send .stop).settle host probe Fleet.patience fun m => m.loop.stage == .stopped

/-- Stop all services of the registry and wait for them. -/
def stopServices (host : Host) (probe : Probe) (m : Manager) : Manager :=
  let ids := m.fleet.members m.registry
  { m with fleet := m.fleet.stopEach m.registry }.settle host probe Fleet.patience
    fun m => ids.all m.fleet.isSettled

/-- The histories that an inbox was told and that were not taken yet. -/
def told (m : Manager) (inbox : Nat) : List History :=
  ((m.inboxes[inbox]?).map (·.items)).getD []

/-- Leave only these histories in an inbox. -/
def keepTold (m : Manager) (inbox : Nat) (items : List History) : Manager :=
  { m with inboxes := m.inboxes.modify inbox fun b => { b with items } }

/-- Wait for the next history in an inbox, for some time at most, and take it. -/
def receive? (host : Host) (probe : Probe) (m : Manager) (inbox ms : Nat) :
    Option History × Manager :=
  let m := m.settle host probe ms fun m => !(m.told inbox).isEmpty
  match m.told inbox with
  | [] => (none, m)
  | h :: rest => (some h, m.keepTold inbox rest)

/-- Take histories out of an inbox, waiting for each, until they are enough.  There are none if one
does not come in time. -/
def receiveUntil? (host : Host) (probe : Probe) (inbox ms : Nat) (enough : List History → Bool) :
    Nat → List History → Manager → Option (List History) × Manager
  | 0, _, m => (none, m)
  | n + 1, taken, m =>
      match m.receive? host probe inbox ms with
      | (none, m) => (none, m)
      | (some h, m) =>
          let taken := taken ++ [h]
          if enough taken then (some taken, m)
          else receiveUntil? host probe inbox ms enough n taken m

/-- Take all histories that come into an inbox within some time. -/
def receiveAll (host : Host) (probe : Probe) (m : Manager) (inbox ms : Nat) :
    List History × Manager :=
  let m := m.pass host probe ms
  (m.told inbox, m.keepTold inbox [])

end Failover.Manager
