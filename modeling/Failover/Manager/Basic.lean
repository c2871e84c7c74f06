/-
  Failover.Manager.Basic
  ──────────────────────
  **What a manager consists of.** One task, the event loop, owns the
  rotation, the histories and the timers, and takes messages from one
  queue.  Attempts to connect and renewed tests of a connection that is up
  are tasks of their own: they report through the queue, and share with
  each other which carrier is active and whether its last test succeeded.

  Tasks go on step by step, and nothing is said here about whose step comes
  next.  Main statement: `mem_queue_send` — a message that is sent is
  queued, unless the event loop has stopped.
-/
import Failover.Manager.Event
import Failover.Manager.Rotation
import Failover.Manager.Settings
import Failover.Named
import Failover.Transport.Carrier

namespace Failover.Manager

open Service

/-! ## §1. Messages. -/

/-- What the event loop is told. -/
inductive Message where
  | event (e : Event)
  /-- Events are to be told to this inbox, too. -/
  | addListener (inbox : Nat)
  | updateConnections (connections : List Connection)
  | updateTransports (transports : Named Transport)
  /-- A renewed test has come to its end. -/
  | verified
  | stop
  deriving DecidableEq

/-- Histories that a listener was told and has not read, as long as it listens. -/
structure Inbox where
  listening : Bool
  items : List History
  deriving DecidableEq, Repr

/-! ## §2. Tasks. -/

/-- Where a test of the active carrier stands. -/
inductive CheckPhase where
  /-- The active carrier is to be looked up. -/
  | looking
  /-- The probe was asked, and tells this at a time. -/
  | probing (outcome : Except Fault Unit) (due : Nat)
  /-- States are to be told. -/
  | telling (states : List State)
  | finished
  | broken

/-- A test of the active carrier, with the last event that was told. -/
structure Check where
  event : Event
  phase : CheckPhase

/-- What an attempt does after it has told some states. -/
inductive Goal where
  | building
  | launching (carrier : Carrier)
  | testing
  | finished
  deriving DecidableEq, Repr

/-- Where an attempt to connect stands, with the last event that was told. -/
inductive AttemptPhase where
  /-- The active carrier is to be taken away. -/
  | detaching
  /-- The test of it is to be forgotten. -/
  | clearing (previous : Option Carrier)
  /-- It is to be removed. -/
  | removing (previous : Carrier) (call : RemoveCall)
  /-- It is to exit. -/
  | awaiting (previous : Carrier)
  /-- The first event is to be told. -/
  | opening
  /-- States are to be told. -/
  | telling (event : Event) (states : List State) (goal : Goal)
  /-- The new carrier is to be set up. -/
  | building (event : Event)
  /-- It is to be started. -/
  | launching (event : Event) (carrier : Carrier)
  /-- Its start is to come to something. -/
  | starting (event : Event) (carrier : Carrier)
  /-- Its protocol is to be looked at. -/
  | judging (event : Event) (carrier : Carrier)
  /-- It is to be removed, and then these states are to be told. -/
  | discarding (event : Event) (service : String) (call : RemoveCall) (states : List State)
  /-- It is to become the active one. -/
  | installing (event : Event) (carrier : Carrier)
  /-- Another one that was active is to be removed. -/
  | replacing (event : Event) (stale : String) (call : RemoveCall)
  /-- It is to be tested. -/
  | testing (check : Check)
  | finished
  | broken

/-- An attempt to connect, with the registry entry of the transport if there is one. -/
structure Attempt where
  connection : Connection
  transport : Option Transport
  phase : AttemptPhase

/-! ## §3. The event loop. -/

/-- Whether the event loop has started and stopped. -/
inductive Stage where
  | starting
  | running
  | stopped
  deriving DecidableEq, Repr

/-- What the event loop owns. -/
structure Loop where
  settings : Settings
  transports : Named Transport
  rotation : Rotation
  /-- The recent events of every connection, by its id. -/
  histories : Named History
  /-- The latest event of every attempt that has not ended, by the id of its connection. -/
  currents : Named Event
  /-- The id of the connection that was tried last. -/
  currentId : Option String
  /-- The inboxes that are told events. -/
  listeners : List Nat
  /-- When the next attempt is due. -/
  reconnectAt : Option Nat
  /-- When the connection is to be tested again. -/
  reverifyAt : Nat
  /-- Whether such a test is under way. -/
  verifying : Bool
  stage : Stage

end Manager

/-- A manager with everything that it works on. -/
structure Manager where
  fleet : Service.Fleet
  /-- The registry in which carriers are created. -/
  registry : String
  loop : Manager.Loop
  queue : List Manager.Message
  attempts : List Manager.Attempt
  /-- The renewed tests. -/
  checks : List Manager.Check
  /-- The carrier that is connected. -/
  active : Option Carrier
  /-- Whether its last test succeeded. -/
  transportOk : Bool
  inboxes : List Manager.Inbox
  /-- How often the probe was asked. -/
  probes : Nat

namespace Manager

/-! ## §4. Sharing. -/

/-- The time. -/
def clock (m : Manager) : Nat := m.fleet.clock

/-- Send the event loop a message.  It takes none after it has stopped. -/
def send (m : Manager) (message : Message) : Manager :=
  if m.loop.stage = .stopped then m else { m with queue := m.queue ++ [message] }

/-- Tell the event loop an event. -/
def tell (m : Manager) (e : Event) : Manager := m.send (.event e)

/-- An id that no service of the fleet has. -/
def freshId (m : Manager) : String := m.fleet.freshId

/-- The endpoint of the active carrier. -/
def currentBindAddr (m : Manager) : Option String := m.active.bind (·.bindAddr? m.fleet)

/-- A message that is sent is queued, unless the event loop has stopped. -/
theorem mem_queue_send (m : Manager) (message x : Message) :
    x ∈ (m.send message).queue ↔ x ∈ m.queue ∨ m.loop.stage ≠ .stopped ∧ x = message := by
  unfold send
  split <;> simp_all

end Manager

end Failover
