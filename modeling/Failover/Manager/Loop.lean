/-
  Failover.Manager.Loop
  ─────────────────────
  **The event loop.** It begins with an attempt for the connection whose
  turn it is.  Every event is kept in the history of its connection and
  told to all listeners; the end of an attempt arms the timer for the next
  one.  From time to time a connection that is up is tested again, by one
  test at a time.
-/
import Failover.Manager.Basic

namespace Failover.Manager

/-! ## §1. Attempts and timers. -/

/-- Arm the timer for the next attempt. -/
def scheduleReconnect (m : Manager) : Manager :=
  { m with loop := { m.loop with
      reconnectAt := some (m.clock + m.loop.settings.reconnectDelay) } }

/-- Begin an attempt. -/
def connect (m : Manager) (c : Connection) : Manager :=
  { m with
    loop := { m.loop with currentId := some c.id }
    attempts := m.attempts ++ [⟨c, m.loop.transports.get? c.transport, .detaching⟩] }

/-- Begin an attempt for the connection whose turn it is, or wait for there to be one. -/
def connectCurrent (m : Manager) : Manager :=
  match m.loop.rotation.current with
  | some c => m.connect c
  | none => m.scheduleReconnect

/-- The event loop begins. -/
def begin (m : Manager) : Manager :=
  { m with loop := { m.loop with stage := .running } }.connectCurrent

/-- The timer fires: it is the next connection's turn. -/
def reconnect (m : Manager) : Manager :=
  let rotation := m.loop.rotation.advance
  { m with loop := { m.loop with reconnectAt := none, rotation := rotation } }.connectCurrent

/-- The event of the connection that was tried last, if it is up. -/
def upEvent? (l : Loop) : Option Event :=
  ((l.currentId.bind l.currents.get?)).filter (·.state == .up)

/-- It is time to test the connection again, unless a test is under way or it is not up. -/
def reverify (m : Manager) : Manager :=
  let m := { m with loop := { m.loop with
    reverifyAt := m.clock + m.loop.settings.reverifyInterval } }
  if m.loop.verifying then m
  else
    match upEvent? m.loop with
    | none => m
    | some e =>
        { m with
          loop := { m.loop with verifying := true }
          checks := m.checks ++ [⟨e, .looking⟩] }

/-! ## §2. Events. -/

/-- Tell an inbox a history, if it listens. -/
def Inbox.deliver (h : History) (b : Inbox) : Inbox :=
  if b.listening then { b with items := b.items ++ [h] } else b

/-- Whether an inbox listens. -/
def listens (m : Manager) (inbox : Nat) : Bool := (m.inboxes[inbox]?).any (·.listening)

/-- Tell all listeners a history, and forget those that do not listen any more. -/
def broadcast (m : Manager) (h : History) : Manager :=
  let inboxes := m.loop.listeners.foldl (fun bs i => bs.modify i (Inbox.deliver h)) m.inboxes
  { m with
    inboxes
    loop := { m.loop with listeners := m.loop.listeners.filter m.listens } }

/-- The history of a connection with one event more. -/
def Loop.historyWith (l : Loop) (e : Event) : History :=
  ((l.histories.get? e.connection.id).getD .empty).push l.settings.historyLimit e

/-- The event loop is told an event. -/
def handleEvent (m : Manager) (e : Event) : Manager :=
  let id := e.connection.id
  let history := m.loop.historyWith e
  let m := { m with loop := { m.loop with histories := m.loop.histories.insert id history } }
  let m :=
    if e.state = .ended then
      { m with loop := { m.loop with currents := m.loop.currents.erase id } }.scheduleReconnect
    else { m with loop := { m.loop with currents := m.loop.currents.insert id e } }
  m.broadcast history

/-! ## §3. Messages. -/

/-- The event loop stops: whatever is queued or still to be sent is lost. -/
def halt (m : Manager) : Manager :=
  { m with
    queue := []
    loop := { m.loop with stage := .stopped, listeners := [], reconnectAt := none } }

/-- The event loop takes a message. -/
def handle (shuffle : Shuffle) (m : Manager) : Message → Manager
  | .event e => m.handleEvent e
  | .addListener i => { m with loop := { m.loop with listeners := m.loop.listeners ++ [i] } }
  | .updateConnections connections =>
      let (_, rotation) := m.loop.rotation.update shuffle connections m.loop.currentId
      { m with loop := { m.loop with rotation } }
  | .updateTransports transports =>
      { m with loop := { m.loop with
          transports := transports.map fun name t => t.named name } }
  | .verified => { m with loop := { m.loop with verifying := false } }
  | .stop => m.halt

end Failover.Manager
