/-
  Failover.Manager.Event
  ──────────────────────
  **What happens to a connection.** An attempt to bring a connection up
  goes through states, and every change is an event.  Nothing follows the
  event that ends an attempt.

  A history holds the latest events of one connection, the oldest first.
-/
import Failover.Connection

namespace Failover.Manager

/-! ## §1. States. -/

/-- The states of an attempt. -/
inductive State where
  | init
  | serviceInit
  | serviceStart
  | test
  | up
  | wrongProtocol
  | failed
  | notConfigured
  | testFailed
  | ended
  deriving DecidableEq, Repr

namespace State

/-- The name of a state. -/
def name : State → String
  | .init => "Init"
  | .serviceInit => "ServiceInit"
  | .serviceStart => "ServiceStart"
  | .test => "Test"
  | .up => "Up"
  | .wrongProtocol => "WrongProtocol"
  | .failed => "Failed"
  | .notConfigured => "NotConfigured"
  | .testFailed => "TestFailed"
  | .ended => "Ended"

/-- All states. -/
def all : List State :=
  [.init, .serviceInit, .serviceStart, .test, .up, .wrongProtocol, .failed, .notConfigured,
    .testFailed, .ended]

/-- The state with a name. -/
def ofName? (s : String) : Option State := all.find? (·.name == s)

/-- Whether a state tells that something went wrong. -/
def isProblem : State → Bool
  | .wrongProtocol | .failed | .notConfigured | .testFailed => true
  | _ => false

/-- Every state is found by its name. -/
theorem ofName?_name (s : State) : ofName? s.name = some s := by
  cases s <;> decide

end State

/-! ## §2. Events. -/

/-- A change of state of a connection. -/
structure Event where
  state : State
  connection : Connection
  /-- The service of the attempt, once there is one. -/
  service : Option String
  deriving DecidableEq, Repr

namespace Event

/-- The first event of an attempt. -/
def first (connection : Connection) : Event := ⟨.init, connection, none⟩

/-- The event that follows in the same attempt; nothing follows the last one. -/
def next (e : Event) (state : State) : Except Breach Event :=
  if e.state = .ended then .error .alreadyEnded else .ok { e with state := state }

end Event

/-! ## §3. Histories. -/

/-- The latest events of a connection, the oldest first. -/
structure History where
  events : List Event
  deriving DecidableEq, Repr

namespace History

/-- Nothing has happened. -/
def empty : History := ⟨[]⟩

instance : Inhabited History := ⟨empty⟩

/-- The latest event. -/
def current (h : History) : Option Event := h.events.getLast?

/-- Whether the latest event tells that the connection is up. -/
def isUp (h : History) : Bool := h.current.any (·.state == .up)

/-- How many events there are. -/
def size (h : History) : Nat := h.events.length

/-- One event more; of all of them the latest `limit` are kept. -/
def push (limit : Nat) (h : History) (e : Event) : History :=
  let events := h.events ++ [e]
  ⟨events.drop (events.length - limit)⟩

/-- The event that was added is the latest one. -/
theorem current_push {limit : Nat} (pos : 0 < limit) (h : History) (e : Event) :
    (h.push limit e).current = some e := by
  simp only [push, current, List.length_append, List.length_singleton]
  rw [List.drop_append_of_le_length (by omega)]
  simp

/-- There are never more events than are kept. -/
theorem size_push_le (limit : Nat) (h : History) (e : Event) : (h.push limit e).size ≤ limit := by
  simp only [push, size, List.length_drop, List.length_append, List.length_singleton]
  omega

end History

/-- The events that lead to the last one of those told, from the beginning of the same attempt if
that was told. -/
def latestAttempt (told : List History) : List Event :=
  let id (e : Event) := e.connection.id
  let events := told.reverse.filterMap History.current
  let own := events.filter fun e => some (id e) == events.head?.map id
  match own.findIdx? (·.state == .init) with
  | some i => (own.take (i + 1)).reverse
  | none => own.reverse

end Failover.Manager
