/-
  Failover.Proofs.Manager.Chronicle
  ─────────────────────────────────
  **A manager and what was told in it.** What can happen is a move: an
  action of the manager, on a host and with a probe that may be others each
  time, or a request of somebody else.  A chronicle goes with a manager and
  keeps the events that were sent to the event loop, each with the task
  that told it: those that the event loop has handled, and those that wait
  in its queue.  It changes nothing that the manager does.

      run c moves  =  the chronicle after the moves, in their order;
                      a move that is not possible leaves all as it is

  Main statement: `run_induction` — what every move keeps holds after
  every run.
-/
import Failover.Manager.Run

namespace Failover.Manager

open Service (RemoveCall)

/-! ## §1. What can happen. -/

/-- What others ask of a manager. -/
inductive Request where
  | updateConnections (connections : List Connection)
  | updateTransports (transports : Named Transport)
  | subscribe
  | unsubscribe (inbox : Nat)
  /-- A listener has read its inbox; these are left. -/
  | read (inbox : Nat) (left : List History)
  | stop
  /-- Somebody's call to stop or to remove a service takes a step. -/
  | call (service : String) (call : RemoveCall)

/-- What a request does. -/
def ask (m : Manager) : Request → Manager
  | .updateConnections connections => m.updateConnections connections
  | .updateTransports transports => m.updateTransports transports
  | .subscribe => m.subscribe.2
  | .unsubscribe inbox => m.unsubscribe inbox
  | .read inbox left => m.keepTold inbox left
  | .stop => m.send .stop
  | .call service call => { m with fleet := (call.step service m.fleet).2 }

/-- Something that can happen to a manager. -/
inductive Move where
  | act (host : Host) (probe : Probe) (action : Action)
  | ask (request : Request)

/-! ## §2. What was told. -/

/-- Who told an event: an attempt, by its number, or a renewed test. -/
inductive Teller where
  | attempt (number : Nat)
  | check
  deriving DecidableEq, Repr

/-- An event with the task that told it. -/
structure Report where
  teller : Teller
  event : Event
  deriving DecidableEq, Repr

/-- The event of a message. -/
def Message.event? : Message → Option Event
  | .event e => some e
  | _ => none

/-- The events in a queue. -/
def events (queue : List Message) : List Event := queue.filterMap Message.event?

/-- A manager with what was told to its event loop. -/
structure Chronicle where
  manager : Manager
  /-- What the event loop has handled. -/
  handled : List Report
  /-- What waits in its queue. -/
  pending : List Report

/-- The chronicle of a manager to which nothing was told. -/
def chronicle (m : Manager) : Chronicle := ⟨m, [], []⟩

namespace Chronicle

/-- All that was told. -/
def told (c : Chronicle) : List Report := c.handled ++ c.pending

/-- A task has taken a step; what it told is what is new in the queue. -/
def afterTask (c : Chronicle) (teller : Teller) (m : Manager) : Chronicle :=
  let new := (events m.queue).drop (events c.manager.queue).length
  { c with manager := m, pending := c.pending ++ new.map fun e => ⟨teller, e⟩ }

/-- The event loop has taken the first message of its queue.  An event was told by whoever told the
first one that waited. -/
def afterReceive (c : Chronicle) (m : Manager) : Chronicle :=
  match c.manager.queue with
  | .event e :: _ =>
      ⟨m, c.handled ++ [{ c.pending.headD ⟨.check, e⟩ with event := e }], c.pending.drop 1⟩
  | .stop :: _ => { c with manager := m, pending := [] }
  | _ => { c with manager := m }

/-- An action has led to a manager. -/
def afterAction (c : Chronicle) (action : Action) (m : Manager) : Chronicle :=
  match action with
  | .receive _ => c.afterReceive m
  | .attempt i => c.afterTask (.attempt i) m
  | .check _ => c.afterTask .check m
  | _ => { c with manager := m }

/-- What a move does; one that is not possible does nothing. -/
def move (c : Chronicle) : Move → Chronicle
  | .act host probe action =>
      match c.manager.step? host probe action with
      | some m => c.afterAction action m
      | none => c
  | .ask request => { c with manager := c.manager.ask request }

/-- What moves do one after the other. -/
def run (c : Chronicle) (moves : List Move) : Chronicle := moves.foldl move c

/-- Some run leads to a chronicle from a manager that is about to begin, with these services. -/
def ReachedFrom (fleet : Service.Fleet) (c : Chronicle) : Prop :=
  ∃ settings registry transports shuffle connections moves,
    c = (chronicle (create settings fleet registry transports shuffle connections)).run moves

/-! ## §3. Runs. -/

/-- **What every move keeps holds after every run.** -/
theorem run_induction {P : Chronicle → Prop} {c : Chronicle} (start : P c) (moves : List Move)
    (keep : ∀ c, P c → ∀ mv ∈ moves, P (c.move mv)) : P (c.run moves) := by
  induction moves generalizing c with
  | nil => exact start
  | cons mv rest ih =>
      exact ih (keep c start mv List.mem_cons_self)
        fun c' h' mv' hmv' => keep c' h' mv' (List.mem_cons_of_mem _ hmv')

/-- The manager is the one that the action has led to, whatever is recorded. -/
theorem manager_afterAction (c : Chronicle) (action : Action) (m : Manager) :
    (c.afterAction action m).manager = m := by
  cases action with
  | receive shuffle =>
      unfold afterAction afterReceive
      dsimp only
      split <;> rfl
  | _ => rfl

/-- A task that told nothing changes nothing but the manager. -/
theorem afterTask_of_silent (c : Chronicle) (teller : Teller) {m : Manager}
    (h : events m.queue = events c.manager.queue) :
    c.afterTask teller m = { c with manager := m } := by
  unfold afterTask
  rw [h, List.drop_length]
  simp

/-- A task that told one event has it recorded under its name. -/
theorem afterTask_of_tell (c : Chronicle) (teller : Teller) {m : Manager} {e : Event}
    (h : events m.queue = events c.manager.queue ++ [e]) :
    c.afterTask teller m = { c with manager := m, pending := c.pending ++ [⟨teller, e⟩] } := by
  unfold afterTask
  rw [h, List.drop_left]
  rfl

end Chronicle

/-! ## §4. Queues. -/

@[simp] theorem events_nil : events [] = [] := rfl

@[simp] theorem events_append (q q' : List Message) : events (q ++ q') = events q ++ events q' :=
  List.filterMap_append ..

@[simp] theorem events_event (e : Event) (q : List Message) :
    events (.event e :: q) = e :: events q := rfl

/-- A message that tells no event adds none. -/
theorem events_cons_of_none {message : Message} (h : message.event? = none) (q : List Message) :
    events (message :: q) = events q := by
  unfold events
  rw [List.filterMap_cons_none h]

/-- Sending changes nothing but the queue. -/
theorem send_eq (m : Manager) (message : Message) :
    m.send message = { m with queue := (m.send message).queue } := by
  unfold send
  split <;> rfl

/-- An event loop that has not stopped is sent a message. -/
theorem send_of_not_stopped {m : Manager} (h : m.loop.stage ≠ .stopped) (message : Message) :
    m.send message = { m with queue := m.queue ++ [message] } := by
  unfold send
  rw [if_neg h]

/-- One that has stopped is sent nothing. -/
theorem send_stopped {m : Manager} (h : m.loop.stage = .stopped) (message : Message) :
    m.send message = m := by
  unfold send
  rw [if_pos h]

/-! ## §5. A short run. -/

/-- A host on which every process leaves at once. -/
def idleHost : Host := ⟨[], fun _ _ _ => .ok []⟩

/-- A probe that reaches the internet through everything. -/
def easyProbe : Probe := ⟨0, fun _ _ => .ok ()⟩

/-- A connection whose transport nobody knows is tried, and tried again when the timer fires. -/
def twiceTried : List Action :=
  .begin :: List.replicate 8 (.attempt 0) ++ List.replicate 4 (.receive .keep) ++
    [.fleet (.elapse 4000), .reconnect] ++ List.replicate 4 (.attempt 1) ++ [.receive .keep]

/-- The chronicle of that run. -/
def twiceTriedChronicle : Chronicle :=
  (chronicle (create .standard .empty "" .empty .keep
    [⟨"x", "", "198.51.100.3:3", false, false, "x"⟩])).run
    (twiceTried.map (.act idleHost easyProbe))

/-- It is in the middle of the second attempt. -/
example : twiceTriedChronicle.handled.map (·.event.state) =
    [.init, .serviceInit, .notConfigured, .ended, .init] := by decide

end Failover.Manager
