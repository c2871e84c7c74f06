/-
  Failover.Proofs.Manager.Bulletin
  ────────────────────────────────
  **What an event loop has taken and told.**  A bulletin goes with a
  manager and keeps what its event loop has taken and what has come into
  every inbox, read or not:

      taken     addListener i,  event e₁,  updateTransports …,  event e₂
      inbox i                   history₁                        history₂

  What is to be told is said from the messages alone: `announced` to an
  inbox, and `snapshots` to one that is registered once.

  Main statements: `undisturbed_step` — only the event loop tells the
  inboxes anything, when it takes a message — and `told_broadcast` — what
  it tells reaches everybody who listens.
-/
import Failover.Proofs.Manager.Standing

namespace Failover.Manager

/-! ## §1. What is to be told. -/

/-- The events of a connection among messages, in their order. -/
def eventsOf (id : String) (taken : List Message) : List Event :=
  (events taken).filter (·.connection.id == id)

/-- The history of a connection after messages: the latest of its events. -/
def historyAfter (limit : Nat) (id : String) (taken : List Message) : History :=
  ⟨(eventsOf id taken).drop ((eventsOf id taken).length - limit)⟩

/-- What a message that comes after others has the event loop tell an inbox: the history of the
connection of an event, once for every time that the inbox was registered before. -/
def announcement (limit inbox : Nat) (past : List Message) : Message → List History
  | .event e => List.replicate (past.count (.addListener inbox))
      (historyAfter limit e.connection.id (past ++ [.event e]))
  | _ => []

/-- What messages that come after others have the event loop tell an inbox. -/
def announced (limit inbox : Nat) : List Message → List Message → List History
  | _, [] => []
  | past, message :: rest =>
      announcement limit inbox past message ++ announced limit inbox (past ++ [message]) rest

/-- The histories of the connections of events, each right after its event. -/
def snapshots (limit : Nat) : List Message → List Message → List History
  | _, [] => []
  | past, .event e :: rest =>
      historyAfter limit e.connection.id (past ++ [.event e]) ::
        snapshots limit (past ++ [.event e]) rest
  | past, message :: rest => snapshots limit (past ++ [message]) rest

variable {limit inbox : Nat} {past taken : List Message} {e : Event}

theorem announced_append (more : List Message) :
    announced limit inbox past (taken ++ more) =
      announced limit inbox past taken ++ announced limit inbox (past ++ taken) more := by
  induction taken generalizing past with
  | nil => simp [announced]
  | cons message rest ih =>
      rw [List.cons_append, announced, announced, ih, List.append_assoc, List.append_assoc]
      rfl

/-- A message that tells no event is not told to anybody. -/
theorem announcement_of_none {message : Message} (h : message.event? = none) :
    announcement limit inbox past message = [] := by
  cases message with
  | event e => cases h
  | _ => rfl

/-- A message that tells no event adds none. -/
theorem eventsOf_concat_of_none {message : Message} (h : message.event? = none) (id : String) :
    eventsOf id (taken ++ [message]) = eventsOf id taken := by
  unfold eventsOf
  rw [events_append, events_cons_of_none h, events_nil, List.append_nil]

/-- What one message more adds. -/
theorem announced_concat (message : Message) :
    announced limit inbox [] (taken ++ [message]) =
      announced limit inbox [] taken ++ announcement limit inbox taken message := by
  rw [announced_append, announced, announced, List.append_nil]
  rfl

/-- Who was not registered is told nothing. -/
theorem announced_of_not_mem (h : .addListener inbox ∉ past ++ taken) :
    announced limit inbox past taken = [] := by
  induction taken generalizing past with
  | nil => rfl
  | cons message rest ih =>
      have hpast : past.count (.addListener inbox) = 0 := by
        rw [List.count_eq_zero]
        exact fun hmem => h (List.mem_append_left _ hmem)
      rw [announced, ih (by simpa using h), List.append_nil]
      cases message with
      | event e =>
          rw [announcement, hpast]
          rfl
      | _ => rfl

/-- Who was registered once is told one history for every event since. -/
theorem announced_of_count (hpast : past.count (.addListener inbox) = 1)
    (h : .addListener inbox ∉ taken) :
    announced limit inbox past taken = snapshots limit past taken := by
  induction taken generalizing past with
  | nil => rfl
  | cons message rest ih =>
      obtain ⟨hne, hrest⟩ := not_or.1 (mt List.mem_cons.2 h)
      have hcount : (past ++ [message]).count (.addListener inbox) = 1 := by
        rw [List.count_append, hpast, List.count_singleton, if_neg]
        exact fun heq => hne (eq_of_beq heq).symm
      rw [announced, ih hcount hrest]
      cases message with
      | event e =>
          rw [announcement, hpast]
          rfl
      | _ => rfl

/-- The history of a connection that is told after an event ends with that event. -/
theorem current_historyAfter (pos : 0 < limit) (past : List Message) (e : Event) :
    (historyAfter limit e.connection.id (past ++ [.event e])).current = some e := by
  have hevents : eventsOf e.connection.id (past ++ [.event e]) =
      eventsOf e.connection.id past ++ [e] := by
    simp [eventsOf]
  unfold historyAfter History.current
  rw [hevents, List.length_append, List.length_singleton, List.drop_append_of_le_length (by omega)]
  simp

/-- Adding an event to the latest ones leaves the latest ones. -/
theorem push_latest (l : List Event) :
    (History.mk (l.drop (l.length - limit))).push limit e =
      ⟨(l ++ [e]).drop ((l ++ [e]).length - limit)⟩ := by
  have hdrop : l.drop (l.length - limit) ++ [e] = (l ++ [e]).drop (l.length - limit) := by
    rw [List.drop_append_of_le_length (Nat.sub_le _ _)]
  unfold History.push
  dsimp only
  rw [hdrop, List.drop_drop, List.length_drop]
  congr 2
  simp only [List.length_append, List.length_singleton]
  omega

/-! ## §2. Bulletins. -/

/-- What a move makes of a manager; one that is not possible makes nothing of it. -/
def make (m : Manager) : Move → Manager
  | .act host probe action => (m.step? host probe action).getD m
  | .ask request => m.ask request

/-- The message that the event loop takes in a move. -/
def taken? (m : Manager) : Move → Option Message
  | .act _ _ (.receive _) => if m.loop.stage = .running then m.queue.head? else none
  | _ => none

/-- What comes into an inbox in a move.  Reading brings nothing into it. -/
def delivered (m : Manager) (inbox : Nat) (mv : Move) : List History :=
  match mv with
  | .act .. => ((m.make mv).told inbox).drop (m.told inbox).length
  | .ask _ => []

/-- A manager with what its event loop has taken and what has come into the inboxes. -/
structure Bulletin where
  manager : Manager
  taken : List Message
  received : Nat → List History

/-- The bulletin of a manager before anything happens. -/
def bulletin (m : Manager) : Bulletin := ⟨m, [], fun _ => []⟩

namespace Bulletin

/-- What a move adds. -/
def move (b : Bulletin) (mv : Move) : Bulletin where
  manager := b.manager.make mv
  taken := b.taken ++ (b.manager.taken? mv).toList
  received inbox := b.received inbox ++ b.manager.delivered inbox mv

/-- What moves add one after the other. -/
def run (b : Bulletin) (moves : List Move) : Bulletin := moves.foldl move b

end Bulletin

/-! ## §3. Steps that tell nobody anything. -/

/-- **Nobody is told anything**, and nobody is registered in between. -/
structure Undisturbed (m m' : Manager) : Prop where
  settings : m'.loop.settings = m.loop.settings
  histories : m'.loop.histories = m.loop.histories
  listeners : m'.loop.listeners = m.loop.listeners
  inboxes : m'.inboxes = m.inboxes
  stage : m'.loop.stage ≠ .stopped → m.loop.stage ≠ .stopped
  queue : ∀ i, .addListener i ∈ m'.queue → .addListener i ∈ m.queue

variable {m m' m'' : Manager}

theorem Undisturbed.refl (m : Manager) : m.Undisturbed m :=
  ⟨rfl, rfl, rfl, rfl, fun h => h, fun _ h => h⟩

theorem Undisturbed.trans (h : m.Undisturbed m') (h' : m'.Undisturbed m'') :
    m.Undisturbed m'' where
  settings := h'.settings.trans h.settings
  histories := h'.histories.trans h.histories
  listeners := h'.listeners.trans h.listeners
  inboxes := h'.inboxes.trans h.inboxes
  stage hs := h.stage (h'.stage hs)
  queue i hi := h.queue i (h'.queue i hi)

/-- A message that registers nobody may be sent. -/
theorem undisturbed_send (m : Manager) (message : Message) (h : ∀ i, message ≠ .addListener i) :
    m.Undisturbed (m.send message) := by
  have hq : ∀ i, .addListener i ∈ (m.send message).queue → .addListener i ∈ m.queue := by
    intro i hi
    rcases (mem_queue_send m message _).1 hi with hi | ⟨-, heq⟩
    · exact hi
    · exact absurd heq.symm (h i)
  rw [send_eq]
  exact ⟨rfl, rfl, rfl, rfl, fun h => h, hq⟩

theorem undisturbed_tell (m : Manager) (e : Event) : m.Undisturbed (m.tell e) :=
  m.undisturbed_send (.event e) fun _ h => by cases h

theorem undisturbed_connectCurrent (m : Manager) : m.Undisturbed m.connectCurrent := by
  unfold connectCurrent
  split <;> exact ⟨rfl, rfl, rfl, rfl, fun h => h, fun _ h => h⟩

theorem undisturbed_reverify (m : Manager) : m.Undisturbed m.reverify := by
  unfold reverify
  dsimp only
  split
  · exact ⟨rfl, rfl, rfl, rfl, fun h => h, fun _ h => h⟩
  · split <;> exact ⟨rfl, rfl, rfl, rfl, fun h => h, fun _ h => h⟩

/-- A step of a test tells the inboxes nothing. -/
theorem Check.Step.undisturbed {probe : Probe} {c c' : Check} (h : c.Step probe m c' m') :
    m.Undisturbed m' := by
  cases h with
  | told s rest e hp he => exact undisturbed_tell m e
  | _ => exact ⟨rfl, rfl, rfl, rfl, fun h => h, fun _ h => h⟩

/-- A step of an attempt tells the inboxes nothing. -/
theorem Attempt.Step.undisturbed {probe : Probe} {a : Attempt} {p : AttemptPhase}
    (h : a.Step probe m p m') : m.Undisturbed m' := by
  cases h with
  | opened | told => exact undisturbed_tell m _
  | unbuilt e t cause m' hp ht hb | built e t k m' hp ht hb =>
      rw [build_eq hb]
      exact ⟨rfl, rfl, rfl, rfl, fun h => h, fun _ h => h⟩
  | testing c c' m' hp hc => exact hc.undisturbed
  | _ => exact ⟨rfl, rfl, rfl, rfl, fun h => h, fun _ h => h⟩

/-- **Only the event loop tells the inboxes anything**, when it takes a message. -/
theorem undisturbed_step {host : Host} {probe : Probe} {action : Action}
    (h : m.step? host probe action = some m') (hr : ∀ shuffle, action ≠ .receive shuffle) :
    m.Undisturbed m' := by
  cases action with
  | receive shuffle => exact absurd rfl (hr shuffle)
  | begin =>
      unfold step? at h
      dsimp only at h
      split at h
      · next hst =>
        cases h
        have hconnect := undisturbed_connectCurrent { m with loop.stage := .running }
        refine Undisturbed.trans ?_ hconnect
        refine ⟨rfl, rfl, rfl, rfl, ?_, fun _ h => h⟩
        intro _ hstop
        rw [hst] at hstop
        cases hstop
      · cases h
  | reconnect =>
      unfold step? at h
      dsimp only at h
      split at h
      · cases h
        have hconnect := undisturbed_connectCurrent { m with
          loop.reconnectAt := none
          loop.rotation := m.loop.rotation.advance }
        refine Undisturbed.trans ?_ hconnect
        exact ⟨rfl, rfl, rfl, rfl, fun h => h, fun _ h => h⟩
      · cases h
  | reverify =>
      unfold step? at h
      dsimp only at h
      split at h
      · cases h
        exact undisturbed_reverify m
      · cases h
  | attempt i =>
      obtain ⟨a, p, m₁, -, hstep, rfl⟩ := attemptStep?_eq_some h
      exact hstep.undisturbed.trans ⟨rfl, rfl, rfl, rfl, fun h => h, fun _ h => h⟩
  | check i =>
      obtain ⟨k, -, ⟨-, rfl⟩ | ⟨k', m₁, hstep, rfl⟩⟩ := checkStep?_eq_some h
      · have hsend := undisturbed_send { m with checks := m.checks.eraseIdx i } .verified
          fun _ h => by cases h
        refine Undisturbed.trans ?_ hsend
        exact ⟨rfl, rfl, rfl, rfl, fun h => h, fun _ h => h⟩
      · exact hstep.undisturbed.trans ⟨rfl, rfl, rfl, rfl, fun h => h, fun _ h => h⟩
  | fleet action =>
      obtain ⟨f, -, rfl⟩ := Option.map_eq_some_iff.1 h
      exact ⟨rfl, rfl, rfl, rfl, fun h => h, fun _ h => h⟩

/-! ## §4. Telling all listeners. -/

/-- A history comes into an inbox once for every time that the inbox is on the list. -/
theorem getElem?_deliver (h : History) (l : List Nat) (bs : List Inbox) (i : Nat) :
    (l.foldl (fun bs i => bs.modify i (Inbox.deliver h)) bs)[i]? =
      bs[i]?.map fun b =>
        if b.listening then { b with items := b.items ++ List.replicate (l.count i) h } else b := by
  induction l generalizing bs with
  | nil =>
      rw [List.foldl_nil]
      cases bs[i]? with
      | none => rfl
      | some b => simp
  | cons j rest ih =>
      rw [List.foldl_cons, ih, List.getElem?_modify, List.count_cons]
      cases bs[i]? with
      | none => rfl
      | some b =>
          by_cases hj : j = i
          · subst hj
            by_cases hb : b.listening = true
            · simp [Inbox.deliver, hb, List.replicate_succ]
            · simp [Inbox.deliver, hb]
          · simp [hj]

theorem length_deliver (h : History) (l : List Nat) (bs : List Inbox) :
    (l.foldl (fun bs i => bs.modify i (Inbox.deliver h)) bs).length = bs.length := by
  induction l generalizing bs with
  | nil => rfl
  | cons j rest ih => rw [List.foldl_cons, ih, List.length_modify]

variable {i : Nat}

/-- Telling a history stops nobody from listening. -/
theorem listens_broadcast (m : Manager) (h : History) (i : Nat) :
    (m.broadcast h).listens i = m.listens i := by
  unfold listens broadcast
  dsimp only
  rw [getElem?_deliver]
  cases m.inboxes[i]? with
  | none => rfl
  | some b =>
      cases hb : b.listening <;> simp [hb]

/-- Who listens is told a history as often as he is on the list. -/
theorem told_broadcast (h : History) (hi : m.listens i = true) :
    (m.broadcast h).told i = m.told i ++ List.replicate (m.loop.listeners.count i) h := by
  unfold listens at hi
  unfold told broadcast
  dsimp only
  rw [getElem?_deliver]
  cases hb : m.inboxes[i]? with
  | none => rw [hb] at hi; cases hi
  | some b =>
      rw [hb, Option.any_some] at hi
      simp [hi]

/-- Who listens stays on the list. -/
theorem count_broadcast (h : History) (hi : m.listens i = true) :
    (m.broadcast h).loop.listeners.count i = m.loop.listeners.count i :=
  List.count_filter hi

/-- What the event loop does with an event, but for the timers. -/
theorem handleEvent_eq (m : Manager) (e : Event) :
    ∃ m₁ : Manager, m.handleEvent e = m₁.broadcast (m.loop.historyWith e) ∧
      m₁.loop.settings = m.loop.settings ∧
      m₁.loop.histories = m.loop.histories.insert e.connection.id (m.loop.historyWith e) ∧
      m₁.loop.listeners = m.loop.listeners ∧ m₁.inboxes = m.inboxes ∧
      m₁.loop.stage = m.loop.stage ∧ m₁.queue = m.queue := by
  unfold handleEvent
  dsimp only
  split <;> exact ⟨_, rfl, rfl, rfl, rfl, rfl, rfl, rfl⟩

end Failover.Manager
