/-
  Failover.Proofs.Manager.Ledger
  ──────────────────────────────
  **What the event loop knows and what waits for it.** A ledger is the part
  of a chronicle that single flight depends on: the reports, the queue,
  the tasks, the active carrier, the timer for the next attempt, the flag
  that a renewed test is under way, and the latest event.

  A ledger is `Kept` if its parts agree with each other: the queue holds
  the pending events in their order, the flag is up exactly while there is
  a test or a message that one is over, and the latest event is the one
  that was handled last.  One lemma for every entry says that the books
  stay kept.
-/
import Failover.Proofs.Manager.Chronicle
import Failover.Proofs.Manager.Course

namespace Failover.Manager

/-! ## §1. Ledgers. -/

/-- What single flight depends on. -/
structure Ledger where
  handled : List Report
  pending : List Report
  queue : List Message
  attempts : List Attempt
  checks : List Check
  active : Option Carrier
  reconnectAt : Option Nat
  verifying : Bool
  currents : Named Event
  currentId : Option String

/-- The ledger of a chronicle. -/
def Chronicle.ledger (c : Chronicle) : Ledger where
  handled := c.handled
  pending := c.pending
  queue := c.manager.queue
  attempts := c.manager.attempts
  checks := c.manager.checks
  active := c.manager.active
  reconnectAt := c.manager.loop.reconnectAt
  verifying := c.manager.loop.verifying
  currents := c.manager.loop.currents
  currentId := c.manager.loop.currentId

namespace Ledger

/-- All that was told. -/
def told (l : Ledger) : List Report := l.handled ++ l.pending

/-- The event that was told last. -/
def lastTold (l : Ledger) : Option Event := l.told.getLast?.map (·.event)

/-- One report more is told. -/
theorem told_append (l : Ledger) (r : Report) :
    l.handled ++ (l.pending ++ [r]) = l.told ++ [r] := (List.append_assoc ..).symm

theorem lastTold_append (l : Ledger) (r : Report) :
    (l.handled ++ (l.pending ++ [r])).getLast?.map (·.event) = some r.event := by
  rw [told_append, List.getLast?_concat]
  rfl

/-- The latest event by the id of its connection, unless it was an end. -/
def currentOf : Option Report → List (String × Event)
  | none => []
  | some r => if r.event.state = .ended then [] else [(r.event.connection.id, r.event)]

/-- Nothing that a test told waits behind the message that it is over. -/
def Behind (queue : List Message) (pending : List Report) : Prop :=
  ∀ q q', queue = q ++ .verified :: q' →
    ∀ r ∈ pending.drop (events q).length, r.teller ≠ .check

/-- **The parts of a ledger agree.** -/
structure Kept (l : Ledger) : Prop where
  /-- The queue holds what is pending, in its order. -/
  link : events l.queue = l.pending.map (·.event)
  order : Event.InOrder (l.told.map (·.event))
  /-- What comes behind `up` is told by a renewed test. -/
  afterUp : l.told.IsChain fun r r' => r.event.state = .up → r'.teller = .check
  tellers : ∀ r ∈ l.told, ∀ i, r.teller = .attempt i → i < l.attempts.length
  /-- The flag is up while there is a test, or a message that one is over. -/
  flag : l.checks.length + l.queue.count .verified = l.verifying.toNat
  behind : Behind l.queue l.pending
  unflagged : l.verifying = false → ∀ r ∈ l.pending, r.teller ≠ .check
  currents : l.currents.pairs = currentOf l.handled.getLast?
  pendingId : ∀ r ∈ l.pending, l.currentId = some r.event.connection.id
  handledId : ∀ r, l.handled.getLast? = some r → r.event.state ≠ .ended →
    l.currentId = some r.event.connection.id

variable {l : Ledger}

/-! ## §2. What is kept says. -/

/-- While there is a test, no message that it is over is queued. -/
theorem Kept.not_verified_mem (h : l.Kept) (hc : l.checks ≠ []) : .verified ∉ l.queue := by
  have hlen : 0 < l.checks.length := List.length_pos_iff.2 hc
  have hflag := h.flag
  have hle : l.verifying.toNat ≤ 1 := Bool.toNat_le _
  rw [← List.count_eq_zero]
  omega

/-- There is one test at most. -/
theorem Kept.checks_length_le (h : l.Kept) : l.checks.length ≤ 1 := by
  have hflag := h.flag
  have hle : l.verifying.toNat ≤ 1 := Bool.toNat_le _
  omega

/-- The next pending event may come after the one that was handled last. -/
theorem Kept.precedes (h : l.Kept) {x r : Report} {rest : List Report}
    (hx : l.handled.getLast? = some x) (hp : l.pending = r :: rest) : x.event.Precedes r.event := by
  have hc := h.order.chain
  unfold told at hc
  rw [List.map_append, List.isChain_append] at hc
  exact hc.2.2 x.event (by simp [hx]) r.event (by simp [hp])

/-- Only the connection of the latest event has one. -/
theorem Kept.currents_key (h : l.Kept) {id : String} (hid : id ∈ l.currents.keys) :
    l.currentId = some id := by
  unfold Named.keys at hid
  rw [h.currents] at hid
  cases hx : l.handled.getLast? with
  | none => simp [hx, currentOf] at hid
  | some x =>
      by_cases hend : x.event.state = .ended
      · simp [hx, currentOf, hend] at hid
      · obtain rfl : id = x.event.connection.id := by simpa [hx, currentOf, hend] using hid
        exact h.handledId x hx hend

/-- The latest event of the connection that was tried last was handled last. -/
theorem Kept.of_current (h : l.Kept) {e : Event} (he : l.currentId.bind l.currents.get? = some e) :
    ∃ r, l.handled.getLast? = some r ∧ r.event = e ∧ l.currentId = some e.connection.id := by
  obtain ⟨id, hid, hget⟩ := Option.bind_eq_some_iff.1 he
  unfold Named.get? at hget
  rw [h.currents] at hget
  cases hx : l.handled.getLast? with
  | none => simp [hx, currentOf] at hget
  | some x =>
      by_cases hend : x.event.state = .ended
      · simp [hx, currentOf, hend] at hget
      · simp only [hx, currentOf, hend, if_false, List.lookup_cons, List.lookup_nil] at hget
        split at hget
        · next heq =>
          obtain rfl : x.event = e := Option.some.inj hget
          exact ⟨x, rfl, rfl, h.handledId x hx hend⟩
        · cases hget

/-! ## §3. Entries. -/

/-- A message that is sent, with what it tells, waits behind all others. -/
theorem Behind.append {queue : List Message} {pending : List Report} (h : Behind queue pending)
    (message : Message) (new : List Report) (link : events queue = pending.map (·.event))
    (hnew : new.map (·.event) = events [message])
    (hc : .verified ∈ queue → ∀ r ∈ new, r.teller ≠ .check) :
    Behind (queue ++ [message]) (pending ++ new) := by
  intro q q' heq r hr
  have hlen : (events queue).length = pending.length := by rw [link, List.length_map]
  rcases List.eq_nil_or_concat q' with rfl | ⟨q'', x, rfl⟩
  · -- the message says that a test is over
    obtain ⟨rfl, hm⟩ := List.append_inj' heq rfl
    obtain rfl : message = .verified := by simpa using hm
    obtain rfl : new = [] := List.map_eq_nil_iff.1 hnew
    rw [List.append_nil, hlen, List.drop_length] at hr
    cases hr
  · have heq' : queue ++ [message] = (q ++ .verified :: q'') ++ [x] := by simpa using heq
    obtain ⟨rfl, -⟩ := List.append_inj' heq' rfl
    have hle : (events q).length ≤ pending.length := by
      rw [← hlen, events_append, List.length_append]
      omega
    rw [List.drop_append_of_le_length hle] at hr
    rcases List.mem_append.1 hr with hr | hr
    · exact h q q'' rfl r hr
    · exact hc (by simp) r hr

/-- What is first in the queue is taken, with what it tells. -/
theorem Behind.tail {message : Message} {queue : List Message} {pending : List Report}
    (h : Behind (message :: queue) pending) :
    Behind queue (pending.drop (events [message]).length) := by
  intro q q' heq r hr
  refine h (message :: q) q' (by rw [heq]; rfl) r ?_
  have hlen : (events (message :: q)).length = (events [message]).length + (events q).length := by
    rw [← List.length_append, ← events_append]
    rfl
  rw [hlen, ← List.drop_drop]
  exact hr

/-- An event is told. -/
theorem Kept.tell (h : l.Kept) {r : Report}
    (hfirst : l.lastTold = none → r.event.IsFirst)
    (hnext : ∀ x, l.told.getLast? = some x →
      x.event.Precedes r.event ∧ (x.event.state = .up → r.teller = .check))
    (hteller : ∀ i, r.teller = .attempt i → i < l.attempts.length)
    (hcheck : r.teller = .check → l.checks ≠ [])
    (hid : l.currentId = some r.event.connection.id) :
    Kept { l with queue := l.queue ++ [.event r.event], pending := l.pending ++ [r] } := by
  constructor
  case link => simp [h.link]
  case order =>
    rw [told, told_append l r, List.map_append]
    refine h.order.append ?_ ?_
    · intro hnil
      apply hfirst
      unfold lastTold
      rw [List.map_eq_nil_iff.1 hnil]
      rfl
    · intro x hx
      obtain ⟨y, hy, rfl⟩ := Option.map_eq_some_iff.1 (List.getLast?_map ▸ hx)
      exact (hnext y hy).1
  case afterUp =>
    rw [told, told_append l r, List.isChain_append]
    refine ⟨h.afterUp, List.isChain_singleton r, fun x hx y hy => ?_⟩
    obtain rfl : r = y := by simpa using hy
    exact (hnext x hx).2
  case tellers =>
    rw [told, told_append l r]
    exact List.forall_mem_append.2 ⟨h.tellers, List.forall_mem_singleton.2 hteller⟩
  case flag =>
    show l.checks.length + (l.queue ++ [Message.event r.event]).count Message.verified =
      l.verifying.toNat
    rw [List.count_append, List.count_singleton, if_neg (by simp)]
    exact h.flag
  case behind =>
    refine h.behind.append _ [r] h.link (by simp) fun hv x hx => ?_
    rw [List.mem_singleton.1 hx]
    exact fun hc => h.not_verified_mem (hcheck hc) hv
  case unflagged =>
    intro hv
    refine List.forall_mem_append.2 ⟨h.unflagged hv, List.forall_mem_singleton.2 fun hc => ?_⟩
    -- a test that tells something has its flag up
    have hlen : 0 < l.checks.length := List.length_pos_iff.2 (hcheck hc)
    have hflag := h.flag
    have hv' : l.verifying = false := hv
    rw [hv', Bool.toNat_false] at hflag
    omega
  case currents => exact h.currents
  case pendingId =>
    exact List.forall_mem_append.2 ⟨h.pendingId, List.forall_mem_singleton.2 hid⟩
  case handledId => exact h.handledId

/-- A message is sent that tells neither an event nor that a test is over. -/
theorem Kept.send (h : l.Kept) {message : Message} (he : message.event? = none)
    (hv : message ≠ .verified) : Kept { l with queue := l.queue ++ [message] } := by
  have hev : events [message] = [] := by rw [events_cons_of_none he, events_nil]
  constructor
  case link =>
    show events (l.queue ++ [message]) = l.pending.map (·.event)
    rw [events_append, hev, List.append_nil]
    exact h.link
  case flag =>
    show l.checks.length + (l.queue ++ [message]).count .verified = l.verifying.toNat
    rw [List.count_append, List.count_singleton, if_neg (by simpa using hv)]
    exact h.flag
  case behind =>
    have hb := h.behind.append message [] h.link (by rw [hev]; rfl) (by simp)
    rw [List.append_nil] at hb
    exact hb
  all_goals first
    | exact h.order | exact h.afterUp | exact h.tellers | exact h.unflagged | exact h.currents
    | exact h.pendingId | exact h.handledId

/-- A test is over, and says so. -/
theorem Kept.sendVerified (h : l.Kept) {i : Nat} (hi : i < l.checks.length) :
    Kept { l with checks := l.checks.eraseIdx i, queue := l.queue ++ [.verified] } := by
  have hne : l.checks ≠ [] := List.length_pos_iff.1 (Nat.lt_of_le_of_lt (Nat.zero_le i) hi)
  constructor
  case link =>
    show events (l.queue ++ [.verified]) = l.pending.map (·.event)
    rw [events_append, events_cons_of_none rfl, events_nil, List.append_nil]
    exact h.link
  case flag =>
    show (l.checks.eraseIdx i).length + (l.queue ++ [Message.verified]).count Message.verified =
      l.verifying.toNat
    rw [List.length_eraseIdx_of_lt hi, List.count_append, List.count_singleton, if_pos (by simp)]
    have hflag := h.flag
    omega
  case behind =>
    have hb := h.behind.append .verified [] h.link rfl (by simp)
    rw [List.append_nil] at hb
    exact hb
  all_goals first
    | exact h.order | exact h.afterUp | exact h.tellers | exact h.unflagged | exact h.currents
    | exact h.pendingId | exact h.handledId

/-- The first message of the queue is taken; it tells neither an event nor that a test is over. -/
theorem Kept.skip (h : l.Kept) {message : Message} {rest : List Message}
    (hq : l.queue = message :: rest) (he : message.event? = none) (hv : message ≠ .verified) :
    Kept { l with queue := rest } := by
  have hev : events [message] = [] := by rw [events_cons_of_none he, events_nil]
  have hlink := h.link
  have hflag := h.flag
  have hbehind := h.behind
  rw [hq] at hlink hflag hbehind
  constructor
  case link =>
    rw [events_cons_of_none he] at hlink
    exact hlink
  case flag =>
    rw [List.count_cons, if_neg (by simpa using hv)] at hflag
    exact hflag
  case behind =>
    have hb := hbehind.tail
    rw [hev] at hb
    exact hb
  all_goals first
    | exact h.order | exact h.afterUp | exact h.tellers | exact h.unflagged | exact h.currents
    | exact h.pendingId | exact h.handledId

/-- The event loop is told that a test is over. -/
theorem Kept.unflag (h : l.Kept) {rest : List Message} (hq : l.queue = .verified :: rest) :
    Kept { l with queue := rest, verifying := false } := by
  have hlink := h.link
  have hflag := h.flag
  have hbehind := h.behind
  rw [hq] at hlink hflag hbehind
  constructor
  case link =>
    rw [events_cons_of_none rfl] at hlink
    exact hlink
  case flag =>
    show l.checks.length + rest.count .verified = 0
    rw [List.count_cons, if_pos (by simp)] at hflag
    have hle : l.verifying.toNat ≤ 1 := Bool.toNat_le _
    omega
  case behind =>
    have hb := hbehind.tail
    rw [events_cons_of_none rfl] at hb
    exact hb
  case unflagged =>
    -- all that waits was behind this message
    intro _ r hr
    exact hbehind [] rest rfl r hr
  all_goals first
    | exact h.order | exact h.afterUp | exact h.tellers | exact h.currents
    | exact h.pendingId | exact h.handledId

/-- A renewed test begins. -/
theorem Kept.flagUp (h : l.Kept) (hv : l.verifying = false) (k : Check) :
    Kept { l with checks := l.checks ++ [k], verifying := true } := by
  constructor
  case flag =>
    show (l.checks ++ [k]).length + l.queue.count .verified = 1
    have hflag := h.flag
    rw [hv, Bool.toNat_false] at hflag
    rw [List.length_append, List.length_singleton]
    omega
  case unflagged => simp
  all_goals first
    | exact h.link | exact h.order | exact h.afterUp | exact h.tellers | exact h.behind
    | exact h.currents | exact h.pendingId | exact h.handledId

/-- Tasks take steps, others come, and timers change. -/
theorem Kept.adjust (h : l.Kept) {attempts : List Attempt} {checks : List Check}
    (ha : l.attempts.length ≤ attempts.length) (hc : checks.length = l.checks.length)
    (active : Option Carrier) (reconnectAt : Option Nat) :
    Kept { l with attempts, checks, active, reconnectAt } := by
  constructor
  case tellers =>
    intro r hr i hi
    exact Nat.lt_of_lt_of_le (h.tellers r hr i hi) ha
  case flag =>
    show checks.length + l.queue.count .verified = l.verifying.toNat
    rw [hc]
    exact h.flag
  all_goals first
    | exact h.link | exact h.order | exact h.afterUp | exact h.behind | exact h.unflagged
    | exact h.currents | exact h.pendingId | exact h.handledId

/-- When nothing waits and all attempts have ended, it may be another connection's turn. -/
theorem Kept.turn (h : l.Kept) (hp : l.pending = [])
    (hend : ∀ r, l.handled.getLast? = some r → r.event.state = .ended) (id : Option String) :
    Kept { l with currentId := id } := by
  constructor
  case pendingId =>
    intro r hr
    have hr' : r ∈ l.pending := hr
    rw [hp] at hr'
    cases hr'
  case handledId => exact fun r hr hne => absurd (hend r hr) hne
  all_goals first
    | exact h.link | exact h.order | exact h.afterUp | exact h.tellers | exact h.flag
    | exact h.behind | exact h.unflagged | exact h.currents

/-- The latest events when one more is handled. -/
def noted (currents : Named Event) (e : Event) : Named Event :=
  if e.state = .ended then currents.erase e.connection.id
  else currents.insert e.connection.id e

/-- The latest event of a connection takes the place of the one before it. -/
theorem noted_pairs {currents : Named Event} {last : Option Report} {r : Report}
    (hc : currents.pairs = currentOf last)
    (hconn : ∀ x, last = some x → x.event.state ≠ .ended →
      r.event.connection = x.event.connection) :
    (noted currents r.event).pairs = currentOf (some r) := by
  obtain ⟨pairs⟩ := currents
  unfold noted
  cases last with
  | none =>
      obtain rfl : pairs = [] := hc
      by_cases hr : r.event.state = .ended
      · simp [currentOf, hr, Named.erase]
      · simp [currentOf, hr, Named.insert, Named.insertPair]
  | some x =>
      by_cases hx : x.event.state = .ended
      · obtain rfl : pairs = [] := by simpa [currentOf, hx] using hc
        by_cases hr : r.event.state = .ended
        · simp [currentOf, hr, Named.erase]
        · simp [currentOf, hr, Named.insert, Named.insertPair]
      · -- the connection of both is the same
        obtain rfl : pairs = [(x.event.connection.id, x.event)] := by simpa [currentOf, hx] using hc
        have hid : r.event.connection = x.event.connection := hconn x rfl hx
        by_cases hr : r.event.state = .ended
        · simp [currentOf, hr, hid, Named.erase]
        · simp [currentOf, hr, hid, Named.insert, Named.insertPair]

/-- The event loop is told an event. -/
theorem Kept.handle (h : l.Kept) {e : Event} {queue : List Message}
    (hq : l.queue = .event e :: queue) :
    ∃ r rest, l.pending = r :: rest ∧ r.event = e ∧
      Kept { l with
        handled := l.handled ++ [r]
        pending := rest
        queue
        currents := noted l.currents e } := by
  have hlink := h.link
  have hflag := h.flag
  have hbehind := h.behind
  rw [hq] at hlink hflag hbehind
  cases hp : l.pending with
  | nil => simp [hp] at hlink
  | cons r rest =>
      rw [hp, events_event, List.map_cons] at hlink
      obtain ⟨rfl, hlink'⟩ := List.cons.inj hlink
      refine ⟨r, rest, rfl, rfl, ?_⟩
      have htold : (l.handled ++ [r]) ++ rest = l.told := by simp [told, hp]
      constructor
      case link => exact hlink'
      case order => rw [told, htold]; exact h.order
      case afterUp => rw [told, htold]; exact h.afterUp
      case tellers => rw [told, htold]; exact h.tellers
      case flag =>
        rw [List.count_cons, if_neg (by simp)] at hflag
        exact hflag
      case behind =>
        have hb := hbehind.tail
        rw [hp] at hb
        exact hb
      case unflagged =>
        intro hv x hx
        exact h.unflagged hv x (hp ▸ List.mem_cons_of_mem r hx)
      case currents =>
        show (noted l.currents r.event).pairs = currentOf (l.handled ++ [r]).getLast?
        rw [List.getLast?_concat]
        refine noted_pairs h.currents fun x hx hne => ?_
        exact ((h.precedes hx hp).follows hne).connection
      case pendingId =>
        intro x hx
        exact h.pendingId x (hp ▸ List.mem_cons_of_mem r hx)
      case handledId =>
        intro x hx _
        obtain rfl : r = x := by simpa using hx
        exact h.pendingId r (hp ▸ List.mem_cons_self)

end Ledger

end Failover.Manager
