/-
  Failover.Proofs.Manager.Orderly
  ───────────────────────────────
  **Every run is orderly.** A chronicle is `Orderly` if its tasks stand
  where they can, what was told is in order, and while the event loop runs
  the books are kept and one of the modes holds.  Whatever can happen keeps
  it so: one lemma for each action of the manager.

  Main statement: `orderly_run` — after every run from a manager that is
  about to begin the chronicle is orderly.
-/
import Failover.Proofs.Manager.Modes

namespace Failover.Manager

open Service (Fleet)

/-! ## §1. The invariant. -/

/-- What a ledger is like before the event loop begins. -/
structure Ledger.Fresh (l : Ledger) : Prop where
  handled : l.handled = []
  pending : l.pending = []
  events : events l.queue = []
  verified : .verified ∉ l.queue
  attempts : l.attempts = []
  checks : l.checks = []
  reconnectAt : l.reconnectAt = none
  verifying : l.verifying = false
  currents : l.currents.pairs = []

/-- The books are kept before anything happens. -/
theorem Ledger.Fresh.kept {l : Ledger} (h : l.Fresh) : l.Kept where
  link := by rw [h.events, h.pending]; rfl
  order := by rw [told, h.handled, h.pending]; exact Event.inOrder_nil
  afterUp := by rw [told, h.handled, h.pending]; exact List.isChain_nil
  tellers := by rw [told, h.handled, h.pending]; simp
  flag := by
    rw [h.checks, h.verifying, List.count_eq_zero.2 h.verified]
    rfl
  behind := by
    intro q q' heq
    exact absurd (by rw [heq]; simp) h.verified
  unflagged := by rw [h.pending]; simp
  currents := by rw [h.currents, h.handled]; rfl
  pendingId := by rw [h.pending]; simp
  handledId := by rw [h.handled]; simp

/-- Nothing is under way before anything happens. -/
theorem Ledger.Fresh.idle {l : Ledger} (h : l.Fresh) : l.Idle where
  done := by rw [h.attempts]; simp
  quiet := by rw [h.checks]; simp
  pending := h.pending
  last := by rw [lastTold, told, h.handled, h.pending]; simp

theorem Ledger.Fresh.finished {l : Ledger} (h : l.Fresh) : l.Finished := by
  intro i a hi
  rw [h.attempts] at hi
  cases hi

/-- **A chronicle in order**, whatever the event loop has come to. -/
structure Orderly (c : Chronicle) : Prop where
  sane : c.ledger.Sane
  order : Event.InOrder (c.told.map (·.event))
  fresh : c.manager.loop.stage = .starting → c.ledger.Fresh
  kept : c.manager.loop.stage = .running → c.ledger.Kept
  mode : c.manager.loop.stage = .running → c.ledger.Mode
  finished : c.manager.loop.stage = .running → c.ledger.Finished

variable {c : Chronicle}

/-- While the event loop runs, books that are kept are in order. -/
theorem Orderly.of_running {c : Chronicle} {l : Ledger} (hl : c.ledger = l)
    (hst : c.manager.loop.stage = .running) (hs : l.Sane) (hk : l.Kept) (hm : l.Mode)
    (hf : l.Finished) : Orderly c where
  sane := hl ▸ hs
  order := (hl ▸ hk : c.ledger.Kept).order
  fresh h := by rw [hst] at h; cases h
  kept _ := hl ▸ hk
  mode _ := hl ▸ hm
  finished _ := hl ▸ hf

/-- After the event loop has stopped nothing is told any more. -/
theorem Orderly.of_stopped {c : Chronicle} {l : Ledger} (hl : c.ledger = l)
    (hst : c.manager.loop.stage = .stopped) (hs : l.Sane)
    (ho : Event.InOrder (c.told.map (·.event))) : Orderly c where
  sane := hl ▸ hs
  order := ho
  fresh h := by rw [hst] at h; cases h
  kept h := by rw [hst] at h; cases h
  mode h := by rw [hst] at h; cases h
  finished h := by rw [hst] at h; cases h

/-- While there are tasks the event loop has begun. -/
theorem Orderly.begun (h : Orderly c) (ht : c.manager.attempts ≠ [] ∨ c.manager.checks ≠ []) :
    c.manager.loop.stage = .running ∨ c.manager.loop.stage = .stopped := by
  cases hst : c.manager.loop.stage with
  | starting =>
      have hf := h.fresh hst
      exact (ht.elim (fun ha => ha hf.attempts) fun hc => hc hf.checks).elim
  | running => exact .inl rfl
  | stopped => exact .inr rfl

/-- Nothing happens but to what single flight does not depend on. -/
theorem Orderly.of_ledger_eq (h : Orderly c) {c' : Chronicle} (hl : c'.ledger = c.ledger)
    (hst : c'.manager.loop.stage = c.manager.loop.stage) : Orderly c' where
  sane := hl ▸ h.sane
  order := by
    have htold : c'.told = c.told := congrArg Ledger.told hl
    rw [htold]
    exact h.order
  fresh := by rw [hst, hl]; exact h.fresh
  kept := by rw [hst, hl]; exact h.kept
  mode := by rw [hst, hl]; exact h.mode
  finished := by rw [hst, hl]; exact h.finished

/-! ## §2. Requests. -/

/-- A message that tells neither an event nor that a test is over may be sent at any time. -/
theorem Orderly.send (h : Orderly c) {message : Message} (he : message.event? = none)
    (hv : message ≠ .verified) : Orderly { c with manager := c.manager.send message } := by
  by_cases hst : c.manager.loop.stage = .stopped
  · rw [send_stopped hst]
    exact h
  · rw [send_of_not_stopped hst]
    refine ⟨h.sane.of_eq rfl rfl rfl, h.order, ?_, ?_, ?_, fun hr => h.finished hr⟩
    · intro hs
      have hf := h.fresh hs
      refine ⟨hf.handled, hf.pending, ?_, ?_, hf.attempts, hf.checks, hf.reconnectAt,
        hf.verifying, hf.currents⟩
      · show events (c.manager.queue ++ [message]) = []
        have hev : events c.manager.queue = [] := hf.events
        rw [events_append, hev, events_cons_of_none he]
        rfl
      · show Message.verified ∉ c.manager.queue ++ [message]
        intro hm
        rcases List.mem_append.1 hm with hm | hm
        · exact hf.verified hm
        · exact hv (List.mem_singleton.1 hm).symm
    · intro hr
      exact (h.kept hr).send he hv
    · intro hr
      exact (h.mode hr).adjust _ _ _

/-- Whatever others ask for. -/
theorem Orderly.ask (h : Orderly c) (request : Request) :
    Orderly { c with manager := c.manager.ask request } := by
  cases request with
  | updateConnections connections => exact h.send rfl (by simp)
  | updateTransports transports => exact h.send rfl (by simp)
  | subscribe =>
      have h' : Orderly { c with manager :=
          { c.manager with inboxes := c.manager.inboxes ++ [Inbox.mk true []] } } :=
        h.of_ledger_eq rfl rfl
      exact h'.send rfl (by simp)
  | unsubscribe inbox => exact h.of_ledger_eq rfl rfl
  | read inbox left => exact h.of_ledger_eq rfl rfl
  | stop => exact h.send rfl (by simp)
  | call service call => exact h.of_ledger_eq rfl rfl

/-! ## §3. Tasks. -/

/-- What an attempt does changes the ledger in few places. -/
theorem ledger_attempt {m : Manager} {queue : List Message} (hloop : m.loop = c.manager.loop)
    (hchecks : m.checks = c.manager.checks) (hqueue : m.queue = queue) (attempts : List Attempt)
    (pending : List Report) :
    Chronicle.ledger { c with manager := { m with attempts }, pending } =
      { c.ledger with attempts, active := m.active, queue, pending } := by
  unfold Chronicle.ledger
  rw [hloop, hchecks, hqueue]

/-- What a test does changes the ledger in few places. -/
theorem ledger_check {m : Manager} {queue : List Message} (hloop : m.loop = c.manager.loop)
    (hatt : m.attempts = c.manager.attempts) (hact : m.active = c.manager.active)
    (hqueue : m.queue = queue) (checks : List Check) (pending : List Report) :
    Chronicle.ledger { c with manager := { m with checks }, pending } =
      { c.ledger with checks, queue, pending } := by
  unfold Chronicle.ledger
  rw [hloop, hatt, hact, hqueue]

/-- An attempt with nothing to tell goes on. -/
theorem Orderly.attemptDone (h : Orderly c) {i : Nat} {a a' : Attempt}
    (hi : c.manager.attempts[i]? = some a) (hd : a.isDone = true) (hs : a'.Sound)
    (hd' : a'.isDone = true) :
    Orderly { c with manager := { c.manager with attempts := c.manager.attempts.set i a' } } := by
  have hsane := h.sane.setDone i hs hd'
  have hlen : c.manager.attempts.length ≤ (c.manager.attempts.set i a').length := by
    rw [List.length_set]
  rcases h.begun (.inl (List.ne_nil_of_mem (List.mem_of_getElem? hi))) with hst | hst
  · have hk := (h.kept hst).adjust hlen rfl c.manager.active c.manager.loop.reconnectAt
    exact .of_running rfl hst hsane hk ((h.mode hst).setDone hi hd hd')
      ((h.finished hst).setDone hi hd)
  · exact .of_stopped rfl hst hsane h.order

variable {before : List Attempt} {a a' : Attempt} {m : Manager}

/-- The last attempt goes on without telling anything. -/
theorem Orderly.attemptSilent (h : Orderly c) (hst : c.manager.loop.stage = .running)
    (heq : c.ledger.attempts = before ++ [a]) (hd : a.isDone = false)
    (hs : Ledger.Sane { c.ledger with attempts := before ++ [a'], active := m.active })
    (hloop : m.loop = c.manager.loop) (hchecks : m.checks = c.manager.checks)
    (hq : m.queue = c.manager.queue) (hc : a'.connection = a.connection)
    (hd' : a'.isDone = false) (hl : ∀ last, a.Linked last → a'.Linked last) :
    Orderly { c with manager := { m with attempts := before ++ [a'] } } := by
  have hlen : c.ledger.attempts.length ≤ (before ++ [a']).length := by
    rw [heq, List.length_append, List.length_append]
    rfl
  have htry := ((h.mode hst).trying_of_busy heq hd).silent hd' hl hc m.active
  have hf : Ledger.Finished { c.ledger with attempts := before ++ [a'], active := m.active } :=
    (h.finished hst).setLast heq rfl (fun _ hr => hr) fun hdone => by
      rw [hd'] at hdone
      cases hdone
  exact .of_running (ledger_attempt hloop hchecks hq _ c.pending) (by rw [hloop]; exact hst)
    (hs.of_eq rfl rfl rfl) ((h.kept hst).adjust hlen rfl m.active c.manager.loop.reconnectAt)
    (.trying before a' htry) hf

/-- The last attempt tells an event. -/
theorem Orderly.attemptTells (h : Orderly c) (hst : c.manager.loop.stage = .running)
    (heq : c.ledger.attempts = before ++ [a]) (hd : a.isDone = false)
    (hs : Ledger.Sane { c.ledger with attempts := before ++ [a'], active := m.active })
    (hloop : m.loop = c.manager.loop) (hchecks : m.checks = c.manager.checks) {e : Event}
    (hq : m.queue = c.manager.queue ++ [.event e]) (hc : a'.connection = a.connection)
    (he : e.connection = a.connection)
    (hcomes : ∀ last, a.Linked last → Attempt.ComesAfter last e) (hl : a'.Linked (some e))
    (hd' : a'.isDone = true ↔ e.state = .up ∨ e.state = .ended)
    (hup : e.state = .up → ∃ k, m.active = some k ∧ k.connection = a.connection) :
    Orderly { c with
      manager := { m with attempts := before ++ [a'] }
      pending := c.pending ++ [⟨.attempt before.length, e⟩] } := by
  let r : Report := ⟨.attempt before.length, e⟩
  have htry := (h.mode hst).trying_of_busy heq hd
  obtain ⟨hfirst, hafter⟩ := hcomes _ htry.linked
  have hnext : ∀ x, c.ledger.told.getLast? = some x →
      x.event.Precedes r.event ∧ (x.event.state = .up → r.teller = .check) := by
    intro x hx
    obtain ⟨hprec, hne⟩ := hafter x.event (by rw [Ledger.lastTold, hx]; rfl)
    exact ⟨hprec, fun hup => absurd hup hne⟩
  have hteller : ∀ i, r.teller = .attempt i → i < c.ledger.attempts.length := by
    intro i hr
    obtain rfl : before.length = i := Teller.attempt.inj hr
    rw [heq, List.length_append]
    exact Nat.lt_succ_self _
  have hlen : c.ledger.attempts.length ≤ (before ++ [a']).length := by
    rw [heq, List.length_append, List.length_append]
    rfl
  have hk := ((h.kept hst).tell (r := r) hfirst hnext hteller (by simp [r])
    (he ▸ htry.current)).adjust hlen rfl m.active c.manager.loop.reconnectAt
  have hm := htry.tells (fun x hx => h.sane.done x (by rw [heq, List.dropLast_concat]; exact hx))
    hl hd' hc he hup (c.manager.queue ++ [.event e])
  have hf : Ledger.Finished { c.ledger with
      attempts := before ++ [a'], active := m.active
      queue := c.manager.queue ++ [.event e], pending := c.pending ++ [r] } := by
    have htold := c.ledger.told_append r
    refine (h.finished hst).setLast heq rfl ?_ fun hdone => ⟨r, ?_, rfl, hd'.1 hdone⟩
    · intro x hx
      show x ∈ c.ledger.handled ++ (c.ledger.pending ++ [r])
      rw [htold]
      exact List.mem_append_left _ hx
    · show r ∈ c.ledger.handled ++ (c.ledger.pending ++ [r])
      simp
  exact .of_running (ledger_attempt hloop hchecks hq _ _) (by rw [hloop]; exact hst)
    (hs.of_eq rfl rfl rfl) hk hm hf

/-- An attempt takes a step. -/
theorem Orderly.attempt (h : Orderly c) {probe : Probe} {i : Nat} {p : AttemptPhase}
    (hi : c.manager.attempts[i]? = some a) (hstep : a.Step probe c.manager p m) :
    Orderly (c.afterTask (.attempt i)
      { m with attempts := m.attempts.set i { a with phase := p } }) := by
  obtain ⟨hloop, hatt, hchecks⟩ := hstep.frame
  have hmem : a ∈ c.manager.attempts := List.mem_of_getElem? hi
  have hsound : a.Sound := h.sane.attempts a hmem
  have hsound' : Attempt.Sound { a with phase := p } := hstep.sound hsound
  cases hd : a.isDone with
  | true =>
      -- all has been told before
      obtain ⟨rfl, hd'⟩ := hstep.of_isDone hd
      rw [Chronicle.afterTask_of_silent c (.attempt i) (m := { c.manager with
        attempts := c.manager.attempts.set i { a with phase := p } }) rfl]
      exact h.attemptDone hi hd hsound' hd'
  | false =>
      obtain ⟨before, heq, rfl⟩ := h.sane.eq_last hi hd
      have heq' : c.manager.attempts = before ++ [a] := heq
      have hset : m.attempts.set before.length { a with phase := p } =
          before ++ [{ a with phase := p }] := by
        rw [hatt, heq']
        simp
      have hholds := h.sane.holds a hmem hd
      have hs := h.sane.setLast heq hsound' fun _ => hstep.holds hsound hd hholds
      have hsilent : m.queue = c.manager.queue →
          c.afterTask (.attempt before.length)
            { m with attempts := before ++ [{ a with phase := p }] } =
          { c with manager := { m with attempts := before ++ [{ a with phase := p }] } } :=
        fun hq => c.afterTask_of_silent _ (congrArg events hq)
      rw [hset]
      rcases h.begun (.inl (List.ne_nil_of_mem hmem)) with hst | hst
      · cases hstep.tells hsound hd hholds with
        | silent hq hd' hl =>
            rw [hsilent hq]
            exact h.attemptSilent hst heq hd hs hloop hchecks hq rfl hd' hl
        | told e hq he hcomes hl hd' hup =>
            have hq' : m.queue = c.manager.queue ++ [.event e] := by
              rw [hq, tell, send_of_not_stopped (by rw [hst]; decide)]
            rw [c.afterTask_of_tell (.attempt before.length) (m := { m with
              attempts := before ++ [{ a with phase := p }] }) (e := e)
              (show events m.queue = _ by rw [hq', events_append, events_event, events_nil])]
            exact h.attemptTells hst heq hd hs hloop hchecks hq' rfl he hcomes hl hd' hup
      · -- whatever it tells is lost
        have hq : m.queue = c.manager.queue := by
          cases hstep.tells hsound hd hholds with
          | silent hq _ _ => exact hq
          | told e hq => rw [hq, tell, send_stopped hst]
        rw [hsilent hq]
        exact .of_stopped (ledger_attempt hloop hchecks hq _ c.pending) (by rw [hloop]; exact hst)
          (hs.of_eq rfl rfl rfl) h.order

/-- While a test has something to tell, the carrier that it tests is active. -/
theorem Orderly.not_displaced (h : Orderly c) (hst : c.manager.loop.stage = .running) {k : Check}
    (hk : k ∈ c.manager.checks) (hq : k.isQuiet = false) :
    c.manager.isDisplaced k.event = false := by
  have hcon := (h.mode hst).connected_of_test hk hq
  obtain ⟨carrier, hact, hid⟩ := hcon.active
  have hid' := hcon.current k.event (hcon.tests k hk hq)
  have hsame : carrier.connection.id = k.event.connection.id :=
    Option.some.inj (hid.symm.trans hid')
  have hact' : c.manager.active = some carrier := hact
  unfold isDisplaced
  rw [hact', Option.any_some, hsame, bne_self_eq_false]

/-- The test there is while the event loop runs. -/
theorem Ledger.Kept.checks_eq {l : Ledger} (h : l.Kept) {i : Nat} {k : Check}
    (hi : l.checks[i]? = some k) : i = 0 ∧ l.checks = [k] := by
  have hle := h.checks_length_le
  have hlt : i < l.checks.length := (List.getElem?_eq_some_iff.1 hi).1
  obtain rfl : i = 0 := by omega
  obtain ⟨x, hx⟩ := List.length_eq_one_iff.1 (show l.checks.length = 1 by omega)
  rw [hx] at hi ⊢
  cases hi
  exact ⟨rfl, rfl⟩

variable {k k' : Check}

/-- A test goes on without telling anything. -/
theorem Orderly.checkSilent (h : Orderly c) (hst : c.manager.loop.stage = .running)
    (heq : c.ledger.checks = [k]) (hs : Ledger.Sane { c.ledger with checks := [k'] })
    (hloop : m.loop = c.manager.loop) (hatt : m.attempts = c.manager.attempts)
    (hact : m.active = c.manager.active) (hq : m.queue = c.manager.queue)
    (hm : Ledger.Mode { c.ledger with checks := [k'] }) :
    Orderly { c with manager := { m with checks := [k'] } } := by
  have hlen : ([k'] : List Check).length = c.ledger.checks.length := by rw [heq]; rfl
  have hk := (h.kept hst).adjust (Nat.le_refl _) hlen c.manager.active c.manager.loop.reconnectAt
  exact .of_running (ledger_check hloop hatt hact hq _ c.pending) (by rw [hloop]; exact hst) hs hk
    hm ((h.finished hst).mono rfl fun _ hr => hr)

/-- A test tells an event. -/
theorem Orderly.checkTells (h : Orderly c) (hst : c.manager.loop.stage = .running)
    (heq : c.ledger.checks = [k]) (hquiet : k.isQuiet = false)
    (hs : Ledger.Sane { c.ledger with checks := [k'] })
    (hloop : m.loop = c.manager.loop) (hatt : m.attempts = c.manager.attempts)
    (hact : m.active = c.manager.active) (hq : m.queue = c.manager.queue ++ [.event k'.event])
    (hfol : k.event.Follows k'.event)
    (hquiet' : k'.isQuiet = true ↔ k'.event.state = .up ∨ k'.event.state = .ended) :
    Orderly { c with
      manager := { m with checks := [k'] }, pending := c.pending ++ [⟨.check, k'.event⟩] } := by
  let r : Report := ⟨.check, k'.event⟩
  have hcon := (h.mode hst).connected_of_test (by rw [heq]; simp) hquiet
  have hlast : c.ledger.lastTold = some k.event := hcon.tests k (by rw [heq]; simp) hquiet
  have hlen : ([k'] : List Check).length = c.ledger.checks.length := by rw [heq]; rfl
  have hnext : ∀ x, c.ledger.told.getLast? = some x →
      x.event.Precedes r.event ∧ (x.event.state = .up → r.teller = .check) := by
    intro x hx
    have hx' : x.event = k.event := by
      rw [Ledger.lastTold, hx] at hlast
      exact Option.some.inj hlast
    rw [hx']
    exact ⟨.inr hfol, fun _ => rfl⟩
  have hid : c.ledger.currentId = some r.event.connection.id := by
    show _ = some k'.event.connection.id
    rw [hfol.connection]
    exact hcon.current _ hlast
  have hk := ((h.kept hst).tell (r := r) (by rw [hlast]; simp) hnext (by simp [r])
    (fun _ => by rw [heq]; simp) hid).adjust (Nat.le_refl _) hlen c.manager.active
    c.manager.loop.reconnectAt
  have hf : Ledger.Finished { c.ledger with
      checks := [k'], queue := c.manager.queue ++ [.event k'.event], pending := c.pending ++ [r] } := by
    refine (h.finished hst).mono rfl fun x hx => ?_
    show x ∈ c.ledger.handled ++ (c.ledger.pending ++ [r])
    rw [c.ledger.told_append r]
    exact List.mem_append_left _ hx
  exact .of_running (ledger_check hloop hatt hact hq _ _) (by rw [hloop]; exact hst)
    (hs.of_eq rfl rfl rfl) hk (hcon.tells heq hquiet hfol hquiet' _) hf

/-- A renewed test takes a step. -/
theorem Orderly.check (h : Orderly c) {probe : Probe} {i : Nat}
    (hi : c.manager.checks[i]? = some k) (hstep : k.Step probe c.manager k' m) :
    Orderly (c.afterTask .check { m with checks := m.checks.set i k' }) := by
  obtain ⟨hloop, hatt, hchk, hact, -⟩ := hstep.frame
  have hmem : k ∈ c.manager.checks := List.mem_of_getElem? hi
  have hsound := h.sane.checks k hmem
  have hsound' := hstep.sound (.inr rfl) hsound
  have hsilent : ∀ checks : List Check, m.queue = c.manager.queue →
      c.afterTask .check { m with checks } = { c with manager := { m with checks } } :=
    fun _ hq => c.afterTask_of_silent _ (congrArg events hq)
  rcases h.begun (.inr (List.ne_nil_of_mem hmem)) with hst | hst
  · obtain ⟨rfl, heq⟩ := (h.kept hst).checks_eq hi
    have heq' : c.manager.checks = [k] := heq
    have hset : m.checks.set 0 k' = [k'] := by rw [hchk, heq']; rfl
    have hs : Ledger.Sane { c.ledger with checks := [k'] } :=
      h.sane.setChecks (List.forall_mem_singleton.2 hsound')
    rw [hset]
    cases hquiet : k.isQuiet with
    | true =>
        obtain ⟨rfl, rfl⟩ := hstep.of_isQuiet hquiet
        rw [hsilent _ rfl]
        exact h.checkSilent hst heq hs rfl rfl rfl rfl ((h.mode hst).setQuiet heq hquiet
          [{ k with phase := .finished }] (List.forall_mem_singleton.2 rfl) c.manager.queue)
    | false =>
        cases hstep.tells (.inr rfl) hsound fun _ => h.not_displaced hst hmem hquiet with
        | silent hq hev hquiet' =>
            have hup : k'.isQuiet = true → k.event.state = .up := by
              intro hq'
              exact (hquiet' hq').resolve_left (by rw [hquiet]; decide)
            have hcon := (h.mode hst).connected_of_test hmem hquiet
            rw [hsilent _ hq]
            exact h.checkSilent hst heq hs hloop hatt hact hq
              (.connected (hcon.silent heq hquiet hev hup))
        | told hq hfol hquiet' =>
            have hq' : m.queue = c.manager.queue ++ [.event k'.event] := by
              rw [hq, tell, send_of_not_stopped (by rw [hst]; decide)]
            rw [c.afterTask_of_tell .check (m := { m with checks := [k'] }) (e := k'.event)
              (show events m.queue = _ by rw [hq', events_append, events_event, events_nil])]
            exact h.checkTells hst heq hquiet hs hloop hatt hact hq' hfol hquiet'
  · -- whatever it tells is lost
    have hq : m.queue = c.manager.queue := by
      cases hstep with
      | told s rest e hp he => rw [tell, send_stopped hst]
      | _ => rfl
    have hs : Ledger.Sane { c.ledger with checks := m.checks.set i k' } := by
      refine h.sane.setChecks fun x hx => ?_
      rcases List.mem_or_eq_of_mem_set hx with hx | rfl
      · exact h.sane.checks x (by rw [hchk] at hx; exact hx)
      · exact hsound'
    rw [hsilent _ hq]
    exact .of_stopped (ledger_check hloop hatt hact hq _ c.pending) (by rw [hloop]; exact hst) hs
      h.order

/-- A renewed test that is over says so. -/
theorem Orderly.checkOver (h : Orderly c) {i : Nat} {k : Check}
    (hi : c.manager.checks[i]? = some k) (hp : k.phase = .finished) :
    Orderly (c.afterTask .check
      ({ c.manager with checks := c.manager.checks.eraseIdx i }.send .verified)) := by
  have hmem : k ∈ c.manager.checks := List.mem_of_getElem? hi
  have hs : Ledger.Sane { c.ledger with checks := c.manager.checks.eraseIdx i } :=
    h.sane.setChecks fun x hx => h.sane.checks x (List.mem_of_mem_eraseIdx hx)
  rcases h.begun (.inr (List.ne_nil_of_mem hmem)) with hst | hst
  · have hq : k.isQuiet = true := by unfold Check.isQuiet; rw [hp]
    have hlt : i < c.manager.checks.length := (List.getElem?_eq_some_iff.1 hi).1
    obtain ⟨rfl, heq⟩ := (h.kept hst).checks_eq hi
    have heq' : c.manager.checks = [k] := heq
    have hk := (h.kept hst).sendVerified hlt
    have hm := (h.mode hst).setQuiet heq hq (c.manager.checks.eraseIdx 0)
      (by rw [heq']; simp) (c.manager.queue ++ [.verified])
    have hne : ({ c.manager with checks := c.manager.checks.eraseIdx 0 } : Manager).loop.stage ≠
        .stopped := by
      show c.manager.loop.stage ≠ .stopped
      rw [hst]
      decide
    rw [send_of_not_stopped hne, Chronicle.afterTask_of_silent]
    · exact .of_running rfl hst (hs.of_eq rfl rfl rfl) hk hm
        ((h.finished hst).mono rfl fun _ hr => hr)
    · show events (c.manager.queue ++ [.verified]) = events c.manager.queue
      rw [events_append, events_cons_of_none rfl, events_nil, List.append_nil]
  · rw [send_stopped (show ({ c.manager with
      checks := c.manager.checks.eraseIdx i } : Manager).loop.stage = .stopped from hst)]
    rw [Chronicle.afterTask_of_silent c .check (m := { c.manager with
      checks := c.manager.checks.eraseIdx i }) rfl]
    exact .of_stopped rfl hst hs h.order

/-! ## §4. Messages. -/

/-- What the event loop does with an event changes the ledger in few places. -/
theorem ledger_handleEvent (m : Manager) (e : Event) (handled pending : List Report) :
    Chronicle.ledger ⟨m.handleEvent e, handled, pending⟩ =
      { Chronicle.ledger ⟨m, handled, pending⟩ with
        currents := Ledger.noted m.loop.currents e
        reconnectAt := if e.state = .ended then some (m.clock + m.loop.settings.reconnectDelay)
          else m.loop.reconnectAt } := by
  unfold Manager.handleEvent Ledger.noted
  dsimp only
  split <;> rfl

theorem stage_handleEvent (m : Manager) (e : Event) :
    (m.handleEvent e).loop.stage = m.loop.stage := by
  unfold Manager.handleEvent
  dsimp only
  split <;> rfl

/-- The event loop takes an event. -/
theorem Orderly.handleEvent (h : Orderly c) (hst : c.manager.loop.stage = .running) {e : Event}
    {rest : List Message} (hq : c.manager.queue = .event e :: rest) :
    Orderly (c.afterReceive ({ c.manager with queue := rest }.handleEvent e)) := by
  obtain ⟨r, reports, hp, rfl, hk⟩ := (h.kept hst).handle hq
  have hp' : c.pending = r :: reports := hp
  unfold Chronicle.afterReceive
  rw [hq, hp']
  show Orderly ⟨_, c.handled ++ [r], reports⟩
  have hst' := (stage_handleEvent { c.manager with queue := rest } r.event).trans hst
  have hl := ledger_handleEvent { c.manager with queue := rest } r.event (c.handled ++ [r]) reports
  have hf : Ledger.Finished { c.ledger with
      handled := c.handled ++ [r], pending := reports, queue := rest
      currents := Ledger.noted c.manager.loop.currents r.event } := by
    refine (h.finished hst).mono rfl fun x hx => ?_
    have htold : c.ledger.told = (c.handled ++ [r]) ++ reports := by
      rw [Ledger.told, hp, List.append_assoc]
      rfl
    rw [htold] at hx
    exact hx
  by_cases hend : r.event.state = .ended
  · rw [if_pos hend] at hl
    have hm := (h.mode hst).handleEnd hp hend rest (Ledger.noted c.manager.loop.currents r.event)
      (c.manager.clock + c.manager.loop.settings.reconnectDelay)
    have hk' := hk.adjust (Nat.le_refl _) rfl c.manager.active
      (some (c.manager.clock + c.manager.loop.settings.reconnectDelay))
    exact .of_running hl hst' (h.sane.of_eq rfl rfl rfl) hk' hm (hf.mono rfl fun _ hr => hr)
  · rw [if_neg hend] at hl
    have hm := (h.mode hst).handle hp hend rest (Ledger.noted c.manager.loop.currents r.event)
    exact .of_running hl hst' (h.sane.of_eq rfl rfl rfl) hk hm hf

/-- The event loop takes the first message of its queue. -/
theorem Orderly.receive (h : Orderly c) (hst : c.manager.loop.stage = .running)
    {message : Message} {rest : List Message} (hq : c.manager.queue = message :: rest)
    (shuffle : Shuffle) :
    Orderly (c.afterReceive ({ c.manager with queue := rest }.handle shuffle message)) := by
  have hs : ∀ {l : Ledger}, l.attempts = c.ledger.attempts → l.checks = c.ledger.checks →
      l.active = c.ledger.active → l.Sane := h.sane.of_eq
  have hf := h.finished hst
  cases message with
  | event e => exact h.handleEvent hst hq
  | addListener inbox =>
      unfold Chronicle.afterReceive
      rw [hq]
      exact .of_running rfl hst (hs rfl rfl rfl) ((h.kept hst).skip hq rfl (by simp))
        ((h.mode hst).adjust _ _ _) hf
  | updateConnections connections =>
      unfold Chronicle.afterReceive
      rw [hq]
      exact .of_running rfl hst (hs rfl rfl rfl) ((h.kept hst).skip hq rfl (by simp))
        ((h.mode hst).adjust _ _ _) hf
  | updateTransports transports =>
      unfold Chronicle.afterReceive
      rw [hq]
      exact .of_running rfl hst (hs rfl rfl rfl) ((h.kept hst).skip hq rfl (by simp))
        ((h.mode hst).adjust _ _ _) hf
  | verified =>
      unfold Chronicle.afterReceive
      rw [hq]
      exact .of_running rfl hst (hs rfl rfl rfl) ((h.kept hst).unflag hq)
        ((h.mode hst).adjust _ _ _) hf
  | stop =>
      unfold Chronicle.afterReceive
      rw [hq]
      refine .of_stopped rfl rfl (hs rfl rfl rfl) ?_
      -- what was not handled is lost
      have ho := h.order
      unfold Chronicle.told at ho ⊢
      rw [List.map_append] at ho
      rw [List.append_nil]
      exact ho.left

/-! ## §5. Timers. -/

/-- When nothing is under way, the next connection has its turn. -/
theorem Orderly.connectCurrent (hst : c.manager.loop.stage = .running) (hs : c.ledger.Sane)
    (hk : c.ledger.Kept) (hi : c.ledger.Idle) (hr : c.ledger.reconnectAt = none)
    (hf : c.ledger.Finished) : Orderly { c with manager := c.manager.connectCurrent } := by
  unfold Manager.connectCurrent
  cases hcur : c.manager.loop.rotation.current with
  | none =>
      have hk' := hk.adjust (Nat.le_refl _) rfl c.manager.active
        (some (c.manager.clock + c.manager.loop.settings.reconnectDelay))
      exact .of_running rfl hst (hs.of_eq rfl rfl rfl) hk' (hi.schedule _) hf
  | some conn =>
      have hend : ∀ r, c.ledger.handled.getLast? = some r → r.event.state = .ended := by
        intro r hr
        refine hi.last r.event ?_
        rw [Ledger.lastTold, Ledger.told, hi.pending, List.append_nil, hr]
        rfl
      have hm := hi.connect hk conn (c.manager.loop.transports.get? conn.transport)
      rw [← hr] at hm
      let a : Attempt := ⟨conn, c.manager.loop.transports.get? conn.transport, .detaching⟩
      have hlen : c.ledger.attempts.length ≤ (c.ledger.attempts ++ [a]).length := by
        rw [List.length_append]
        omega
      have hk' := (hk.turn hi.pending hend (some conn.id)).adjust hlen rfl c.manager.active
        c.ledger.reconnectAt
      have hf' : Ledger.Finished { c.ledger with
          attempts := c.ledger.attempts ++ [a], currentId := some conn.id } :=
        hf.setLast (List.append_nil _).symm rfl (fun _ hr => hr) fun hd => by cases hd
      exact .of_running rfl hst ((hs.push hi.done conn _).of_eq rfl rfl rfl) hk' hm hf'

/-- The event loop begins. -/
theorem Orderly.begin (h : Orderly c) (hst : c.manager.loop.stage = .starting) :
    Orderly { c with manager := c.manager.begin } := by
  have hf := h.fresh hst
  let c' : Chronicle := { c with manager :=
    { c.manager with loop := { c.manager.loop with stage := .running } } }
  have hl : c'.ledger = c.ledger := rfl
  exact .connectCurrent (c := c') rfl (hl ▸ h.sane) (hl ▸ hf.kept) (hl ▸ hf.idle)
    (hl ▸ hf.reconnectAt) (hl ▸ hf.finished)

/-- While the timer for the next attempt is armed nothing is under way. -/
theorem Orderly.idle_of_armed (h : Orderly c) (hst : c.manager.loop.stage = .running)
    (harmed : c.manager.loop.reconnectAt.isSome = true) : c.ledger.Idle := by
  have hunarmed : c.ledger.reconnectAt ≠ none := by
    intro hnone
    have hnone' : c.manager.loop.reconnectAt = none := hnone
    rw [hnone'] at harmed
    cases harmed
  cases h.mode hst with
  | waiting hm => exact hm.toIdle
  | trying _ _ hm => exact absurd hm.unarmed hunarmed
  | connected hm => exact absurd hm.unarmed hunarmed
  | ending _ _ hm => exact absurd hm.unarmed hunarmed

/-- The timer for the next attempt fires. -/
theorem Orderly.reconnect (h : Orderly c) (hst : c.manager.loop.stage = .running)
    (harmed : c.manager.loop.reconnectAt.isSome = true) :
    Orderly { c with manager := c.manager.reconnect } := by
  have hidle := h.idle_of_armed hst harmed
  let c' : Chronicle := { c with manager := { c.manager with loop := { c.manager.loop with
    reconnectAt := none, rotation := c.manager.loop.rotation.advance } } }
  have hk : c'.ledger.Kept := (h.kept hst).adjust (Nat.le_refl _) rfl c.manager.active none
  exact .connectCurrent (c := c') hst (h.sane.of_eq rfl rfl rfl) hk
    ⟨hidle.done, hidle.quiet, hidle.pending, hidle.last⟩ rfl (h.finished hst)

/-- When a connection is up and no test is under way, nothing waits in the queue. -/
theorem Ledger.Kept.pending_of_up {l : Ledger} (h : l.Kept) (hv : l.verifying = false)
    {r : Report} (hr : l.handled.getLast? = some r) (hup : r.event.state = .up) :
    l.pending = [] := by
  cases hp : l.pending with
  | nil => rfl
  | cons x rest =>
      -- what comes behind would be told by a test
      have hc := h.afterUp
      unfold told at hc
      rw [List.isChain_append] at hc
      have ht := hc.2.2 r (by simp [hr]) x (by simp [hp]) hup
      exact absurd ht (h.unflagged hv x (by simp [hp]))

/-- The timer for the next test fires. -/
theorem Orderly.reverify (h : Orderly c) (hst : c.manager.loop.stage = .running) :
    Orderly { c with manager := c.manager.reverify } := by
  unfold Manager.reverify
  dsimp only
  split
  · exact h.of_ledger_eq rfl rfl
  · next hv =>
    split
    · exact h.of_ledger_eq rfl rfl
    · next e he =>
      have hk := h.kept hst
      have hv' : c.ledger.verifying = false := Bool.eq_false_iff.2 hv
      obtain ⟨hcur, hup⟩ := Option.filter_eq_some_iff.1 he
      have hup' : e.state = .up := by simpa using hup
      obtain ⟨r, hr, rfl, hid⟩ := hk.of_current hcur
      have hp := hk.pending_of_up hv' hr hup'
      have hlast : c.ledger.lastTold = some r.event := by
        rw [Ledger.lastTold, Ledger.told, hp, List.append_nil, hr]
        rfl
      have hnil : c.ledger.checks = [] := by
        have hflag := hk.flag
        rw [hv', Bool.toNat_false] at hflag
        exact List.length_eq_zero_iff.1 (by omega)
      have hs : Ledger.Sane { c.ledger with
          checks := c.ledger.checks ++ [⟨r.event, .looking⟩] } := by
        refine h.sane.setChecks ?_
        exact List.forall_mem_append.2 ⟨h.sane.checks, List.forall_mem_singleton.2 hup'⟩
      exact .of_running rfl hst (hs.of_eq rfl rfl rfl) (hk.flagUp hv' ⟨r.event, .looking⟩)
        ((h.mode hst).test hp hlast hup' hnil true) (h.finished hst)

/-! ## §6. Runs. -/

/-- **Whatever can happen keeps a chronicle orderly.** -/
theorem Orderly.move (h : Orderly c) (mv : Move) : Orderly (c.move mv) := by
  cases mv with
  | ask request => exact h.ask request
  | act host probe action =>
      unfold Chronicle.move
      dsimp only
      cases hs : c.manager.step? host probe action with
      | none => exact h
      | some m =>
          unfold Manager.step? at hs
          cases action with
          | begin =>
              obtain ⟨hst, hs⟩ := Option.ite_none_right_eq_some.1 hs
              cases hs
              exact h.begin hst
          | receive shuffle =>
              dsimp only at hs
              split at hs
              · next message rest hst hq =>
                cases hs
                exact h.receive hst hq shuffle
              · cases hs
          | reconnect =>
              obtain ⟨⟨hst, hany⟩, hs⟩ := Option.ite_none_right_eq_some.1 hs
              cases hs
              exact h.reconnect hst (Option.isSome_of_any hany)
          | reverify =>
              obtain ⟨⟨hst, -⟩, hs⟩ := Option.ite_none_right_eq_some.1 hs
              cases hs
              exact h.reverify hst
          | attempt i =>
              obtain ⟨a, p, m₁, hi, hstep, rfl⟩ := attemptStep?_eq_some hs
              exact h.attempt hi hstep
          | check i =>
              obtain ⟨k, hi, ⟨hp, rfl⟩ | ⟨k', m₁, hstep, rfl⟩⟩ := checkStep?_eq_some hs
              · exact h.checkOver hi hp
              · exact h.check hi hstep
          | fleet action =>
              obtain ⟨f, -, rfl⟩ := Option.map_eq_some_iff.1 hs
              exact h.of_ledger_eq rfl rfl

/-- A manager that is about to begin is in order. -/
theorem orderly_create (settings : Settings) (fleet : Fleet) (registry : String)
    (transports : Named Transport) (shuffle : Shuffle) (connections : List Connection) :
    Orderly (chronicle (create settings fleet registry transports shuffle connections)) where
  sane := by
    refine ⟨?_, ?_, ?_, ?_⟩ <;> intro x hx <;> cases hx
  order := Event.inOrder_nil
  fresh _ := ⟨rfl, rfl, rfl, List.not_mem_nil, rfl, rfl, rfl, rfl, rfl⟩
  kept h := by cases h
  mode h := by cases h
  finished h := by cases h

/-- **Every run of a manager is orderly.** -/
theorem orderly_run {fleet : Fleet} (h : c.ReachedFrom fleet) : Orderly c := by
  obtain ⟨settings, registry, transports, shuffle, connections, moves, rfl⟩ := h
  exact Chronicle.run_induction
    (orderly_create settings fleet registry transports shuffle connections) moves
    fun _ h mv _ => h.move mv

/-- An attempt has told `up` or an end exactly when it has nothing to tell any more. -/
theorem Orderly.isDone_iff (h : Orderly c) (hst : c.manager.loop.stage = .running) {i : Nat}
    {a : Attempt} (hi : c.manager.attempts[i]? = some a) :
    a.isDone = true ↔ ∃ r ∈ c.told, r.teller = .attempt i ∧
      (r.event.state = .up ∨ r.event.state = .ended) := by
  refine ⟨h.finished hst i a hi, ?_⟩
  rintro ⟨r, hr, ht, hstate⟩
  by_contra hne
  have hd : a.isDone = false := Bool.eq_false_iff.2 hne
  obtain ⟨before, heq, rfl⟩ := h.sane.eq_last hi hd
  have hun := ((h.mode hst).trying_of_busy heq hd).untold r hr ht
  exact hstate.elim hun.1 hun.2

end Failover.Manager
