/-
  Failover.Proofs.Manager.Modes
  ─────────────────────────────
  **The modes of a manager.** While the event loop runs, the manager waits
  for the timer, tries a connection, is connected, or has told an end that
  the event loop has not handled yet.  Each mode says what the timer, the
  tasks and the reports are like in it, and only in some of them a task can
  tell anything at all.

      waiting ──timer──> trying ──up──> connected
         ^                 │ended          │ended
         └────handled──── ending <─────────┘

  A ledger is `Sane` if its tasks stand where they can, and all attempts
  but the last have nothing to tell.  One lemma for every change of a
  ledger says which mode it leads to.
-/
import Failover.Proofs.Manager.Ledger
import Failover.Proofs.Manager.Standing

namespace Failover.Manager.Ledger

/-! ## §1. Tasks. -/

/-- **The tasks of a ledger stand where they can.** -/
structure Sane (l : Ledger) : Prop where
  attempts : ∀ a ∈ l.attempts, a.Sound
  holds : ∀ a ∈ l.attempts, a.isDone = false → a.Holds l.active
  /-- Only the last attempt may have something to tell. -/
  done : ∀ a ∈ l.attempts.dropLast, a.isDone = true
  checks : ∀ k ∈ l.checks, k.Sound .up

variable {l : Ledger}

/-- What is on a place of a list with one more at its end is there without it, or is that one. -/
theorem getElem?_concat_cases {α : Type} {before : List α} {x y : α} {i : Nat}
    (h : (before ++ [x])[i]? = some y) : before[i]? = some y ∨ i = before.length ∧ x = y := by
  rw [List.getElem?_append] at h
  split at h
  · exact .inl h
  · rw [List.getElem?_singleton] at h
    obtain ⟨hzero, hx⟩ := Option.ite_none_right_eq_some.1 h
    exact .inr ⟨by omega, Option.some.inj hx⟩

/-- An attempt with something to tell is the last one. -/
theorem Sane.eq_last (h : l.Sane) {i : Nat} {a : Attempt} (hi : l.attempts[i]? = some a)
    (hd : a.isDone = false) : ∃ before, l.attempts = before ++ [a] ∧ i = before.length := by
  rcases List.eq_nil_or_concat l.attempts with hnil | ⟨before, x, heq⟩
  · rw [hnil] at hi
    cases hi
  · rw [List.concat_eq_append] at heq
    rw [heq] at hi
    rcases getElem?_concat_cases hi with hi | ⟨rfl, rfl⟩
    · -- all but the last are done
      have hmem : a ∈ l.attempts.dropLast := by
        rw [heq, List.dropLast_concat]
        exact List.mem_of_getElem? hi
      rw [h.done a hmem] at hd
      cases hd
    · exact ⟨before, heq, rfl⟩

/-- An attempt with nothing to tell goes on without telling anything. -/
theorem Sane.setDone (h : l.Sane) (i : Nat) {a : Attempt} (hs : a.Sound) (hd : a.isDone = true) :
    Sane { l with attempts := l.attempts.set i a } := by
  constructor
  case attempts =>
    intro x hx
    rcases List.mem_or_eq_of_mem_set hx with hx | rfl
    · exact h.attempts x hx
    · exact hs
  case holds =>
    intro x hx hxd
    rcases List.mem_or_eq_of_mem_set hx with hx | rfl
    · exact h.holds x hx hxd
    · rw [hd] at hxd
      cases hxd
  case done =>
    intro x hx
    have hx' : x ∈ (l.attempts.set i a).dropLast := hx
    rw [List.dropLast_eq_take, List.take_set] at hx'
    rcases List.mem_or_eq_of_mem_set hx' with hx' | rfl
    · rw [List.length_set, ← List.dropLast_eq_take] at hx'
      exact h.done x hx'
    · exact hd
  case checks => exact h.checks

/-- The last attempt goes on. -/
theorem Sane.setLast (h : l.Sane) {before : List Attempt} {a a' : Attempt}
    (heq : l.attempts = before ++ [a]) (hs : a'.Sound) {active : Option Carrier}
    (ha : a'.isDone = false → a'.Holds active) :
    Sane { l with attempts := before ++ [a'], active } := by
  have hbefore : ∀ x ∈ before, x.isDone = true := by
    intro x hx
    exact h.done x (by rw [heq, List.dropLast_concat]; exact hx)
  constructor
  case attempts =>
    refine List.forall_mem_append.2 ⟨fun x hx => ?_, List.forall_mem_singleton.2 hs⟩
    exact h.attempts x (by rw [heq]; exact List.mem_append_left _ hx)
  case holds =>
    refine List.forall_mem_append.2 ⟨fun x hx hxd => ?_, List.forall_mem_singleton.2 ha⟩
    rw [hbefore x hx] at hxd
    cases hxd
  case done =>
    intro x hx
    have hx' : x ∈ (before ++ [a']).dropLast := hx
    rw [List.dropLast_concat] at hx'
    exact hbefore x hx'
  case checks => exact h.checks

/-- A new attempt comes when all others are done. -/
theorem Sane.push (h : l.Sane) (hd : ∀ a ∈ l.attempts, a.isDone = true) (c : Connection)
    (t : Option Transport) :
    Sane { l with attempts := l.attempts ++ [⟨c, t, .detaching⟩] } := by
  constructor
  case attempts =>
    exact List.forall_mem_append.2 ⟨h.attempts, List.forall_mem_singleton.2 trivial⟩
  case holds =>
    exact List.forall_mem_append.2 ⟨h.holds, List.forall_mem_singleton.2 fun _ => trivial⟩
  case done =>
    intro x hx
    have hx' : x ∈ (l.attempts ++ [(⟨c, t, .detaching⟩ : Attempt)]).dropLast := hx
    rw [List.dropLast_concat] at hx'
    exact hd x hx'
  case checks => exact h.checks

/-- Only the tasks and the active carrier count. -/
theorem Sane.of_eq (h : l.Sane) {l' : Ledger} (ha : l'.attempts = l.attempts)
    (hk : l'.checks = l.checks) (hactive : l'.active = l.active) : l'.Sane where
  attempts := by rw [ha]; exact h.attempts
  holds := by rw [ha, hactive]; exact h.holds
  done := by rw [ha]; exact h.done
  checks := by rw [hk]; exact h.checks

/-- Other tests take the place of those there were. -/
theorem Sane.setChecks (h : l.Sane) {checks : List Check} (hc : ∀ k ∈ checks, k.Sound .up) :
    Sane { l with checks } := ⟨h.attempts, h.holds, h.done, hc⟩

/-- Every attempt with nothing to tell has told `up` or an end. -/
def Finished (l : Ledger) : Prop :=
  ∀ i a, l.attempts[i]? = some a → a.isDone = true →
    ∃ r ∈ l.told, r.teller = .attempt i ∧ (r.event.state = .up ∨ r.event.state = .ended)

/-- What was told once stays told. -/
theorem Finished.mono (h : l.Finished) {l' : Ledger} (ha : l'.attempts = l.attempts)
    (ht : ∀ r ∈ l.told, r ∈ l'.told) : l'.Finished := by
  intro i a hi hd
  rw [ha] at hi
  obtain ⟨r, hr, hteller⟩ := h i a hi hd
  exact ⟨r, ht r hr, hteller⟩

/-- An attempt with nothing to tell goes on. -/
theorem Finished.setDone (h : l.Finished) {i : Nat} {a a' : Attempt}
    (hi : l.attempts[i]? = some a) (hd : a.isDone = true) :
    Finished { l with attempts := l.attempts.set i a' } := by
  intro j x hj hxd
  by_cases hij : i = j
  · exact hij ▸ h i a hi hd
  · have hj' : (l.attempts.set i a')[j]? = some x := hj
    rw [List.getElem?_set_ne hij] at hj'
    exact h j x hj' hxd

/-- The last attempt goes on, or another one comes. -/
theorem Finished.setLast (h : l.Finished) {l' : Ledger} {before rest : List Attempt} {a : Attempt}
    (ha : l.attempts = before ++ rest) (ha' : l'.attempts = before ++ [a])
    (ht : ∀ r ∈ l.told, r ∈ l'.told)
    (hd : a.isDone = true → ∃ r ∈ l'.told, r.teller = .attempt before.length ∧
      (r.event.state = .up ∨ r.event.state = .ended)) : l'.Finished := by
  intro i x hi hxd
  rw [ha'] at hi
  rcases getElem?_concat_cases hi with hi | ⟨rfl, rfl⟩
  · have hi' : l.attempts[i]? = some x := by
      rw [ha, List.getElem?_append_left (List.getElem?_eq_some_iff.1 hi).1]
      exact hi
    obtain ⟨r, hr, hteller⟩ := h i x hi' hxd
    exact ⟨r, ht r hr, hteller⟩
  · exact hd hxd

/-! ## §2. Modes. -/

/-- An attempt has told `up`, and no end was handled since. -/
def CameUp (l : Ledger) (n : Nat) : Prop :=
  ∃ before e after, l.told = before ++ ⟨.attempt n, e⟩ :: after ∧ e.state = .up ∧
    ∀ r ∈ l.handled.drop (before.length + 1), r.event.state ≠ .ended

/-- Nothing is under way: no task has anything to tell, and what was told last was an end. -/
structure Idle (l : Ledger) : Prop where
  done : ∀ a ∈ l.attempts, a.isDone = true
  quiet : ∀ k ∈ l.checks, k.isQuiet = true
  pending : l.pending = []
  last : ∀ e, l.lastTold = some e → e.state = .ended

/-- Nothing is under way, and the timer for the next attempt is armed. -/
structure Waiting (l : Ledger) : Prop extends Idle l where
  armed : l.reconnectAt.isSome = true

/-- The last attempt has something to tell, and has told neither `up` nor an end. -/
structure Trying (l : Ledger) (before : List Attempt) (a : Attempt) : Prop where
  unarmed : l.reconnectAt = none
  attempts : l.attempts = before ++ [a]
  busy : a.isDone = false
  linked : a.Linked l.lastTold
  last : ∀ e, l.lastTold = some e → e.state ≠ .up
  current : l.currentId = some a.connection.id
  quiet : ∀ k ∈ l.checks, k.isQuiet = true
  pending : ∀ r ∈ l.pending, r.event.state ≠ .ended
  untold : ∀ r ∈ l.told, r.teller = .attempt before.length →
    r.event.state ≠ .up ∧ r.event.state ≠ .ended

/-- The last attempt has told `up`, and no end was told since. -/
structure Connected (l : Ledger) : Prop where
  unarmed : l.reconnectAt = none
  done : ∀ a ∈ l.attempts, a.isDone = true
  up : ∃ n, n + 1 = l.attempts.length ∧ l.CameUp n
  active : ∃ k, l.active = some k ∧ l.currentId = some k.connection.id
  current : ∀ e, l.lastTold = some e → l.currentId = some e.connection.id
  pending : ∀ r ∈ l.pending, r.event.state ≠ .ended
  /-- A test with something to tell goes on from what was told last. -/
  tests : ∀ k ∈ l.checks, k.isQuiet = false → l.lastTold = some k.event
  idle : (∀ k ∈ l.checks, k.isQuiet = true) → ∃ e, l.lastTold = some e ∧ e.state = .up

/-- The end of the last attempt was told and is not handled yet. -/
structure Ending (l : Ledger) (before : List Report) (r : Report) : Prop where
  unarmed : l.reconnectAt = none
  done : ∀ a ∈ l.attempts, a.isDone = true
  quiet : ∀ k ∈ l.checks, k.isQuiet = true
  pending : l.pending = before ++ [r]
  ended : r.event.state = .ended
  before : ∀ x ∈ before, x.event.state ≠ .ended
  /-- It was told by the attempt, which did not come up, or by a test of one that did. -/
  teller : ∃ n, n + 1 = l.attempts.length ∧
    ((r.teller = .attempt n ∧ ∀ x ∈ l.told, x.teller = .attempt n → x.event.state ≠ .up) ∨
      (r.teller = .check ∧ l.CameUp n))

/-- **The modes of a manager whose event loop runs.** -/
inductive Mode (l : Ledger) : Prop
  | waiting (h : l.Waiting)
  | trying (before : List Attempt) (a : Attempt) (h : l.Trying before a)
  | connected (h : l.Connected)
  | ending (before : List Report) (r : Report) (h : l.Ending before r)

/-! ## §3. Changes. -/

theorem CameUp.tell {l' : Ledger} {n : Nat} (h : l.CameUp n) (hh : l'.handled = l.handled)
    {new : List Report} (ht : l'.told = l.told ++ new) : l'.CameUp n := by
  obtain ⟨before, e, after, heq, hup, hend⟩ := h
  refine ⟨before, e, after ++ new, ?_, hup, ?_⟩
  · rw [ht, heq]
    simp
  · rw [hh]
    exact hend

theorem CameUp.handle {l' : Ledger} {n : Nat} (h : l.CameUp n) {r : Report}
    (hh : l'.handled = l.handled ++ [r]) (ht : l'.told = l.told) (hr : r.event.state ≠ .ended) :
    l'.CameUp n := by
  obtain ⟨before, e, after, heq, hup, hend⟩ := h
  refine ⟨before, e, after, ht.trans heq, hup, ?_⟩
  intro x hx
  rw [hh, List.drop_append] at hx
  rcases List.mem_append.1 hx with hx | hx
  · exact hend x hx
  · rw [List.mem_singleton.1 (List.mem_of_mem_drop hx)]
    exact hr

/-- The queue, the flag and the latest events do not decide about the mode. -/
theorem Mode.adjust (h : l.Mode) (queue : List Message) (verifying : Bool)
    (currents : Named Event) : Mode { l with queue, verifying, currents } := by
  cases h with
  | waiting h => exact .waiting ⟨⟨h.done, h.quiet, h.pending, h.last⟩, h.armed⟩
  | trying before a h =>
      exact .trying before a ⟨h.unarmed, h.attempts, h.busy, h.linked, h.last, h.current, h.quiet,
        h.pending, h.untold⟩
  | connected h =>
      exact .connected ⟨h.unarmed, h.done, h.up, h.active, h.current, h.pending, h.tests, h.idle⟩
  | ending before r h =>
      exact .ending before r ⟨h.unarmed, h.done, h.quiet, h.pending, h.ended, h.before, h.teller⟩

/-- An attempt with nothing to tell goes on without telling anything. -/
theorem Mode.setDone (h : l.Mode) {i : Nat} {a a' : Attempt} (hi : l.attempts[i]? = some a)
    (hd : a.isDone = true) (hd' : a'.isDone = true) :
    Mode { l with attempts := l.attempts.set i a' } := by
  have hset : (∀ x ∈ l.attempts, x.isDone = true) →
      ∀ x ∈ l.attempts.set i a', x.isDone = true := by
    intro hall x hx
    rcases List.mem_or_eq_of_mem_set hx with hx | rfl
    · exact hall x hx
    · exact hd'
  have hlen : (l.attempts.set i a').length = l.attempts.length := List.length_set
  cases h with
  | waiting h => exact .waiting ⟨⟨hset h.done, h.quiet, h.pending, h.last⟩, h.armed⟩
  | trying before b h =>
      -- the attempt that is busy is another one
      have hlt : i < before.length := by
        by_contra hge
        rw [h.attempts, List.getElem?_append_right (Nat.le_of_not_lt hge)] at hi
        obtain rfl : a = b := by simpa using List.mem_of_getElem? hi
        rw [h.busy] at hd
        cases hd
      have hl : (before.set i a').length = before.length := List.length_set
      refine .trying (before.set i a') b ⟨h.unarmed, ?_, h.busy, h.linked, h.last, h.current,
        h.quiet, h.pending, ?_⟩
      · show l.attempts.set i a' = before.set i a' ++ [b]
        rw [h.attempts, List.set_append_left _ _ hlt]
      · rw [hl]
        exact h.untold
  | connected h =>
      obtain ⟨n, hn, hup⟩ := h.up
      exact .connected ⟨h.unarmed, hset h.done, ⟨n, hn.trans hlen.symm, hup⟩, h.active, h.current,
        h.pending, h.tests, h.idle⟩
  | ending before r h =>
      obtain ⟨n, hn, ht⟩ := h.teller
      exact .ending before r ⟨h.unarmed, hset h.done, h.quiet, h.pending, h.ended, h.before,
        ⟨n, hn.trans hlen.symm, ht⟩⟩

/-- As long as the last attempt has something to tell, it is tried. -/
theorem Mode.trying_of_busy (h : l.Mode) {before : List Attempt} {a : Attempt}
    (heq : l.attempts = before ++ [a]) (hd : a.isDone = false) : l.Trying before a := by
  have hmem : a ∈ l.attempts := by rw [heq]; simp
  have hbusy : ¬∀ x ∈ l.attempts, x.isDone = true := by
    intro hall
    rw [hall a hmem] at hd
    cases hd
  cases h with
  | waiting h => exact absurd h.done hbusy
  | connected h => exact absurd h.done hbusy
  | ending _ _ h => exact absurd h.done hbusy
  | trying before' b h =>
      obtain ⟨rfl, hab⟩ := List.append_inj' (h.attempts.symm.trans heq) rfl
      obtain rfl : b = a := by simpa using hab
      exact h

/-- The last attempt goes on without telling anything, and has still something to tell. -/
theorem Trying.silent {before : List Attempt} {a a' : Attempt} (h : l.Trying before a)
    (hd : a'.isDone = false) (hl : ∀ last, a.Linked last → a'.Linked last)
    (hc : a'.connection = a.connection) (active : Option Carrier) :
    Trying { l with attempts := before ++ [a'], active } before a' :=
  ⟨h.unarmed, rfl, hd, hl _ h.linked, h.last, hc ▸ h.current, h.quiet, h.pending, h.untold⟩

/-- The last attempt tells `up`, and its carrier is connected. -/
theorem Trying.tellsUp {before : List Attempt} {a a' : Attempt} (h : l.Trying before a)
    (hdone : ∀ x ∈ before ++ [a'], x.isDone = true) {e : Event}
    (he : e.connection = a.connection) (hup : e.state = .up) {k : Carrier}
    (hk : k.connection = a.connection) (queue : List Message) :
    Connected { l with
      attempts := before ++ [a'], active := some k, queue
      pending := l.pending ++ [⟨.attempt before.length, e⟩] } where
  unarmed := h.unarmed
  done := hdone
  up := by
    refine ⟨before.length, by simp, l.told, e, [], l.told_append _, hup, ?_⟩
    -- nothing was handled behind it
    intro x hx
    rw [List.drop_eq_nil_of_le] at hx
    · cases hx
    · show l.handled.length ≤ (l.handled ++ l.pending).length + 1
      rw [List.length_append]
      omega
  active := ⟨k, rfl, by rw [hk]; exact h.current⟩
  current := by
    intro x hx
    obtain rfl : e = x := Option.some.inj ((l.lastTold_append _).symm.trans hx)
    rw [he]
    exact h.current
  pending := by
    have hne : e.state ≠ .ended := by rw [hup]; decide
    exact List.forall_mem_append.2 ⟨h.pending, List.forall_mem_singleton.2 hne⟩
  tests := by
    intro x hx hq
    rw [h.quiet x hx] at hq
    cases hq
  idle _ := ⟨e, l.lastTold_append _, hup⟩

/-- The last attempt tells its end without having come up. -/
theorem Trying.tellsEnd {before : List Attempt} {a a' : Attempt} (h : l.Trying before a)
    (hdone : ∀ x ∈ before ++ [a'], x.isDone = true) {e : Event} (hend : e.state = .ended)
    (active : Option Carrier) (queue : List Message) :
    Ending { l with
      attempts := before ++ [a'], active, queue
      pending := l.pending ++ [⟨.attempt before.length, e⟩] }
      l.pending ⟨.attempt before.length, e⟩ where
  unarmed := h.unarmed
  done := hdone
  quiet := h.quiet
  pending := rfl
  ended := hend
  before := h.pending
  teller := by
    refine ⟨before.length, by simp, .inl ⟨rfl, ?_⟩⟩
    rw [told, l.told_append ⟨.attempt before.length, e⟩]
    have hne : e.state ≠ .up := by rw [hend]; decide
    exact List.forall_mem_append.2
      ⟨fun x hx ht => (h.untold x hx ht).1, List.forall_mem_singleton.2 fun _ => hne⟩

/-- The last attempt tells something else, and goes on. -/
theorem Trying.tellsMore {before : List Attempt} {a a' : Attempt} (h : l.Trying before a)
    (hbusy : a'.isDone = false) {e : Event} (hl : a'.Linked (some e))
    (hc : a'.connection = a.connection) (hup : e.state ≠ .up) (hend : e.state ≠ .ended)
    (active : Option Carrier) (queue : List Message) :
    Trying { l with
      attempts := before ++ [a'], active, queue
      pending := l.pending ++ [⟨.attempt before.length, e⟩] } before a' where
  unarmed := h.unarmed
  attempts := rfl
  busy := hbusy
  linked := by
    rw [lastTold, told, l.lastTold_append ⟨.attempt before.length, e⟩]
    exact hl
  last := by
    intro x hx
    obtain rfl : e = x := Option.some.inj ((l.lastTold_append _).symm.trans hx)
    exact hup
  current := by
    rw [hc]
    exact h.current
  quiet := h.quiet
  pending := List.forall_mem_append.2 ⟨h.pending, List.forall_mem_singleton.2 hend⟩
  untold := by
    rw [told, l.told_append ⟨.attempt before.length, e⟩]
    exact List.forall_mem_append.2
      ⟨h.untold, List.forall_mem_singleton.2 fun _ => ⟨hup, hend⟩⟩

/-- **The last attempt tells an event**: it is still tried, has come up, or has ended. -/
theorem Trying.tells {before : List Attempt} {a a' : Attempt} (h : l.Trying before a)
    (hdone : ∀ x ∈ before, x.isDone = true) {e : Event} (hl : a'.Linked (some e))
    (hd : a'.isDone = true ↔ e.state = .up ∨ e.state = .ended)
    (hc : a'.connection = a.connection) (he : e.connection = a.connection)
    {active : Option Carrier}
    (ha : e.state = .up → ∃ k, active = some k ∧ k.connection = a.connection)
    (queue : List Message) :
    Mode { l with
      attempts := before ++ [a'], active, queue
      pending := l.pending ++ [⟨.attempt before.length, e⟩] } := by
  have hall : a'.isDone = true → ∀ x ∈ before ++ [a'], x.isDone = true :=
    fun hd' => List.forall_mem_append.2 ⟨hdone, List.forall_mem_singleton.2 hd'⟩
  by_cases hup : e.state = .up
  · obtain ⟨k, rfl, hk⟩ := ha hup
    exact .connected (h.tellsUp (hall (hd.2 (.inl hup))) he hup hk queue)
  · by_cases hend : e.state = .ended
    · exact .ending _ _ (h.tellsEnd (hall (hd.2 (.inr hend))) hend active queue)
    · have hbusy : a'.isDone = false :=
        Bool.eq_false_iff.2 fun hd' => (hd.1 hd').elim hup hend
      exact .trying before a' (h.tellsMore hbusy hl hc hup hend active queue)

/-- A test with nothing to tell goes on, or is over. -/
theorem Mode.setQuiet (h : l.Mode) {k : Check} (hk : l.checks = [k]) (hq : k.isQuiet = true)
    (checks : List Check) (hc : ∀ x ∈ checks, x.isQuiet = true) (queue : List Message) :
    Mode { l with checks, queue } := by
  have hall : ∀ x ∈ l.checks, x.isQuiet = true := by
    rw [hk]
    intro x hx
    rw [List.mem_singleton.1 hx]
    exact hq
  cases h with
  | waiting h => exact .waiting ⟨⟨h.done, hc, h.pending, h.last⟩, h.armed⟩
  | trying before a h =>
      exact .trying before a ⟨h.unarmed, h.attempts, h.busy, h.linked, h.last, h.current, hc,
        h.pending, h.untold⟩
  | connected h =>
      refine .connected ⟨h.unarmed, h.done, h.up, h.active, h.current, h.pending, ?_,
        fun _ => h.idle hall⟩
      intro x hx hxq
      rw [hc x hx] at hxq
      cases hxq
  | ending before r h =>
      exact .ending before r ⟨h.unarmed, h.done, hc, h.pending, h.ended, h.before, h.teller⟩

/-- Only while it is connected a manager has a test with something to tell. -/
theorem Mode.connected_of_test (h : l.Mode) {k : Check} (hk : k ∈ l.checks)
    (hq : k.isQuiet = false) : l.Connected := by
  have hne : ¬∀ x ∈ l.checks, x.isQuiet = true := by
    intro hall
    rw [hall k hk] at hq
    cases hq
  cases h with
  | waiting h => exact absurd h.quiet hne
  | trying _ _ h => exact absurd h.quiet hne
  | connected h => exact h
  | ending _ _ h => exact absurd h.quiet hne

/-- A test goes on without telling anything. -/
theorem Connected.silent (h : l.Connected) {k k' : Check} (hk : l.checks = [k])
    (hq : k.isQuiet = false) (he : k'.event = k.event)
    (hup : k'.isQuiet = true → k.event.state = .up) : Connected { l with checks := [k'] } := by
  have hlast : l.lastTold = some k.event := h.tests k (by simp [hk]) hq
  refine ⟨h.unarmed, h.done, h.up, h.active, h.current, h.pending, ?_, ?_⟩
  · intro x hx _
    rw [List.mem_singleton.1 hx, he]
    exact hlast
  · intro hall
    exact ⟨k.event, hlast, hup (hall k' (List.mem_singleton.2 rfl))⟩

/-- **A test tells an event**: the connection has ended, or the test goes on. -/
theorem Connected.tells (h : l.Connected) {k k' : Check} (hk : l.checks = [k])
    (hq : k.isQuiet = false) (hf : k.event.Follows k'.event)
    (hd : k'.isQuiet = true ↔ k'.event.state = .up ∨ k'.event.state = .ended)
    (queue : List Message) :
    Mode { l with checks := [k'], queue, pending := l.pending ++ [⟨.check, k'.event⟩] } := by
  obtain ⟨n, hn, hup⟩ := h.up
  have hup' : CameUp { l with
      checks := [k'], queue, pending := l.pending ++ [⟨.check, k'.event⟩] } n :=
    hup.tell rfl (l.told_append ⟨.check, k'.event⟩)
  have hlast := l.lastTold_append ⟨.check, k'.event⟩
  by_cases hend : k'.event.state = .ended
  · exact .ending l.pending ⟨.check, k'.event⟩ ⟨h.unarmed, h.done,
      List.forall_mem_singleton.2 (hd.2 (.inr hend)), rfl, hend, h.pending, n, hn, .inr ⟨rfl, hup'⟩⟩
  · refine .connected ⟨h.unarmed, h.done, ⟨n, hn, hup'⟩, h.active, ?_,
      List.forall_mem_append.2 ⟨h.pending, List.forall_mem_singleton.2 hend⟩,
      List.forall_mem_singleton.2 fun _ => hlast, ?_⟩
    · intro x hx
      obtain rfl : k'.event = x := Option.some.inj (hlast.symm.trans hx)
      rw [hf.connection]
      exact h.current _ (h.tests k (by simp [hk]) hq)
    · intro hall
      have hq' := hall k' (List.mem_singleton.2 rfl)
      exact ⟨k'.event, hlast, (hd.1 hq').resolve_right hend⟩

/-- A connection that is up is tested again. -/
theorem Mode.test (h : l.Mode) {e : Event} (hp : l.pending = []) (hlast : l.lastTold = some e)
    (hup : e.state = .up) (hc : l.checks = []) (verifying : Bool) :
    Mode { l with checks := l.checks ++ [⟨e, .looking⟩], verifying } := by
  cases h with
  | waiting h =>
      have hend := h.last e hlast
      rw [hup] at hend
      cases hend
  | trying _ _ h => exact absurd hup (h.last e hlast)
  | connected h =>
      refine .connected ⟨h.unarmed, h.done, h.up, h.active, h.current, h.pending, ?_, ?_⟩
      · intro x hx _
        rw [hc, List.nil_append] at hx
        rw [List.mem_singleton.1 hx]
        exact hlast
      · intro hall
        cases hall ⟨e, .looking⟩ (by simp)
  | ending before r h =>
      rw [h.pending] at hp
      simp at hp

/-- The event loop is told an event that is no end. -/
theorem Mode.handle (h : l.Mode) {r : Report} {rest : List Report} (hp : l.pending = r :: rest)
    (hr : r.event.state ≠ .ended) (queue : List Message) (currents : Named Event) :
    Mode { l with handled := l.handled ++ [r], pending := rest, queue, currents } := by
  have htold : (l.handled ++ [r]) ++ rest = l.told := by simp [told, hp]
  have hlast : (((l.handled ++ [r]) ++ rest).getLast?.map (·.event)) = l.lastTold := by
    rw [htold]
    rfl
  have hopen : (∀ x ∈ l.pending, x.event.state ≠ .ended) →
      ∀ x ∈ rest, x.event.state ≠ .ended :=
    fun hall x hx => hall x (hp ▸ List.mem_cons_of_mem r hx)
  cases h with
  | waiting h =>
      rw [h.pending] at hp
      cases hp
  | trying before a h =>
      refine .trying before a ⟨h.unarmed, h.attempts, h.busy, ?_, ?_, h.current, h.quiet,
        hopen h.pending, ?_⟩
      · rw [lastTold, told, hlast]
        exact h.linked
      · rw [lastTold, told, hlast]
        exact h.last
      · rw [told, htold]
        exact h.untold
  | connected h =>
      obtain ⟨n, hn, hup⟩ := h.up
      refine .connected ⟨h.unarmed, h.done, ⟨n, hn, hup.handle rfl htold hr⟩, h.active, ?_,
        hopen h.pending, ?_, ?_⟩
      · rw [lastTold, told, hlast]
        exact h.current
      · rw [lastTold, told, hlast]
        exact h.tests
      · rw [lastTold, told, hlast]
        exact h.idle
  | ending before r' h =>
      cases before with
      | nil =>
          -- the only event that waits is the end
          obtain ⟨rfl, -⟩ := List.cons.inj (hp.symm.trans h.pending)
          exact absurd h.ended hr
      | cons x before =>
          obtain ⟨rfl, rfl⟩ := List.cons.inj (hp.symm.trans h.pending)
          obtain ⟨n, hn, ht⟩ := h.teller
          refine .ending before r' ⟨h.unarmed, h.done, h.quiet, rfl, h.ended,
            fun x hx => h.before x (List.mem_cons_of_mem _ hx), n, hn, ?_⟩
          rw [told, htold]
          exact ht.imp_right (And.imp_right fun hup => hup.handle rfl htold hr)

/-- **The event loop is told an end**: the manager waits for the timer. -/
theorem Mode.handleEnd (h : l.Mode) {r : Report} {rest : List Report} (hp : l.pending = r :: rest)
    (hr : r.event.state = .ended) (queue : List Message) (currents : Named Event) (time : Nat) :
    Mode { l with
      handled := l.handled ++ [r], pending := rest, queue, currents
      reconnectAt := some time } := by
  have hmem : r ∈ l.pending := by rw [hp]; exact List.mem_cons_self
  cases h with
  | waiting h =>
      rw [h.pending] at hp
      cases hp
  | trying _ _ h => exact absurd hr (h.pending r hmem)
  | connected h => exact absurd hr (h.pending r hmem)
  | ending before r' h =>
      cases before with
      | nil =>
          obtain ⟨rfl, rfl⟩ := List.cons.inj (hp.symm.trans h.pending)
          refine .waiting ⟨⟨h.done, h.quiet, rfl, ?_⟩, rfl⟩
          intro e he
          obtain rfl : r.event = e := by simpa [lastTold, told] using he
          exact hr
      | cons x before =>
          obtain ⟨rfl, -⟩ := List.cons.inj (hp.symm.trans h.pending)
          exact absurd hr (h.before r List.mem_cons_self)

/-- When nothing is under way, an attempt begins. -/
theorem Idle.connect (h : l.Idle) (hk : l.Kept) (c : Connection) (t : Option Transport) :
    Mode { l with
      attempts := l.attempts ++ [⟨c, t, .detaching⟩]
      reconnectAt := none, currentId := some c.id } := by
  refine .trying l.attempts ⟨c, t, .detaching⟩ ⟨rfl, rfl, rfl, h.last, ?_, rfl, h.quiet, ?_, ?_⟩
  · intro e he
    rw [h.last e he]
    decide
  · intro r hr
    have hr' : r ∈ l.pending := hr
    rw [h.pending] at hr'
    cases hr'
  · -- an attempt that begins has told nothing
    intro r hr ht
    exact absurd (hk.tellers r hr _ ht) (Nat.lt_irrefl _)

/-- When nothing is under way, the timer may be armed. -/
theorem Idle.schedule (h : l.Idle) (time : Nat) : Mode { l with reconnectAt := some time } :=
  .waiting ⟨⟨h.done, h.quiet, h.pending, h.last⟩, rfl⟩

end Failover.Manager.Ledger
