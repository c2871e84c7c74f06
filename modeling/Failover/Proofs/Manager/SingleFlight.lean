/-
  Failover.Proofs.Manager.SingleFlight
  ────────────────────────────────────
  **One thing at a time.** While the event loop runs, a manager does
  exactly one of three things: it waits for the timer, it tries one
  connection, or it is connected.  It never does two of them, and it is
  never at anything else.

  It tries a connection until the attempt has told its last event.  An
  attempt that breaks off has not and never will: its service broke off in
  the launch, on a host whose variables are not all text (`Host.entries?`
  is `none`), and the manager goes on trying for ever.

  Main statement: `single_flight` — and besides, at most one probe is on
  its way, only the connection that was tried last has a latest event, and
  no test finds that another carrier has taken the place of its own.
-/
import Failover.Proofs.Manager.Orderly

namespace Failover.Manager

open Service (Fleet)

/-! ## §1. What a manager does. -/

/-- Exactly one of three statements holds. -/
def ExactlyOne (p q r : Prop) : Prop := (p ∧ ¬q ∧ ¬r) ∨ (¬p ∧ q ∧ ¬r) ∨ (¬p ∧ ¬q ∧ r)

/-- An attempt has told its last event: `up`, or an end. -/
def HasFinished (c : Chronicle) (i : Nat) : Prop :=
  ∃ r ∈ c.told, r.teller = .attempt i ∧ (r.event.state = .up ∨ r.event.state = .ended)

/-- An attempt has not told its last event, or its end waits in the queue. -/
def IsEngaged (c : Chronicle) (i : Nat) : Prop :=
  i < c.manager.attempts.length ∧
    (¬HasFinished c i ∨ ∃ r ∈ c.pending, r.teller = .attempt i ∧ r.event.state = .ended)

/-- The timer is armed, no attempt has anything left to tell, and no end waits in the queue. -/
structure IsWaiting (c : Chronicle) : Prop where
  armed : c.manager.loop.reconnectAt.isSome = true
  done : ∀ a ∈ c.manager.attempts, a.isDone = true
  queue : ∀ e, .event e ∈ c.manager.queue → e.state ≠ .ended

/-- The timer is not armed, and exactly one attempt is engaged. -/
structure IsTrying (c : Chronicle) : Prop where
  unarmed : c.manager.loop.reconnectAt = none
  engaged : ∃ i, IsEngaged c i ∧ ∀ j, IsEngaged c j → j = i

/-- The timer is not armed, and the last attempt has finished with `up`; no end was handled since. -/
structure IsConnected (c : Chronicle) : Prop where
  unarmed : c.manager.loop.reconnectAt = none
  up : ∃ n a, n + 1 = c.manager.attempts.length ∧ c.manager.attempts[n]? = some a ∧
    a.isDone = true ∧ c.ledger.CameUp n

/-- The probe was asked and has not answered yet. -/
def Check.isProbing (k : Check) : Bool :=
  match k.phase with
  | .probing .. => true
  | _ => false

/-- The attempt waits for its probe. -/
def Attempt.isProbing (a : Attempt) : Bool :=
  match a.phase with
  | .testing k => k.isProbing
  | _ => false

/-- How many probes are on their way. -/
def probesInFlight (m : Manager) : Nat :=
  m.attempts.countP Attempt.isProbing + m.checks.countP Check.isProbing

/-- No test that is about to look up its carrier finds another one in its place. -/
structure IsUndisplaced (m : Manager) : Prop where
  attempts : ∀ a ∈ m.attempts, ∀ k, a.phase = .testing k → k.phase = .looking →
    m.isDisplaced k.event = false
  checks : ∀ k ∈ m.checks, k.phase = .looking → m.isDisplaced k.event = false

variable {c : Chronicle}

/-! ## §2. Which of them it does. -/

theorem mem_events {e : Event} {queue : List Message} : e ∈ events queue ↔ .event e ∈ queue := by
  unfold events
  rw [List.mem_filterMap]
  constructor
  · rintro ⟨message, hm, he⟩
    cases message <;> cases he
    exact hm
  · intro h
    exact ⟨_, h, rfl⟩

/-- An attempt with nothing to tell is engaged only as long as its end waits. -/
theorem Orderly.ended_of_engaged (h : Orderly c) (hst : c.manager.loop.stage = .running)
    {i : Nat} (hi : IsEngaged c i) (hd : ∀ a, c.manager.attempts[i]? = some a → a.isDone = true) :
    ∃ r ∈ c.pending, r.teller = .attempt i ∧ r.event.state = .ended := by
  obtain ⟨hlt, hor⟩ := hi
  have hget := List.getElem?_eq_getElem hlt
  exact hor.resolve_left fun hn => hn ((h.isDone_iff hst hget).1 (hd _ hget))

/-- Of all that is done only what waits in the queue is engaged. -/
theorem Orderly.not_trying (h : Orderly c) (hst : c.manager.loop.stage = .running)
    (hdone : ∀ a ∈ c.manager.attempts, a.isDone = true)
    (hp : ∀ r ∈ c.pending, ∀ i, r.teller = .attempt i → r.event.state ≠ .ended) :
    ¬IsTrying c := by
  rintro ⟨-, i, hi, -⟩
  obtain ⟨r, hr, ht, hend⟩ := h.ended_of_engaged hst hi
    fun a ha => hdone a (List.mem_of_getElem? ha)
  exact hp r hr i ht hend

/-- Who waits has the timer armed. -/
theorem not_isWaiting (h : c.manager.loop.reconnectAt = none) : ¬IsWaiting c := by
  intro hw
  have harmed := hw.armed
  rw [h] at harmed
  cases harmed

/-- Who waits does nothing else. -/
theorem exactlyOne_of_waiting (hlink : events c.manager.queue = c.pending.map (·.event))
    (hm : c.ledger.Waiting) : ExactlyOne (IsWaiting c) (IsTrying c) (IsConnected c) := by
  have hnil : c.pending = [] := hm.pending
  have hw : IsWaiting c := by
    refine ⟨hm.armed, hm.done, ?_⟩
    intro e he
    rw [← mem_events, hlink, hnil] at he
    cases he
  exact .inl ⟨hw, fun ht => not_isWaiting ht.unarmed hw, fun ht => not_isWaiting ht.unarmed hw⟩

/-- While the last attempt is tried, it is the one that is engaged. -/
theorem Orderly.exactlyOne_of_trying (h : Orderly c) (hst : c.manager.loop.stage = .running)
    {before : List Attempt} {a : Attempt} (hm : c.ledger.Trying before a) :
    ExactlyOne (IsWaiting c) (IsTrying c) (IsConnected c) := by
  have hatt : c.manager.attempts = before ++ [a] := hm.attempts
  have hlast : c.manager.attempts[before.length]? = some a := by rw [hatt]; simp
  have hlt : before.length < c.manager.attempts.length := by
    rw [hatt, List.length_append]
    exact Nat.lt_succ_self _
  have hunfinished : ¬HasFinished c before.length := by
    rintro ⟨r, hr, ht, hstate⟩
    exact hstate.elim (hm.untold r hr ht).1 (hm.untold r hr ht).2
  refine .inr (.inl ⟨not_isWaiting hm.unarmed,
    ⟨hm.unarmed, before.length, ⟨hlt, .inl hunfinished⟩, ?_⟩, ?_⟩)
  · intro j hj
    by_contra hne
    -- all others are done, and no end waits
    have hdone : ∀ x, c.manager.attempts[j]? = some x → x.isDone = true := by
      intro x hx
      by_contra hxd
      obtain ⟨before', heq, rfl⟩ := h.sane.eq_last hx (Bool.eq_false_iff.2 hxd)
      obtain ⟨rfl, -⟩ := List.append_inj' (heq.symm.trans hm.attempts) rfl
      exact hne rfl
    obtain ⟨r, hr, -, hend⟩ := h.ended_of_engaged hst hj hdone
    exact hm.pending r hr hend
  · rintro ⟨-, n, x, hn, hx, hxd, -⟩
    rw [hatt, List.length_append, List.length_singleton] at hn
    obtain rfl : n = before.length := by omega
    obtain rfl : a = x := Option.some.inj (hlast.symm.trans hx)
    rw [hm.busy] at hxd
    cases hxd

/-- When all is done and the last attempt came up, it is connected. -/
theorem isConnected_of_cameUp (hr : c.manager.loop.reconnectAt = none)
    (hdone : ∀ a ∈ c.manager.attempts, a.isDone = true) {n : Nat}
    (hn : n + 1 = c.manager.attempts.length) (hup : c.ledger.CameUp n) : IsConnected c := by
  have hlt : n < c.manager.attempts.length := by omega
  have hget := List.getElem?_eq_getElem hlt
  exact ⟨hr, n, _, hn, hget, hdone _ (List.mem_of_getElem? hget), hup⟩

/-- The end that waits in the queue is that of the last attempt, or of a test of it. -/
theorem Orderly.exactlyOne_of_ending (h : Orderly c) (hst : c.manager.loop.stage = .running)
    {before : List Report} {r : Report} (hm : c.ledger.Ending before r) :
    ExactlyOne (IsWaiting c) (IsTrying c) (IsConnected c) := by
  have hp : c.pending = before ++ [r] := hm.pending
  have honly : ∀ x ∈ c.pending, x.event.state = .ended → x = r := by
    intro x hx hend
    rw [hp] at hx
    rcases List.mem_append.1 hx with hx | hx
    · exact absurd hend (hm.before x hx)
    · exact List.mem_singleton.1 hx
  obtain ⟨n, hn, ⟨ht, hup⟩ | ⟨ht, hup⟩⟩ := hm.teller
  · -- the attempt told it and never came up
    have hlt : n < c.manager.attempts.length := by
      rw [show c.manager.attempts.length = n + 1 from hn.symm]
      exact Nat.lt_succ_self n
    have hmem : r ∈ c.pending := by rw [hp]; simp
    refine .inr (.inl ⟨not_isWaiting hm.unarmed,
      ⟨hm.unarmed, n, ⟨hlt, .inr ⟨r, hmem, ht, hm.ended⟩⟩, ?_⟩, ?_⟩)
    · intro j hj
      obtain ⟨x, hx, hxt, hend⟩ := h.ended_of_engaged hst hj
        fun a ha => hm.done a (List.mem_of_getElem? ha)
      rw [honly x hx hend, ht] at hxt
      exact (Teller.attempt.inj hxt).symm
    · rintro ⟨-, n', x, hn', -, -, before', e, after, heq, hestate, -⟩
      have hn'' : n' + 1 = n + 1 := hn'.trans hn.symm
      obtain rfl : n' = n := Nat.succ.inj hn''
      exact hup ⟨.attempt n', e⟩ (by rw [heq]; simp) rfl hestate
  · refine .inr (.inr ⟨not_isWaiting hm.unarmed, ?_,
      isConnected_of_cameUp hm.unarmed hm.done hn hup⟩)
    refine h.not_trying hst hm.done fun x hx i hi hend => ?_
    rw [honly x hx hend, ht] at hi
    cases hi

/-- **Exactly one of the three** is what a manager does. -/
theorem Orderly.exactlyOne (h : Orderly c) (hst : c.manager.loop.stage = .running) :
    ExactlyOne (IsWaiting c) (IsTrying c) (IsConnected c) := by
  cases h.mode hst with
  | waiting hm => exact exactlyOne_of_waiting (h.kept hst).link hm
  | trying before a hm => exact h.exactlyOne_of_trying hst hm
  | connected hm =>
      obtain ⟨n, hn, hup⟩ := hm.up
      refine .inr (.inr ⟨not_isWaiting hm.unarmed, ?_,
        isConnected_of_cameUp hm.unarmed hm.done hn hup⟩)
      exact h.not_trying hst hm.done fun r hr _ _ => hm.pending r hr
  | ending before r hm => exact h.exactlyOne_of_ending hst hm

/-! ## §3. Probes. -/

/-- Whoever waits for a probe has something to tell. -/
theorem Check.isProbing_of_isQuiet {k : Check} (h : k.isQuiet = true) : k.isProbing = false := by
  unfold isQuiet at h
  unfold isProbing
  split at h <;> simp_all

theorem Attempt.isProbing_of_isDone {a : Attempt} (h : a.isDone = true) : a.isProbing = false := by
  unfold isDone at h
  unfold isProbing
  split at h
  · simp_all
  · simp_all
  · next k hk =>
    rw [hk]
    exact Check.isProbing_of_isQuiet h
  · cases h

/-- Attempts with nothing to tell wait for no probe. -/
theorem countP_attempts {l : List Attempt} (h : ∀ a ∈ l, a.isDone = true) :
    l.countP Attempt.isProbing = 0 := by
  rw [List.countP_eq_zero]
  intro a ha
  rw [Attempt.isProbing_of_isDone (h a ha)]
  decide

/-- Tests with nothing to tell wait for no probe. -/
theorem countP_checks {l : List Check} (h : ∀ k ∈ l, k.isQuiet = true) :
    l.countP Check.isProbing = 0 := by
  rw [List.countP_eq_zero]
  intro k hk
  rw [Check.isProbing_of_isQuiet (h k hk)]
  decide

/-- At most one probe is on its way. -/
theorem Orderly.probesInFlight_le (h : Orderly c) (hst : c.manager.loop.stage = .running) :
    probesInFlight c.manager ≤ 1 := by
  have hone : c.manager.checks.length ≤ 1 := (h.kept hst).checks_length_le
  have hle : c.manager.checks.countP Check.isProbing ≤ c.manager.checks.length :=
    List.countP_le_length
  have hdone : (∀ a ∈ c.manager.attempts, a.isDone = true) →
      c.manager.attempts.countP Attempt.isProbing = 0 := countP_attempts
  have hquiet : (∀ k ∈ c.manager.checks, k.isQuiet = true) →
      c.manager.checks.countP Check.isProbing = 0 := countP_checks
  unfold probesInFlight
  cases h.mode hst with
  | waiting hm => rw [hdone hm.done, hquiet hm.quiet]; omega
  | trying before a hm =>
      have hatt : c.manager.attempts = before ++ [a] := hm.attempts
      have hbefore : ∀ x ∈ before, x.isDone = true := by
        intro x hx
        exact h.sane.done x (by rw [hm.attempts, List.dropLast_concat]; exact hx)
      have hlast : [a].countP Attempt.isProbing ≤ 1 := List.countP_le_length
      rw [hatt, List.countP_append, countP_attempts hbefore, hquiet hm.quiet]
      omega
  | connected hm => rw [hdone hm.done]; omega
  | ending before r hm => rw [hdone hm.done, hquiet hm.quiet]; omega

/-- No test finds that another carrier has taken the place of its own. -/
theorem Orderly.isUndisplaced (h : Orderly c) (hst : c.manager.loop.stage = .running) :
    IsUndisplaced c.manager where
  attempts := by
    intro a ha k hp hk
    have hd : a.isDone = false := by
      unfold Attempt.isDone
      rw [hp]
      show k.isQuiet = false
      unfold Check.isQuiet
      rw [hk]
    exact (h.sane.holds a ha hd).not_displaced (h.sane.attempts a ha) hp
  checks := by
    intro k hk hp
    refine h.not_displaced hst hk ?_
    unfold Check.isQuiet
    rw [hp]

/-! ## §4. All runs. -/

/-- **Single flight.** After every run, as long as the event loop has begun and not stopped: a
manager waits, tries one connection, or is connected, and never two of these.  At most one probe
is on its way, the flag of a renewed test is up exactly while there is one or a message that it is
over, only the connection that was tried last has a latest event, and no test finds its carrier
displaced. -/
theorem single_flight {fleet : Fleet} (h : c.ReachedFrom fleet)
    (hst : c.manager.loop.stage = .running) :
    ExactlyOne (IsWaiting c) (IsTrying c) (IsConnected c) ∧
      probesInFlight c.manager ≤ 1 ∧
      c.manager.checks.length + c.manager.queue.count .verified =
        c.manager.loop.verifying.toNat ∧
      (∀ id ∈ c.manager.loop.currents.keys, c.manager.loop.currentId = some id) ∧
      IsUndisplaced c.manager := by
  have ho := orderly_run h
  exact ⟨ho.exactlyOne hst, ho.probesInFlight_le hst, (ho.kept hst).flag,
    fun _ hid => (ho.kept hst).currents_key hid, ho.isUndisplaced hst⟩

theorem single_flight_twiceTried :
    twiceTriedChronicle.ReachedFrom .empty ∧
      twiceTriedChronicle.manager.loop.stage = .running ∧
      ExactlyOne (IsWaiting twiceTriedChronicle) (IsTrying twiceTriedChronicle)
        (IsConnected twiceTriedChronicle) ∧
      probesInFlight twiceTriedChronicle.manager ≤ 1 := by
  have h : twiceTriedChronicle.ReachedFrom .empty := ⟨_, _, _, _, _, _, rfl⟩
  have hst : twiceTriedChronicle.manager.loop.stage = .running := by decide
  obtain ⟨hone, hprobes, -⟩ := single_flight h hst
  exact ⟨h, hst, hone, hprobes⟩

end Failover.Manager
