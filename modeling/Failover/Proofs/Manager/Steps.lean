/-
  Failover.Proofs.Manager.Steps
  ─────────────────────────────
  **What a step of a task can be.** `Check.Step` and `Attempt.Step` list
  the steps of a test and of an attempt, one rule for each, with the
  condition under which the step is taken and all that it changes.  What
  is proved of tasks goes by cases on these rules.

  Main statements: `Check.step_of_step?` and `Attempt.step_of_advance?` —
  a step that is taken is one of those listed.
-/
import Failover.Proofs.Manager.Chronicle

namespace Failover.Manager

open Service

/-! ## §1. Events. -/

namespace Event

/-- An event follows one that has not ended the attempt, and changes the state only. -/
theorem next_eq_ok {e e' : Event} {s : State} (h : e.next s = .ok e') :
    e.state ≠ .ended ∧ e' = { e with state := s } := by
  unfold next at h
  split at h
  · cases h
  · next hs =>
    cases h
    exact ⟨hs, rfl⟩

/-- Only after the end there is no next event. -/
theorem next_eq_error {e : Event} {s : State} {b : Breach} (h : e.next s = .error b) :
    e.state = .ended := by
  unfold next at h
  split at h
  · assumption
  · cases h

theorem next_of_not_ended {e : Event} (h : e.state ≠ .ended) (s : State) :
    e.next s = .ok { e with state := s } := by
  unfold next
  rw [if_neg h]

end Event

/-! ## §2. Tests. -/

/-- Whether a carrier for another connection than that of an event is active. -/
def isDisplaced (m : Manager) (e : Event) : Bool :=
  m.active.any fun k => k.connection.id != e.connection.id

/-- The steps of a test. -/
inductive Check.Step (probe : Probe) (c : Check) (m : Manager) : Check → Manager → Prop
  /-- Another carrier has taken the place of the one to test. -/
  | displaced : c.phase = .looking → m.isDisplaced c.event = true →
      Step probe c m { c with phase := .finished } m
  | inactive : c.phase = .looking → m.isDisplaced c.event = false → m.currentBindAddr = none →
      Step probe c m { c with phase := .telling inactiveStates } { m with transportOk := false }
  | asked (addr : String) : c.phase = .looking → m.isDisplaced c.event = false →
      m.currentBindAddr = some addr →
      Step probe c m
        { c with phase := .probing (probe.outcome m.probes addr) (m.clock + probe.duration) }
        { m with probes := m.probes + 1 }
  | passed (due : Nat) : c.phase = .probing (.ok ()) due → due ≤ m.clock →
      Step probe c m { c with phase := .telling (passedStates c.event.state) }
        { m with transportOk := true }
  | failed (cause : Fault) (due : Nat) : c.phase = .probing (.error cause) due → due ≤ m.clock →
      Step probe c m { c with phase := .telling failedStates } { m with transportOk := false }
  | finished : c.phase = .telling [] → Step probe c m { c with phase := .finished } m
  | told (s : State) (rest : List State) (e : Event) : c.phase = .telling (s :: rest) →
      c.event.next s = .ok e → Step probe c m ⟨e, .telling rest⟩ (m.tell e)
  | broken (s : State) (rest : List State) (b : Breach) : c.phase = .telling (s :: rest) →
      c.event.next s = .error b → Step probe c m { c with phase := .broken } m

/-- A step of a test that is taken is one of those listed. -/
theorem Check.step_of_step? {probe : Probe} {c c' : Check} {m m' : Manager}
    (h : c.step? probe m = some (c', m')) : c.Step probe m c' m' := by
  obtain ⟨event, phase⟩ := c
  unfold Check.step? at h
  cases phase with
  | looking =>
      dsimp only at h
      split at h
      · next hd =>
        cases h
        exact .displaced rfl hd
      · next hd =>
        have hd' : m.isDisplaced event = false := Bool.eq_false_iff.2 hd
        split at h
        · next hn =>
          cases h
          exact .inactive rfl hd' hn
        · next addr hs =>
          cases h
          exact .asked addr rfl hd' hs
  | probing outcome due =>
      dsimp only at h
      split at h
      · cases h
      · next hdue =>
        have hle : due ≤ m.clock := Nat.le_of_not_lt hdue
        split at h
        · cases h
          exact .passed due rfl hle
        · next cause =>
          cases h
          exact .failed cause due rfl hle
  | telling states =>
      cases states with
      | nil =>
          cases h
          exact .finished rfl
      | cons s rest =>
          dsimp only at h
          split at h
          · next e he =>
            cases h
            exact .told s rest e rfl he
          · next b he =>
            cases h
            exact .broken s rest b rfl he
  | finished => cases h
  | broken => cases h

/-! ## §3. Attempts. -/

namespace Attempt

/-- Where an attempt stands in the middle of a call to remove a service: behind it, if the call
has come to something. -/
def during (call : RemoveCall) (behind : AttemptPhase) (within : RemoveCall → AttemptPhase) :
    AttemptPhase :=
  match call.result? with
  | some _ => behind
  | none => within call

/-- The steps of an attempt. -/
inductive Step (probe : Probe) (a : Attempt) (m : Manager) : AttemptPhase → Manager → Prop
  | detached : a.phase = .detaching → Step probe a m (.clearing m.active) { m with active := none }
  | cleared : a.phase = .clearing none → Step probe a m .opening { m with transportOk := false }
  | clearing (k : Carrier) : a.phase = .clearing (some k) →
      Step probe a m (.removing k .checking) { m with transportOk := false }
  | removing (k : Carrier) (call : RemoveCall) : a.phase = .removing k call →
      Step probe a m (during (call.step k.service m.fleet).1 (.awaiting k) (.removing k))
        { m with fleet := (call.step k.service m.fleet).2 }
  | awaited (k : Carrier) : a.phase = .awaiting k → m.fleet.isSettled k.service = true →
      Step probe a m .opening m
  | opened : a.phase = .opening →
      Step probe a m (.telling (.first a.connection) [.serviceInit] .building)
        (m.tell (.first a.connection))
  | reached (e : Event) (goal : Goal) : a.phase = .telling e [] goal →
      Step probe a m (after e goal) m
  | told (e e' : Event) (s : State) (rest : List State) (goal : Goal) :
      a.phase = .telling e (s :: rest) goal → e.next s = .ok e' →
      Step probe a m (.telling e' rest goal) (m.tell e')
  | brokenOff (e : Event) (s : State) (rest : List State) (goal : Goal) (b : Breach) :
      a.phase = .telling e (s :: rest) goal → e.next s = .error b → Step probe a m .broken m
  | unknown (e : Event) : a.phase = .building e → a.transport = none →
      Step probe a m (.telling e [.notConfigured, .ended] .finished) m
  | unbuilt (e : Event) (t : Transport) (cause : Fault) (m' : Manager) : a.phase = .building e →
      a.transport = some t → build m a.connection t = (.error cause, m') →
      Step probe a m (.telling e [.failed, .ended] .finished) m'
  | built (e : Event) (t : Transport) (k : Carrier) (m' : Manager) : a.phase = .building e →
      a.transport = some t → build m a.connection t = (.ok k, m') →
      Step probe a m (.telling { e with service := some k.service } [.serviceStart] (.launching k))
        m'
  | launched (e : Event) (k : Carrier) (f : Fleet) : a.phase = .launching e k →
      m.fleet.begin k.service = (.ok (), f) →
      Step probe a m (.starting e k) { m with fleet := f }
  | unlaunched (e : Event) (k : Carrier) (cause : Fault) (f : Fleet) : a.phase = .launching e k →
      m.fleet.begin k.service = (.error cause, f) →
      Step probe a m (giveUp e k) { m with fleet := f }
  | started (e : Event) (k : Carrier) : a.phase = .starting e k →
      m.fleet.outcome? k.service = some (.ok ()) → Step probe a m (.judging e k) m
  | unstarted (e : Event) (k : Carrier) (cause : Fault) : a.phase = .starting e k →
      m.fleet.outcome? k.service = some (.error (.fault cause)) → Step probe a m (giveUp e k) m
  | abandoned (e : Event) (k : Carrier) (b : Breach) : a.phase = .starting e k →
      m.fleet.outcome? k.service = some (.error (.breach b)) → Step probe a m .broken m
  | suited (e : Event) (k : Carrier) : a.phase = .judging e k →
      (k.protocol? m.fleet).getD "" = m.loop.settings.expectedProtocol →
      Step probe a m (.installing e k) m
  | unsuited (e : Event) (k : Carrier) : a.phase = .judging e k →
      (k.protocol? m.fleet).getD "" ≠ m.loop.settings.expectedProtocol →
      Step probe a m (.discarding e k.service .checking [.wrongProtocol, .failed, .ended]) m
  | discarding (e : Event) (service : String) (call : RemoveCall) (states : List State) :
      a.phase = .discarding e service call states →
      Step probe a m
        (during (call.step service m.fleet).1 (.telling e states .finished)
          fun call => .discarding e service call states)
        { m with fleet := (call.step service m.fleet).2 }
  | installed (e : Event) (k : Carrier) : a.phase = .installing e k → m.active = none →
      Step probe a m (.telling e [.test] .testing) { m with active := some k }
  | displacing (e : Event) (k stale : Carrier) : a.phase = .installing e k →
      m.active = some stale →
      Step probe a m (.replacing e stale.service .checking) { m with active := some k }
  | replacing (e : Event) (service : String) (call : RemoveCall) :
      a.phase = .replacing e service call →
      Step probe a m
        (during (call.step service m.fleet).1 (.telling e [.test] .testing) (.replacing e service))
        { m with fleet := (call.step service m.fleet).2 }
  | tested (c : Check) : a.phase = .testing c → c.phase = .finished → Step probe a m .finished m
  | untested (c : Check) : a.phase = .testing c → c.phase = .broken → Step probe a m .broken m
  | testing (c c' : Check) (m' : Manager) : a.phase = .testing c → c.Step probe m c' m' →
      Step probe a m (.testing c') m'

/-- Behind a call there is what its result leads to. -/
private theorem during_eq (within : RemoveCall → AttemptPhase) {call : RemoveCall}
    {behind : AttemptPhase} {m m' : Manager} {p : AttemptPhase}
    (h : (match call.result? with
      | some _ => some (behind, m)
      | none => some (within call, m)) = some (p, m')) :
    p = during call behind within ∧ m' = m := by
  unfold during
  split at h <;> cases h <;> simp [*]

/-- **A step of an attempt that is taken is one of those listed.** -/
theorem step_of_advance? {probe : Probe} {a : Attempt} {m m' : Manager} {p : AttemptPhase}
    (h : a.advance? probe m = some (p, m')) : a.Step probe m p m' := by
  obtain ⟨connection, transport, phase⟩ := a
  unfold advance? at h
  cases phase with
  | detaching =>
      cases h
      exact .detached rfl
  | clearing previous =>
      cases previous with
      | none =>
          cases h
          exact .cleared rfl
      | some k =>
          cases h
          exact .clearing k rfl
  | removing k call =>
      obtain ⟨rfl, rfl⟩ := during_eq (.removing k) h
      exact .removing k call rfl
  | awaiting k =>
      dsimp only at h
      split at h
      · next hs =>
        cases h
        exact .awaited _ rfl hs
      · cases h
  | opening =>
      cases h
      exact .opened rfl
  | telling e states goal =>
      cases states with
      | nil =>
          cases h
          exact .reached e goal rfl
      | cons s rest =>
          dsimp only at h
          split at h
          · next e' he =>
            cases h
            exact .told e e' s rest goal rfl he
          · next b he =>
            cases h
            exact .brokenOff e s rest goal b rfl he
  | building e =>
      cases transport with
      | none =>
          cases h
          exact .unknown e rfl rfl
      | some t =>
          dsimp only at h
          split at h
          · next cause m₁ hb =>
            cases h
            exact .unbuilt e t cause _ rfl rfl hb
          · next k m₁ hb =>
            cases h
            exact .built e t k _ rfl rfl hb
  | launching e k =>
      dsimp only at h
      split at h
      · next f hb =>
        cases h
        exact .launched e k f rfl hb
      · next cause f hb =>
        cases h
        exact .unlaunched e k cause f rfl hb
  | starting e k =>
      dsimp only at h
      split at h
      · cases h
      · next ho =>
        cases h
        exact .started e k rfl ho
      · next cause ho =>
        cases h
        exact .unstarted e k cause rfl ho
      · next b ho =>
        cases h
        exact .abandoned e k b rfl ho
  | judging e k =>
      dsimp only at h
      split at h
      · next hp =>
        cases h
        exact .suited e k rfl hp
      · next hp =>
        cases h
        exact .unsuited e k rfl hp
  | discarding e service call states =>
      obtain ⟨rfl, rfl⟩ := during_eq (fun call => .discarding e service call states) h
      exact .discarding e service call states rfl
  | installing e k =>
      dsimp only at h
      cases hm : m.active with
      | none =>
          rw [hm] at h
          cases h
          exact .installed e k rfl hm
      | some stale =>
          rw [hm] at h
          cases h
          exact .displacing e k stale rfl hm
  | replacing e service call =>
      obtain ⟨rfl, rfl⟩ := during_eq (.replacing e service) h
      exact .replacing e service call rfl
  | testing c =>
      dsimp only at h
      split at h
      · next hc =>
        cases h
        exact .tested c rfl hc
      · next hc =>
        cases h
        exact .untested c rfl hc
      · obtain ⟨⟨c', m₁⟩, hstep, heq⟩ := Option.map_eq_some_iff.1 h
        cases heq
        exact .testing c c' _ rfl (Check.step_of_step? hstep)
  | finished => cases h
  | broken => cases h

end Attempt

/-! ## §4. Steps of tasks on their places. -/

/-- An attempt on its place in the list takes one of its steps. -/
theorem attemptStep?_eq_some {probe : Probe} {m m' : Manager} {i : Nat}
    (h : m.attemptStep? probe i = some m') :
    ∃ a p m₁, m.attempts[i]? = some a ∧ a.Step probe m p m₁ ∧
      m' = { m₁ with attempts := m₁.attempts.set i { a with phase := p } } := by
  unfold attemptStep? at h
  obtain ⟨a, ha, h⟩ := Option.bind_eq_some_iff.1 h
  obtain ⟨⟨a', m₁⟩, hstep, h⟩ := Option.bind_eq_some_iff.1 h
  unfold Attempt.step? at hstep
  obtain ⟨⟨p, m₂⟩, hadv, heq⟩ := Option.map_eq_some_iff.1 hstep
  cases heq
  cases h
  exact ⟨a, p, _, ha, Attempt.step_of_advance? hadv, rfl⟩

/-- A renewed test on its place in the list takes one of its steps, or says that it is over. -/
theorem checkStep?_eq_some {probe : Probe} {m m' : Manager} {i : Nat}
    (h : m.checkStep? probe i = some m') :
    ∃ k, m.checks[i]? = some k ∧
      ((k.phase = .finished ∧ m' = { m with checks := m.checks.eraseIdx i }.send .verified) ∨
        ∃ k' m₁, k.Step probe m k' m₁ ∧ m' = { m₁ with checks := m₁.checks.set i k' }) := by
  unfold checkStep? at h
  obtain ⟨k, hk, h⟩ := Option.bind_eq_some_iff.1 h
  refine ⟨k, hk, ?_⟩
  dsimp only at h
  split at h
  · next hp =>
    cases h
    exact .inl ⟨hp, rfl⟩
  · obtain ⟨⟨k', m₁⟩, hstep, h⟩ := Option.bind_eq_some_iff.1 h
    cases h
    exact .inr ⟨k', m₁, Check.step_of_step? hstep, rfl⟩

end Failover.Manager
