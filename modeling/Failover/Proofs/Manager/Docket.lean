/-
  Failover.Proofs.Manager.Docket
  ──────────────────────────────
  **What becomes of the probes.** A docket goes with a chronicle and keeps
  of which carrier a test has asked the probe, and what the probes have
  told.  It changes nothing that the manager does.

      look up ──▶ ask ──▶ passed   │  (carrier, true)
                     └──▶ failed   │  (carrier, false)

  A docket is `Sure` if its flag is worth something: it goes up with a probe
  of the active carrier that succeeds, and while it is up nobody is about
  to take that carrier away.

  Main statement: `Docket.Sure.apart` — whatever no task does keeps a docket
  sure.
-/
import Failover.Proofs.Manager.Changes
import Failover.Proofs.Manager.SingleFlight

namespace Failover.Manager

open Service (Fleet)

/-! ## §1. Dockets. -/

/-- The test of an attempt, once it stands at that. -/
def Attempt.test? (a : Attempt) : Option Check :=
  match a.phase with
  | .testing k => some k
  | _ => none

/-- The carrier that a test has looked up, when it has taken a step more. -/
def Check.carrier (k : Check) (active noted : Option Carrier) : Option Carrier :=
  match k.phase with
  | .looking => active
  | _ => noted

/-- What the probe has told when a test has taken a step more: whether it succeeded, and of which
carrier it was asked. -/
def Check.verdicts (k : Check) (noted : Option Carrier) : List (Option Carrier × Bool) :=
  match k.phase with
  | .probing (.ok ()) _ => [(noted, true)]
  | .probing (.error _) _ => [(noted, false)]
  | _ => []

/-- A chronicle with what became of its probes. -/
structure Docket extends Chronicle where
  /-- The carriers that the tests of the attempts have looked up. -/
  ofAttempts : Nat → Option Carrier
  /-- The carriers that the renewed tests have looked up. -/
  ofChecks : Nat → Option Carrier
  /-- What the probes have told, in the order in which they came to their end. -/
  verdicts : List (Option Carrier × Bool)

/-- The docket of a manager before anything happens. -/
def docket (m : Manager) : Docket := ⟨chronicle m, fun _ => none, fun _ => none, []⟩

namespace Docket

/-- What an action that leads to a chronicle adds. -/
def note (d : Docket) (c : Chronicle) : Action → Docket
  | .attempt i =>
      match d.manager.attempts[i]?.bind Attempt.test? with
      | some k =>
          { toChronicle := c
            ofAttempts := fun j =>
              if j = i then k.carrier d.manager.active (d.ofAttempts i) else d.ofAttempts j
            ofChecks := d.ofChecks
            verdicts := d.verdicts ++ k.verdicts (d.ofAttempts i) }
      | none => { d with toChronicle := c }
  | .check i =>
      match d.manager.checks[i]? with
      | some ⟨_, .finished⟩ =>
          -- the others move up
          { d with toChronicle := c, ofChecks := fun j => d.ofChecks (if j < i then j else j + 1) }
      | some k =>
          { toChronicle := c
            ofAttempts := d.ofAttempts
            ofChecks := fun j =>
              if j = i then k.carrier d.manager.active (d.ofChecks i) else d.ofChecks j
            verdicts := d.verdicts ++ k.verdicts (d.ofChecks i) }
      | none => { d with toChronicle := c }
  | _ => { d with toChronicle := c }

/-- What a move adds; one that is not possible adds nothing. -/
def move (d : Docket) : Move → Docket
  | .act host probe action =>
      if (d.manager.step? host probe action).isSome then
        d.note (d.toChronicle.move (.act host probe action)) action
      else d
  | .ask request => { d with toChronicle := d.toChronicle.move (.ask request) }

/-- What moves add one after the other. -/
def run (d : Docket) (moves : List Move) : Docket := moves.foldl move d

theorem toChronicle_note (d : Docket) (c : Chronicle) (action : Action) :
    (d.note c action).toChronicle = c := by
  unfold note
  split
  · split <;> rfl
  · split <;> rfl
  · rfl

/-- The chronicle of a docket goes its own way. -/
theorem toChronicle_move (d : Docket) (mv : Move) :
    (d.move mv).toChronicle = d.toChronicle.move mv := by
  unfold move
  cases mv with
  | ask request => rfl
  | act host probe action =>
      dsimp only
      split
      · exact toChronicle_note ..
      · next hnone =>
        have hnone : d.manager.step? host probe action = none := by simpa using hnone
        unfold Chronicle.move
        dsimp only
        rw [hnone]

end Docket

/-! ## §2. While the flag is up. -/

/-- **What holds while the flag is up**: no end is on its way, and whoever has something to tell
tells `up`. -/
structure Vouched (m : Manager) : Prop where
  begun : m.loop.stage ≠ .starting
  unarmed : m.loop.reconnectAt = none
  unended : ∀ e, .event e ∈ m.queue → e.state ≠ .ended
  attempts : ∀ a ∈ m.attempts, a.isDone = false →
    ∃ k, a.phase = .testing k ∧ k.phase = .telling [.up]
  checks : ∀ k ∈ m.checks, ∀ states, k.phase = .telling states → states = []

variable {m m' : Manager} {probe : Probe}

/-- An attempt that neither puts its carrier in place nor waits for the probe. -/
def Attempt.IsApart (a : Attempt) : Prop :=
  (∀ e k, a.phase ≠ .installing e k) ∧ ∀ k, a.phase = .testing k → k.isProbing = false

/-- A test with nothing to tell adds nothing to a docket. -/
theorem Check.quiet_phase {k : Check} (h : k.isQuiet = true) :
    (∀ active noted, k.carrier active noted = noted) ∧ (∀ noted, k.verdicts noted = []) ∧
      ∀ states, k.phase = .telling states → states = [] := by
  obtain ⟨event, phase⟩ := k
  cases phase with
  | finished => exact ⟨fun _ _ => rfl, fun _ => rfl, nofun⟩
  | telling states =>
      cases states with
      | nil => exact ⟨fun _ _ => rfl, fun _ => rfl, fun _ heq => by cases heq; rfl⟩
      | cons => cases h
  | _ => cases h

/-- An attempt with nothing to tell stands apart. -/
theorem Attempt.isApart_of_isDone {a : Attempt} (h : a.isDone = true) : a.IsApart := by
  unfold Attempt.isDone at h
  refine ⟨fun e k hp => ?_, fun k hp => ?_⟩
  · rw [hp] at h
    cases h
  · rw [hp] at h
    exact Check.isProbing_of_isQuiet h

/-- **No task goes on** between two managers: attempts and tests may come, and the fleet may
change. -/
structure Apart (m m' : Manager) : Prop where
  change : m.fleet.Change m'.fleet
  settings : m'.loop.settings = m.loop.settings
  active : m'.active = m.active
  transportOk : m'.transportOk = m.transportOk
  attempts : ∀ (i : Nat) (a : Attempt), m'.attempts[i]? = some a →
    m.attempts[i]? = some a ∨ a.IsApart
  checks : ∀ (i : Nat) (k : Check), m'.checks[i]? = some k →
    m.checks[i]? = some k ∨ k.isProbing = false

/-- All tasks stay as they are. -/
theorem Apart.of_eq (hc : m.fleet.Change m'.fleet) (hset : m'.loop.settings = m.loop.settings)
    (hact : m'.active = m.active) (hok : m'.transportOk = m.transportOk)
    (hatt : m'.attempts = m.attempts) (hchk : m'.checks = m.checks) : m.Apart m' :=
  ⟨hc, hset, hact, hok, fun _ _ hi => .inl (hatt ▸ hi), fun _ _ hi => .inl (hchk ▸ hi)⟩

/-- **The flag goes up** only with a probe that succeeds. -/
theorem Check.Step.flag {k k' : Check} (h : k.Step probe m k' m') (hok : m'.transportOk = true) :
    (m.transportOk = true ∧ k.isProbing = false) ∨ ∃ due, k.phase = .probing (.ok ()) due ∧
      k' = { k with phase := .telling (passedStates k.event.state) } ∧
      m' = { m with transportOk := true } := by
  unfold Check.isProbing
  cases h with
  | inactive | failed => cases hok
  | passed due hp => exact .inr ⟨due, hp, rfl, rfl⟩
  | told s rest e hp he =>
      left
      unfold tell at hok
      rw [send_eq] at hok
      exact ⟨hok, by rw [hp]⟩
  | displaced hp | asked addr hp | finished hp | broken s rest b hp =>
      exact .inl ⟨hok, by rw [hp]⟩

/-- So it does with a step of an attempt. -/
theorem Attempt.Step.flag {a : Attempt} {p : AttemptPhase} (h : a.Step probe m p m')
    (hok : m'.transportOk = true) :
    m.transportOk = true ∨ ∃ k due, a.phase = .testing k ∧ k.phase = .probing (.ok ()) due ∧
      p = .testing { k with phase := .telling (passedStates k.event.state) } ∧
      m' = { m with transportOk := true } := by
  cases h with
  | cleared | clearing => cases hok
  | opened | told =>
      left
      unfold tell at hok
      rw [send_eq] at hok
      exact hok
  | unbuilt e t cause m' hp ht hb | built e t k m' hp ht hb =>
      rw [build_eq hb] at hok
      exact .inl hok
  | testing k k' m' hp hk =>
      rcases hk.flag hok with ⟨hok, -⟩ | ⟨due, hphase, rfl, rfl⟩
      · exact .inl hok
      · exact .inr ⟨k, due, hp, hphase, rfl, rfl⟩
  | _ => exact .inl hok

/-- **The active carrier changes** only when an attempt takes it away or puts its own there. -/
theorem Attempt.Step.active {a : Attempt} {p : AttemptPhase} (h : a.Step probe m p m') :
    m'.active = m.active ∨ m'.active = none ∨
      ∃ e k, a.phase = .installing e k ∧ m'.active = some k := by
  cases h with
  | detached => exact .inr (.inl rfl)
  | installed e k hp | displacing e k stale hp => exact .inr (.inr ⟨e, k, hp, rfl⟩)
  | opened | told =>
      left
      unfold tell
      rw [send_eq]
  | unbuilt e t cause m' hp ht hb | built e t k m' hp ht hb =>
      rw [build_eq hb]
      exact .inl rfl
  | testing k k' m' hp hk => exact .inl hk.frame.2.2.2.1
  | _ => exact .inl rfl

/-- An attempt comes to put its carrier in place only when the protocol suits. -/
theorem Attempt.Step.installing {a : Attempt} {e : Event} {k : Carrier}
    (h : a.Step probe m (.installing e k) m') :
    a.phase = .judging e k ∧ m' = m ∧
      (k.protocol? m.fleet).getD "" = m.loop.settings.expectedProtocol := by
  generalize hp' : AttemptPhase.installing e k = p at h
  cases h with
  | suited e' k' hp hprotocol =>
      cases hp'
      exact ⟨hp, rfl, hprotocol⟩
  | removing | discarding | replacing =>
      unfold during at hp'
      split at hp' <;> cases hp'
  | reached e' goal hp => cases goal <;> cases hp'
  | _ => cases hp'

/-- A test comes to wait for the probe when it has found an endpoint. -/
theorem Check.Step.probing {k k' : Check} (h : k.Step probe m k' m') (hp : k'.isProbing = true) :
    k.phase = .looking ∧ m.currentBindAddr.isSome = true ∧
      m' = { m with probes := m.probes + 1 } := by
  cases h with
  | asked addr hlook hdis hb => exact ⟨hlook, by rw [hb]; rfl, rfl⟩
  | _ => cases hp

/-- So does an attempt. -/
theorem Attempt.Step.probing {a : Attempt} {k' : Check} (h : a.Step probe m (.testing k') m')
    (hp : k'.isProbing = true) : ∃ k, a.phase = .testing k ∧ k.Step probe m k' m' := by
  generalize hp' : AttemptPhase.testing k' = p at h
  cases h with
  | testing k k'' m' hphase hk =>
      cases hp'
      exact ⟨k, hphase, hk⟩
  | removing | discarding | replacing =>
      unfold during at hp'
      split at hp' <;> cases hp'
  | reached e' goal hphase =>
      cases goal <;> cases hp'
      -- a test begins with looking up the carrier
      cases hp
  | _ => cases hp'

/-- An attempt whose test has something to tell tells it. -/
theorem Attempt.Step.telling {a : Attempt} {p : AttemptPhase} {k : Check} {s : State}
    {rest : List State} (h : a.Step probe m p m') (hp : a.phase = .testing k)
    (hk : k.phase = .telling (s :: rest)) (hne : k.event.state ≠ .ended) :
    p = .testing ⟨{ k.event with state := s }, .telling rest⟩ ∧
      m' = m.tell { k.event with state := s } := by
  cases h with
  | testing k₀ k' m' hp' hstep =>
      obtain rfl : k₀ = k := by
        rw [hp'] at hp
        exact AttemptPhase.testing.inj hp
      cases hstep with
      | told s' rest' e hphase he =>
          rw [hk] at hphase
          cases hphase
          obtain ⟨-, rfl⟩ := Event.next_eq_ok he
          exact ⟨rfl, rfl⟩
      | broken s' rest' b hphase he => exact absurd (Event.next_eq_error he) hne
      | _ => simp_all
  | tested k₀ hp' hphase | untested k₀ hp' hphase =>
      rw [hp'] at hp
      cases hp
      rw [hk] at hphase
      cases hphase
  | _ => simp_all

/-! ## §3. The active carrier. -/

/-- **A carrier that serves**: it was set up since, its start has succeeded, and it has told the
expected protocol. -/
def Serves (fleet : Fleet) (expected : String) (f : Fleet) (k : Carrier) : Prop :=
  fleet.service? k.service = none ∧
    ∃ s, f.service? k.service = some s ∧ s.outcome = some (.ok ()) ∧
      (s.response.get? "protocol").getD "" = expected

variable {fleet f f' : Fleet} {expected : String} {k : Carrier}

/-- It goes on to serve whatever happens to the fleet, and its endpoint stays. -/
theorem Serves.change (h : Serves fleet expected f k) (hg : fleet.Grows f) (hc : f.Change f') :
    Serves fleet expected f' k ∧ k.bindAddr? f' = k.bindAddr? f := by
  obtain ⟨hid, s, hs, ho, hp⟩ := h
  obtain ⟨s', hs', ht⟩ := hc.turn hs
  obtain ⟨ho', hr⟩ := ht.ok (hg.consistent _ s hid hs) ho
  refine ⟨⟨hid, s', hs', ho', by rw [hr]; exact hp⟩, ?_⟩
  unfold Carrier.bindAddr? Carrier.answer?
  rw [hs, hs']
  exact congrArg (·.get? "bindaddr") hr

/-- With an endpoint, it has told just that protocol. -/
theorem Serves.protocol (h : Serves fleet expected f k) (hgen : fleet.Genuine f)
    (hb : (k.bindAddr? f).isSome = true) : k.protocol? f = some expected := by
  obtain ⟨hid, s, hs, ho, hp⟩ := h
  unfold Carrier.bindAddr? Carrier.answer? at hb
  unfold Carrier.protocol? Carrier.answer?
  rw [hs] at hb ⊢
  obtain ⟨protocol, hsome⟩ := Option.isSome_iff_exists.1
    ((hgen _ s hid hs).protocol_isSome ho hb)
  show s.response.get? "protocol" = some expected
  rw [hsome] at hp ⊢
  exact congrArg some hp

/-! ## §4. Sure dockets. -/

/-- A test has asked the probe of the active carrier. -/
def Asked (m : Manager) (noted : Option Carrier) : Prop :=
  noted = m.active ∧ m.currentBindAddr.isSome = true

/-- **The flag of a docket is sure**, as long as the event loop has not stopped. -/
structure Docket.Sure (fleet : Fleet) (expected : String) (d : Docket) : Prop where
  settings : d.manager.loop.settings.expectedProtocol = expected
  genuine : fleet.Genuine d.manager.fleet
  active : ∀ k, d.manager.active = some k → Serves fleet expected d.manager.fleet k
  installing : ∀ a ∈ d.manager.attempts, ∀ e k, a.phase = .installing e k →
    Serves fleet expected d.manager.fleet k
  vouched : d.manager.transportOk = true → d.manager.Vouched
  attempts : ∀ i a k, d.manager.attempts[i]? = some a → a.phase = .testing k →
    k.isProbing = true → d.manager.Asked (d.ofAttempts i)
  checks : ∀ i k, d.manager.checks[i]? = some k → k.isProbing = true →
    d.manager.Asked (d.ofChecks i)
  verdict : d.manager.transportOk = true →
    d.verdicts.getLast? = some (d.manager.active, true) ∧
      d.manager.currentBindAddr.isSome = true

namespace Docket.Sure

variable {d : Docket} {c : Chronicle}

/-- The endpoint of the active carrier stays whatever happens to the fleet. -/
theorem bindAddr (h : d.Sure fleet expected) (hg : fleet.Grows d.manager.fleet)
    (hc : d.manager.fleet.Change m.fleet) (hact : m.active = d.manager.active) :
    m.currentBindAddr = d.manager.currentBindAddr := by
  unfold currentBindAddr
  rw [hact]
  cases ha : d.manager.active with
  | none => rfl
  | some k => exact ((h.active k ha).change hg hc).2

/-- Who was asked stays asked. -/
theorem asked (h : d.Sure fleet expected) (hg : fleet.Grows d.manager.fleet)
    (hc : d.manager.fleet.Change m.fleet) (hact : m.active = d.manager.active)
    {noted : Option Carrier} (ha : d.manager.Asked noted) : m.Asked noted := by
  refine ⟨ha.1.trans hact.symm, ?_⟩
  rw [h.bindAddr hg hc hact]
  exact ha.2

/-- **Nothing that no task does** makes the flag unsure. -/
theorem apart (h : d.Sure fleet expected) (hg : fleet.Grows d.manager.fleet)
    (hc : d.manager.Apart c.manager)
    (hv : d.manager.transportOk = true → d.manager.Vouched → c.manager.Vouched) :
    Docket.Sure fleet expected { d with toChronicle := c } where
  settings := by
    show c.manager.loop.settings.expectedProtocol = expected
    rw [hc.settings]
    exact h.settings
  genuine := hc.change.genuine hg h.genuine
  active k hk := ((h.active k (hc.active ▸ hk)).change hg hc.change).1
  installing a ha e k hp := by
    obtain ⟨i, hi⟩ := List.getElem?_of_mem ha
    rcases hc.attempts i a hi with hi | hapart
    · exact ((h.installing a (List.mem_of_getElem? hi) e k hp).change hg hc.change).1
    · exact absurd hp (hapart.1 e k)
  vouched hflag := by
    have hflag : d.manager.transportOk = true := hc.transportOk ▸ hflag
    exact hv hflag (h.vouched hflag)
  attempts i a k hi hp hk := by
    rcases hc.attempts i a hi with hi | hapart
    · exact h.asked hg hc.change hc.active (h.attempts i a k hi hp hk)
    · rw [hapart.2 k hp] at hk
      cases hk
  checks i k hi hk := by
    rcases hc.checks i k hi with hi | hapart
    · exact h.asked hg hc.change hc.active (h.checks i k hi hk)
    · rw [hapart] at hk
      cases hk
  verdict hflag := by
    obtain ⟨hlast, hb⟩ := h.verdict (hc.transportOk ▸ hflag)
    refine ⟨?_, ?_⟩
    · rw [show c.manager.active = d.manager.active from hc.active]
      exact hlast
    · rw [h.bindAddr hg hc.change hc.active]
      exact hb

end Docket.Sure

end Failover.Manager
