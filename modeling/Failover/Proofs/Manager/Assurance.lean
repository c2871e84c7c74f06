/-
  Failover.Proofs.Manager.Assurance
  ─────────────────────────────────
  **What the flag of a manager is worth.** Attempts and renewed tests set
  the flag and the active carrier in steps of their own, and no lock holds
  the two together.  Still whoever finds the flag up may rely on it until
  the event loop stops: it goes up with a probe of the active carrier that
  succeeds, and it is down again before that carrier is taken away.

      attempt   detach │ clear │ … │ install │ test: look up │ ask │ passed
      active    none                  some k                        k
      flag      down                                                up

  Main statements: `Docket.Sure.move` — every move keeps the flag sure —
  and `flag_assured`.
-/
import Failover.Proofs.Manager.Docket

namespace Failover.Manager

open Service (Fleet)

variable {m m' : Manager} {probe : Probe} {fleet f f' : Fleet} {expected : String} {k : Carrier}

/-! ## §1. Attempts. -/

namespace Docket

variable {d : Docket} {c : Chronicle} {a : Attempt} {p : AttemptPhase} {i : Nat}

/-- What the step of an attempt adds, if that is not at its test. -/
theorem note_attempt_of_none (hi : d.manager.attempts[i]? = some a) (ht : a.test? = none) :
    d.note c (.attempt i) = { d with toChronicle := c } := by
  unfold note
  dsimp only
  rw [hi, Option.bind_some, ht]

/-- What it adds, if it is. -/
theorem note_attempt_of_some {k : Check} (hi : d.manager.attempts[i]? = some a)
    (ht : a.test? = some k) :
    d.note c (.attempt i) =
      { toChronicle := c
        ofAttempts := fun j =>
          if j = i then k.carrier d.manager.active (d.ofAttempts i) else d.ofAttempts j
        ofChecks := d.ofChecks
        verdicts := d.verdicts ++ k.verdicts (d.ofAttempts i) } := by
  unfold note
  dsimp only
  rw [hi, Option.bind_some, ht]

/-- An attempt with nothing to tell adds nothing. -/
theorem note_of_isDone (hi : d.manager.attempts[i]? = some a) (hd : a.isDone = true) :
    d.note c (.attempt i) = { d with toChronicle := c } := by
  cases ht : a.test? with
  | none => exact note_attempt_of_none hi ht
  | some k =>
      have hp : a.phase = .testing k := by
        unfold Attempt.test? at ht
        split at ht
        · next k' hp =>
          cases ht
          exact hp
        · cases ht
      unfold Attempt.isDone at hd
      rw [hp] at hd
      obtain ⟨hcarrier, hverdicts, -⟩ := Check.quiet_phase hd
      rw [note_attempt_of_some hi ht, hcarrier, hverdicts, List.append_nil]
      have hsame : (fun j => if j = i then d.ofAttempts i else d.ofAttempts j) = d.ofAttempts := by
        funext j
        split
        · next hj => rw [hj]
        · rfl
      rw [hsame]

namespace Sure

/-- While the flag is up, an attempt with something to tell is about to tell `up`. -/
theorem tellsUp (h : d.Sure fleet expected) (ho : Orderly d.toChronicle)
    (hmem : a ∈ d.manager.attempts) (hd : a.isDone = false)
    (hflag : d.manager.transportOk = true) (hstep : a.Step probe d.manager p m) :
    ∃ k e, a.phase = .testing k ∧ k.phase = .telling [.up] ∧ e.state = .up ∧
      p = .testing ⟨e, .telling []⟩ ∧ m = d.manager.tell e := by
  obtain ⟨k, hp, hk⟩ := (h.vouched hflag).attempts a hmem hd
  have hs := ho.sane.attempts a hmem
  unfold Attempt.Sound at hs
  rw [hp] at hs
  have hsound := hs.2
  unfold Check.Sound at hsound
  rw [hk] at hsound
  -- nothing is told after an end
  have hne : k.event.state ≠ .ended := by
    intro hend
    have hfollows := (Check.onward (.inl rfl) hsound).follows
    rw [hend] at hfollows
    cases hfollows
  obtain ⟨hp', hm⟩ := hstep.telling hp hk hne
  exact ⟨k, _, hp, hk, rfl, hp', hm⟩

end Sure

end Docket

/-- While the flag is up, `up` may be told. -/
theorem Vouched.tell (h : m.Vouched) {e : Event} (he : e.state = .up) {before : List Attempt}
    {a : Attempt} (hbefore : ∀ x ∈ before, x.isDone = true) (ha : a.isDone = true) :
    Vouched { m.tell e with attempts := before ++ [a] } := by
  have hq : ∀ x, .event x ∈ (m.tell e).queue → x.state ≠ .ended := by
    intro x hx
    rcases (mem_queue_send m (.event e) _).1 hx with hx | ⟨-, heq⟩
    · exact h.unended x hx
    · cases heq
      rw [he]
      decide
  unfold Manager.tell at hq ⊢
  rw [send_eq] at hq ⊢
  refine ⟨h.begun, h.unarmed, hq, ?_, h.checks⟩
  refine List.forall_mem_append.2 ⟨fun x hx hxd => ?_, List.forall_mem_singleton.2 fun had => ?_⟩
  · rw [hbefore x hx] at hxd
    cases hxd
  · rw [ha] at had
    cases had

/-- **The flag goes up in an attempt**: the connection is about to be told `up`. -/
theorem Ledger.Trying.vouched {c : Chronicle} {before : List Attempt} {a : Attempt} {k : Check}
    (h : c.ledger.Trying before a) (hk : c.ledger.Kept) (hst : c.manager.loop.stage = .running)
    (hbefore : ∀ x ∈ before, x.isDone = true) (hphase : k.phase = .telling [.up]) :
    Vouched { c.manager with
      transportOk := true, attempts := before ++ [{ a with phase := .testing k }] } where
  begun := by
    show c.manager.loop.stage ≠ .starting
    rw [hst]
    decide
  unarmed := h.unarmed
  unended e he := by
    -- what is queued is what was told and is pending
    have hmem : e ∈ events c.manager.queue := mem_events.2 he
    have hlink : events c.manager.queue = c.pending.map (·.event) := hk.link
    rw [hlink] at hmem
    obtain ⟨r, hr, rfl⟩ := List.mem_map.1 hmem
    exact h.pending r hr
  attempts := by
    refine List.forall_mem_append.2 ⟨fun x hx hxd => ?_, List.forall_mem_singleton.2 fun _ => ?_⟩
    · rw [hbefore x hx] at hxd
      cases hxd
    · exact ⟨k, rfl, hphase⟩
  checks k' hk' := (Check.quiet_phase (h.quiet k' hk')).2.2

namespace Docket.Sure

variable {d : Docket} {c : Chronicle} {a : Attempt} {p : AttemptPhase} {i : Nat}

/-- An attempt with nothing to tell goes on. -/
theorem attemptDone (h : d.Sure fleet expected) (hg : fleet.Grows d.manager.fleet)
    (hi : d.manager.attempts[i]? = some a) (hd : a.isDone = true)
    (hstep : a.Step probe d.manager p m)
    (hc : c.manager = { m with attempts := m.attempts.set i { a with phase := p } }) :
    Docket.Sure fleet expected (d.note c (.attempt i)) := by
  obtain ⟨rfl, hd'⟩ := hstep.of_isDone hd
  have hset : ∀ (j : Nat) (x : Attempt), c.manager.attempts[j]? = some x →
      d.manager.attempts[j]? = some x ∨ x.isDone = true := by
    intro j x hj
    rw [hc] at hj
    by_cases hij : i = j
    · subst hij
      rw [List.getElem?_set_self (List.getElem?_eq_some_iff.1 hi).1] at hj
      cases hj
      exact .inr hd'
    · rw [List.getElem?_set_ne hij] at hj
      exact .inl hj
  rw [note_of_isDone hi hd]
  refine h.apart hg ⟨.still (by rw [hc]), by rw [hc], by rw [hc], by rw [hc], ?_, ?_⟩ ?_
  · exact fun j x hj => (hset j x hj).imp_right Attempt.isApart_of_isDone
  · intro j k hj
    rw [hc] at hj
    exact .inl hj
  · intro _ hv
    have hatt : ∀ x ∈ c.manager.attempts, x.isDone = false →
        ∃ k, x.phase = .testing k ∧ k.phase = .telling [.up] := by
      intro x hx hxd
      obtain ⟨j, hj⟩ := List.getElem?_of_mem hx
      rcases hset j x hj with hj | hxd'
      · exact hv.attempts x (List.mem_of_getElem? hj) hxd
      · rw [hxd'] at hxd
        cases hxd
    rw [hc] at hatt ⊢
    exact ⟨hv.begun, hv.unarmed, hv.unended, hatt, hv.checks⟩

end Docket.Sure

/-- The last attempt of a sure docket takes a step. -/
structure Docket.Going (fleet : Fleet) (expected : String) (probe : Probe) (d : Docket)
    (before : List Attempt) (a : Attempt) (p : AttemptPhase) (m : Manager) : Prop where
  sure : d.Sure fleet expected
  orderly : Orderly d.toChronicle
  handover : Handover fleet d.manager.lastPhase d.manager
  running : d.manager.loop.stage = .running
  attempts : d.manager.attempts = before ++ [a]
  busy : a.isDone = false
  step : a.Step probe d.manager p m

namespace Docket.Going

variable {d : Docket} {before : List Attempt} {a : Attempt} {p : AttemptPhase}

theorem getElem? (h : d.Going fleet expected probe before a p m) :
    d.manager.attempts[before.length]? = some a := by
  rw [h.attempts]
  simp

theorem mem (h : d.Going fleet expected probe before a p m) : a ∈ d.manager.attempts :=
  List.mem_of_getElem? h.getElem?

theorem trying (h : d.Going fleet expected probe before a p m) : d.ledger.Trying before a :=
  (h.orderly.mode h.running).trying_of_busy h.attempts h.busy

/-- All attempts before it have nothing to tell. -/
theorem done (h : d.Going fleet expected probe before a p m) : ∀ x ∈ before, x.isDone = true := by
  intro x hx
  refine h.orderly.sane.done x ?_
  show x ∈ d.manager.attempts.dropLast
  rw [h.attempts, List.dropLast_concat]
  exact hx

/-- **While the flag is up, it tells `up`**; and the flag goes up with a probe that succeeds. -/
theorem flag (h : d.Going fleet expected probe before a p m) (hok : m.transportOk = true) :
    (d.manager.transportOk = true ∧ ∃ k e, a.phase = .testing k ∧ k.phase = .telling [.up] ∧
      e.state = .up ∧ p = .testing ⟨e, .telling []⟩ ∧ m = d.manager.tell e) ∨
    ∃ k due, a.phase = .testing k ∧ k.phase = .probing (.ok ()) due ∧
      p = .testing { k with phase := .telling (passedStates k.event.state) } ∧
      m = { d.manager with transportOk := true } :=
  (h.step.flag hok).imp_left fun hok =>
    ⟨hok, h.sure.tellsUp h.orderly h.mem h.busy hok h.step⟩

/-- Whatever carrier is active then serves. -/
theorem active (h : d.Going fleet expected probe before a p m) {k : Carrier}
    (hk : m.active = some k) : Serves fleet expected d.manager.fleet k := by
  rcases h.step.active with hsame | hnone | ⟨e, k₀, hp, hsome⟩
  · exact h.sure.active k (hsame ▸ hk)
  · rw [hnone] at hk
    cases hk
  · rw [hsome] at hk
    cases hk
    exact h.sure.installing a h.mem e k hp

/-- So does the carrier that is to become active. -/
theorem installing {e : Event} {k : Carrier}
    (h : d.Going fleet expected probe before a (.installing e k) m) :
    Serves fleet expected d.manager.fleet k := by
  have hh := h.handover
  obtain ⟨hjudging, -, hprotocol⟩ := h.step.installing
  rw [lastPhase_of_eq h.attempts, hjudging] at hh
  obtain ⟨hid, hout⟩ := hh.ready
  obtain ⟨s, hs, hout⟩ := Option.bind_eq_some_iff.1 hout
  rw [Carrier.protocol?, Carrier.answer?, hs] at hprotocol
  exact ⟨hid, s, hs, hout, hprotocol.trans h.sure.settings⟩

/-- What holds while the flag is up. -/
theorem vouched (h : d.Going fleet expected probe before a p m) (hok : m.transportOk = true) :
    Vouched { m with attempts := before ++ [{ a with phase := p }] } := by
  rcases h.flag hok with ⟨hflag, k, e, hp, hk, he, rfl, rfl⟩ | ⟨k, due, hp, hk, rfl, rfl⟩
  · exact (h.sure.vouched hflag).tell he h.done rfl
  · have hs := h.orderly.sane.attempts a h.mem
    unfold Attempt.Sound at hs
    rw [hp] at hs
    have hsound := hs.2
    unfold Check.Sound at hsound
    rw [hk] at hsound
    rw [hsound]
    exact h.trying.vouched (h.orderly.kept h.running) h.running h.done rfl

/-- When it has asked the probe, the docket names the active carrier. -/
theorem probing {k : Check} {c : Chronicle}
    (h : d.Going fleet expected probe before a (.testing k) m) (hk : k.isProbing = true) :
    (d.note c (.attempt before.length)).ofAttempts before.length = m.active ∧
      m.currentBindAddr.isSome = true := by
  obtain ⟨k₀, hphase, hstep⟩ := h.step.probing hk
  obtain ⟨hlook, hb, rfl⟩ := hstep.probing hk
  have htest : a.test? = some k₀ := by rw [Attempt.test?, hphase]
  have hcarrier : k₀.carrier d.manager.active (d.ofAttempts before.length) =
      d.manager.active := by rw [Check.carrier, hlook]
  rw [note_attempt_of_some h.getElem? htest]
  exact ⟨(if_pos rfl).trans hcarrier, hb⟩

/-- While the flag is up, the last verdict is about the active carrier. -/
theorem verdict (h : d.Going fleet expected probe before a p m) (hok : m.transportOk = true)
    (c : Chronicle) :
    (d.note c (.attempt before.length)).verdicts.getLast? = some (m.active, true) ∧
      m.currentBindAddr.isSome = true := by
  have hi := h.getElem?
  rcases h.flag hok with ⟨hflag, k, e, hp, hk, -, -, rfl⟩ | ⟨k, due, hp, hk, -, rfl⟩
  · have htest : a.test? = some k := by rw [Attempt.test?, hp]
    have hverdicts : k.verdicts (d.ofAttempts before.length) = [] := by rw [Check.verdicts, hk]
    have hact : (d.manager.tell e).active = d.manager.active := by
      unfold tell
      rw [send_eq]
    obtain ⟨hlast, hb⟩ := h.sure.verdict hflag
    rw [note_attempt_of_some hi htest, hverdicts, hact,
      h.sure.bindAddr h.handover.grows h.step.change hact]
    exact ⟨by rw [List.append_nil]; exact hlast, hb⟩
  · have htest : a.test? = some k := by rw [Attempt.test?, hp]
    have hprobing : k.isProbing = true := by rw [Check.isProbing, hk]
    have hverdicts : k.verdicts (d.ofAttempts before.length) =
        [(d.ofAttempts before.length, true)] := by rw [Check.verdicts, hk]
    obtain ⟨hnoted, hb⟩ := h.sure.attempts before.length a k hi hp hprobing
    rw [note_attempt_of_some hi htest, hverdicts, hnoted]
    exact ⟨List.getLast?_concat, hb⟩

/-- **The last attempt goes on**, and the flag stays sure. -/
theorem keeps (h : d.Going fleet expected probe before a p m) {c : Chronicle}
    (hc : c.manager = { m with attempts := before ++ [{ a with phase := p }] }) :
    Docket.Sure fleet expected (d.note c (.attempt before.length)) := by
  obtain ⟨hloop, -, hchecks⟩ := h.step.frame
  have hgrows := h.handover.grows
  have hchange : d.manager.fleet.Change m.fleet := h.step.change
  have hnote : (d.note c (.attempt before.length)).toChronicle = c := toChronicle_note ..
  constructor <;> rw [hnote, hc]
  case settings =>
    show m.loop.settings.expectedProtocol = expected
    rw [hloop]
    exact h.sure.settings
  case genuine => exact hchange.genuine hgrows h.sure.genuine
  case active => exact fun k hk => ((h.active hk).change hgrows hchange).1
  case vouched => exact h.vouched
  case verdict => exact fun hok => h.verdict hok c
  case installing =>
    intro x hx e k hp
    rcases List.mem_append.1 hx with hx | hx
    · exact absurd hp ((Attempt.isApart_of_isDone (h.done x hx)).1 e k)
    · rw [List.mem_singleton] at hx
      subst hx
      have hp : p = .installing e k := hp
      subst hp
      exact (h.installing.change hgrows hchange).1
  case attempts =>
    intro j x k hj hp hk
    rcases Ledger.getElem?_concat_cases hj with hj | ⟨rfl, rfl⟩
    · have hapart := Attempt.isApart_of_isDone (h.done x (List.mem_of_getElem? hj))
      rw [hapart.2 k hp] at hk
      cases hk
    · have hp : p = .testing k := hp
      subst hp
      exact h.probing hk
  case checks =>
    intro j k hj hk
    have hj : m.checks[j]? = some k := hj
    rw [hchecks] at hj
    -- there is no other test to wait for the probe
    rw [Check.isProbing_of_isQuiet (h.trying.quiet k (List.mem_of_getElem? hj))] at hk
    cases hk

end Docket.Going

namespace Docket.Sure

variable {d : Docket} {c : Chronicle} {a : Attempt} {p : AttemptPhase} {i : Nat}

/-- An attempt takes a step. -/
theorem attempt (h : d.Sure fleet expected) (ho : Orderly d.toChronicle)
    (hh : Handover fleet d.manager.lastPhase d.manager) (hst : d.manager.loop.stage ≠ .stopped)
    (hi : d.manager.attempts[i]? = some a) (hstep : a.Step probe d.manager p m)
    (hc : c.manager = { m with attempts := m.attempts.set i { a with phase := p } }) :
    Docket.Sure fleet expected (d.note c (.attempt i)) := by
  cases hd : a.isDone with
  | true => exact h.attemptDone hh.grows hi hd hstep hc
  | false =>
      obtain ⟨before, heq, rfl⟩ := ho.sane.eq_last hi hd
      have heq : d.manager.attempts = before ++ [a] := heq
      have hrunning : d.manager.loop.stage = .running :=
        (ho.begun (.inl (List.ne_nil_of_mem (List.mem_of_getElem? hi)))).resolve_right hst
      have hset : m.attempts.set before.length { a with phase := p } =
          before ++ [{ a with phase := p }] := by
        rw [hstep.frame.2.1, heq]
        simp
      rw [hset] at hc
      exact Docket.Going.keeps ⟨h, ho, hh, hrunning, heq, hd, hstep⟩ hc

end Docket.Sure

/-! ## §2. Renewed tests. -/

/-- **The flag goes up in a renewed test**: the connection is up. -/
theorem Ledger.Connected.vouched {c : Chronicle} {k : Check} (h : c.ledger.Connected)
    (hk : c.ledger.Kept) (hst : c.manager.loop.stage = .running)
    (hphase : ∀ states, k.phase = .telling states → states = []) :
    Vouched { c.manager with transportOk := true, checks := [k] } where
  begun := by
    show c.manager.loop.stage ≠ .starting
    rw [hst]
    decide
  unarmed := h.unarmed
  unended e he := by
    have hmem : e ∈ events c.manager.queue := mem_events.2 he
    have hlink : events c.manager.queue = c.pending.map (·.event) := hk.link
    rw [hlink] at hmem
    obtain ⟨r, hr, rfl⟩ := List.mem_map.1 hmem
    exact h.pending r hr
  attempts a ha hd := by
    rw [h.done a ha] at hd
    cases hd
  checks := List.forall_mem_singleton.2 hphase

/-- A test that takes a step was not over. -/
theorem Check.Step.not_finished {k k' : Check} (h : k.Step probe m k' m') :
    k.phase ≠ .finished := by
  intro hp
  cases h <;> simp_all

namespace Docket

variable {d : Docket} {c : Chronicle} {k k' : Check} {i : Nat}

/-- What the step of a renewed test adds. -/
theorem note_check (hi : d.manager.checks[i]? = some k) (hp : k.phase ≠ .finished) :
    d.note c (.check i) =
      { toChronicle := c
        ofAttempts := d.ofAttempts
        ofChecks := fun j =>
          if j = i then k.carrier d.manager.active (d.ofChecks i) else d.ofChecks j
        verdicts := d.verdicts ++ k.verdicts (d.ofChecks i) } := by
  obtain ⟨event, phase⟩ := k
  unfold note
  dsimp only
  rw [hi]
  cases phase with
  | finished => exact absurd rfl hp
  | _ => rfl

/-- When a test is over, the others move up. -/
theorem note_check_of_finished (hi : d.manager.checks[i]? = some k) (hp : k.phase = .finished) :
    d.note c (.check i) =
      { d with toChronicle := c, ofChecks := fun j => d.ofChecks (if j < i then j else j + 1) } := by
  obtain ⟨event, phase⟩ := k
  cases hp
  unfold note
  dsimp only
  rw [hi]

namespace Sure

/-- A renewed test with nothing to tell comes to its end. -/
theorem checkQuiet (h : d.Sure fleet expected) (hg : fleet.Grows d.manager.fleet)
    (hi : d.manager.checks[i]? = some k) (hq : k.isQuiet = true)
    (hstep : k.Step probe d.manager k' m)
    (hc : c.manager = { m with checks := m.checks.set i k' }) :
    Docket.Sure fleet expected (d.note c (.check i)) := by
  have hnotfinished := hstep.not_finished
  obtain ⟨rfl, rfl⟩ := hstep.of_isQuiet hq
  obtain ⟨hcarrier, hverdicts, -⟩ := Check.quiet_phase hq
  have hsame : (fun j => if j = i then d.ofChecks i else d.ofChecks j) = d.ofChecks := by
    funext j
    split
    · next hj => rw [hj]
    · rfl
  rw [note_check hi hnotfinished, hcarrier, hverdicts, List.append_nil, hsame]
  refine h.apart hg ⟨.still (by rw [hc]), by rw [hc], by rw [hc], by rw [hc], ?_, ?_⟩ ?_
  · intro j a hj
    rw [hc] at hj
    exact .inl hj
  · intro j x hj
    rw [hc] at hj
    rcases List.mem_or_eq_of_mem_set (List.mem_of_getElem? hj) with hx | rfl
    · by_cases hij : i = j
      · subst hij
        rw [List.getElem?_set_self (List.getElem?_eq_some_iff.1 hi).1] at hj
        cases hj
        exact .inr rfl
      · rw [List.getElem?_set_ne hij] at hj
        exact .inl hj
    · exact .inr rfl
  · intro _ hv
    rw [hc]
    refine ⟨hv.begun, hv.unarmed, hv.unended, hv.attempts, fun x hx => ?_⟩
    rcases List.mem_or_eq_of_mem_set hx with hx | rfl
    · exact hv.checks x hx
    · exact nofun

end Sure

/-- The renewed test of a sure docket takes a step, with something to tell. -/
structure Testing (fleet : Fleet) (expected : String) (probe : Probe) (d : Docket) (k k' : Check)
    (m : Manager) : Prop where
  sure : d.Sure fleet expected
  orderly : Orderly d.toChronicle
  grows : fleet.Grows d.manager.fleet
  running : d.manager.loop.stage = .running
  checks : d.manager.checks = [k]
  busy : k.isQuiet = false
  step : k.Step probe d.manager k' m

namespace Testing

theorem getElem? (h : d.Testing fleet expected probe k k' m) : d.manager.checks[0]? = some k := by
  rw [h.checks]
  rfl

theorem mem (h : d.Testing fleet expected probe k k' m) : k ∈ d.manager.checks :=
  List.mem_of_getElem? h.getElem?

theorem connected (h : d.Testing fleet expected probe k k' m) : d.ledger.Connected :=
  (h.orderly.mode h.running).connected_of_test h.mem h.busy

/-- **While the flag is up, it has nothing to tell yet**; and the flag goes up with a probe that
succeeds. -/
theorem flag (h : d.Testing fleet expected probe k k' m) (hok : m.transportOk = true) :
    (d.manager.transportOk = true ∧ k.phase = .looking ∧
      (∀ states, k'.phase ≠ .telling states) ∧ ∃ n, m = { d.manager with probes := n }) ∨
    ∃ due, k.phase = .probing (.ok ()) due ∧
      k' = { k with phase := .telling (passedStates k.event.state) } ∧
      m = { d.manager with transportOk := true } := by
  refine (h.step.flag hok).imp_left fun ⟨hflag, hnot⟩ => ⟨hflag, ?_⟩
  have hnil := (h.sure.vouched hflag).checks k h.mem
  have hbusy := h.busy
  unfold Check.isProbing at hnot
  unfold Check.isQuiet at hbusy
  cases h.step with
  | displaced hp | asked addr hp => exact ⟨hp, nofun, _, rfl⟩
  | inactive | failed => cases hok
  | passed due hp =>
      rw [hp] at hnot
      cases hnot
  | finished hp =>
      rw [hp] at hbusy
      cases hbusy
  | told s rest e hp | broken s rest b hp => cases hnil _ hp

/-- What holds while the flag is up. -/
theorem vouched (h : d.Testing fleet expected probe k k' m) (hok : m.transportOk = true) :
    Vouched { m with checks := [k'] } := by
  rcases h.flag hok with ⟨hflag, -, hnot, n, rfl⟩ | ⟨due, hp, rfl, rfl⟩
  · have hv := h.sure.vouched hflag
    refine ⟨hv.begun, hv.unarmed, hv.unended, hv.attempts, ?_⟩
    exact List.forall_mem_singleton.2 fun states hp => absurd hp (hnot states)
  · have hsound := h.orderly.sane.checks k h.mem
    unfold Check.Sound at hsound
    rw [hp] at hsound
    rw [hsound]
    -- a connection that was up before is told nothing new
    refine h.connected.vouched (h.orderly.kept h.running) h.running fun states hp => ?_
    cases hp
    rfl

/-- When it has asked the probe, the docket names the active carrier. -/
theorem probing (h : d.Testing fleet expected probe k k' m) (hk : k'.isProbing = true)
    (c : Chronicle) :
    (d.note c (.check 0)).ofChecks 0 = m.active ∧ m.currentBindAddr.isSome = true := by
  have hnote := note_check (c := c) h.getElem? h.step.not_finished
  obtain ⟨hlook, hb, rfl⟩ := h.step.probing hk
  have hcarrier : k.carrier d.manager.active (d.ofChecks 0) = d.manager.active := by
    rw [Check.carrier, hlook]
  rw [hnote]
  refine ⟨?_, hb⟩
  dsimp only
  rw [if_pos rfl, hcarrier]

/-- While the flag is up, the last verdict is about the active carrier. -/
theorem verdict (h : d.Testing fleet expected probe k k' m) (hok : m.transportOk = true)
    (c : Chronicle) :
    (d.note c (.check 0)).verdicts.getLast? = some (m.active, true) ∧
      m.currentBindAddr.isSome = true := by
  have hnote := note_check (c := c) h.getElem? h.step.not_finished
  rcases h.flag hok with ⟨hflag, hlook, -, n, rfl⟩ | ⟨due, hp, -, rfl⟩
  · have hverdicts : k.verdicts (d.ofChecks 0) = [] := by rw [Check.verdicts, hlook]
    obtain ⟨hlast, hb⟩ := h.sure.verdict hflag
    rw [hnote, hverdicts]
    exact ⟨by rw [List.append_nil]; exact hlast, hb⟩
  · have hprobing : k.isProbing = true := by rw [Check.isProbing, hp]
    have hverdicts : k.verdicts (d.ofChecks 0) = [(d.ofChecks 0, true)] := by
      rw [Check.verdicts, hp]
    obtain ⟨hnoted, hb⟩ := h.sure.checks 0 k h.getElem? hprobing
    rw [hnote, hverdicts, hnoted]
    exact ⟨List.getLast?_concat, hb⟩

/-- **A renewed test goes on**, and the flag stays sure. -/
theorem keeps (h : d.Testing fleet expected probe k k' m)
    (hc : c.manager = { m with checks := [k'] }) :
    Docket.Sure fleet expected (d.note c (.check 0)) := by
  obtain ⟨hloop, hattempts, -, hactive, hfleet⟩ := h.step.frame
  have hnote : (d.note c (.check 0)).toChronicle = c := toChronicle_note ..
  constructor <;> rw [hnote, hc]
  case settings =>
    show m.loop.settings.expectedProtocol = expected
    rw [hloop]
    exact h.sure.settings
  case genuine =>
    show fleet.Genuine m.fleet
    rw [hfleet]
    exact h.sure.genuine
  case active =>
    show ∀ x, m.active = some x → Serves fleet expected m.fleet x
    rw [hactive, hfleet]
    exact h.sure.active
  case installing =>
    show ∀ a ∈ m.attempts, ∀ e x, a.phase = .installing e x → Serves fleet expected m.fleet x
    rw [hattempts, hfleet]
    exact h.sure.installing
  case vouched => exact h.vouched
  case verdict => exact fun hok => h.verdict hok c
  case attempts =>
    intro j a x hj hp hx
    have hj : m.attempts[j]? = some a := hj
    rw [hattempts] at hj
    have hdone := h.connected.done a (List.mem_of_getElem? hj)
    rw [(Attempt.isApart_of_isDone hdone).2 x hp] at hx
    cases hx
  case checks =>
    intro j x hj hx
    obtain ⟨rfl, rfl⟩ : j = 0 ∧ k' = x := by
      have hconcat : ([] ++ [k'])[j]? = some x := hj
      rcases Ledger.getElem?_concat_cases hconcat with hnil | ⟨hzero, hx⟩
      · cases hnil
      · exact ⟨hzero, hx⟩
    exact h.probing hx c

end Testing

namespace Sure

/-- A renewed test takes a step. -/
theorem check (h : d.Sure fleet expected) (ho : Orderly d.toChronicle)
    (hg : fleet.Grows d.manager.fleet) (hst : d.manager.loop.stage ≠ .stopped)
    (hi : d.manager.checks[i]? = some k) (hstep : k.Step probe d.manager k' m)
    (hc : c.manager = { m with checks := m.checks.set i k' }) :
    Docket.Sure fleet expected (d.note c (.check i)) := by
  cases hq : k.isQuiet with
  | true => exact h.checkQuiet hg hi hq hstep hc
  | false =>
      have hrunning : d.manager.loop.stage = .running :=
        (ho.begun (.inr (List.ne_nil_of_mem (List.mem_of_getElem? hi)))).resolve_right hst
      obtain ⟨rfl, hk⟩ := (ho.kept hrunning).checks_eq hi
      have hk : d.manager.checks = [k] := hk
      rw [hstep.frame.2.2.1, hk] at hc
      exact Testing.keeps ⟨h, ho, hg, hrunning, hk, hq, hstep⟩ hc

/-- A renewed test that is over says so. -/
theorem checkOver (h : d.Sure fleet expected) (ho : Orderly d.toChronicle)
    (hg : fleet.Grows d.manager.fleet) (hst : d.manager.loop.stage ≠ .stopped)
    (hi : d.manager.checks[i]? = some k) (hp : k.phase = .finished)
    (hc : c.manager = { d.manager with checks := d.manager.checks.eraseIdx i }.send .verified) :
    Docket.Sure fleet expected (d.note c (.check i)) := by
  have hrunning : d.manager.loop.stage = .running :=
    (ho.begun (.inr (List.ne_nil_of_mem (List.mem_of_getElem? hi)))).resolve_right hst
  obtain ⟨rfl, hk⟩ := (ho.kept hrunning).checks_eq hi
  have hk : d.manager.checks = [k] := hk
  have hq : ∀ e, .event e ∈ c.manager.queue → .event e ∈ d.manager.queue := by
    intro e he
    rw [hc] at he
    rcases (mem_queue_send ..).1 he with he | ⟨-, heq⟩
    · exact he
    · cases heq
  have hnil : c.manager.checks = [] := by
    rw [hc, send_eq, hk]
    rfl
  rw [send_eq] at hc
  have hapart : Docket.Sure fleet expected { d with toChronicle := c } := by
    refine h.apart hg ⟨.still (by rw [hc]), by rw [hc], by rw [hc], by rw [hc], ?_, ?_⟩ ?_
    · intro j a hj
      rw [hc] at hj
      exact .inl hj
    · intro j x hj
      rw [hnil] at hj
      cases hj
    · intro _ hv
      have hun : ∀ e, .event e ∈ c.manager.queue → e.state ≠ .ended :=
        fun e he => hv.unended e (hq e he)
      rw [hc] at hun hnil ⊢
      exact ⟨hv.begun, hv.unarmed, hun, hv.attempts, fun x hx => by rw [hnil] at hx; cases hx⟩
  rw [note_check_of_finished hi hp]
  refine { hapart with checks := fun j x hj => ?_ }
  -- no test is left
  have hj : c.manager.checks[j]? = some x := hj
  rw [hnil] at hj
  cases hj

end Sure

end Docket

/-! ## §3. Runs. -/

/-- While the flag is up, a message that tells no event may be sent. -/
theorem Vouched.send (h : m.Vouched) {message : Message} (he : ∀ e, message ≠ .event e) :
    (m.send message).Vouched := by
  have hq : ∀ e, .event e ∈ (m.send message).queue → e.state ≠ .ended := by
    intro e hmem
    rcases (mem_queue_send ..).1 hmem with hmem | ⟨-, heq⟩
    · exact h.unended e hmem
    · exact absurd heq.symm (he e)
  rw [send_eq] at hq ⊢
  exact ⟨h.begun, h.unarmed, hq, h.attempts, h.checks⟩

/-- While the flag is up, the event loop may take a message. -/
theorem Vouched.receive (h : m.Vouched) {message : Message} {rest : List Message}
    (hq : m.queue = message :: rest) (shuffle : Shuffle) :
    ({ m with queue := rest }.handle shuffle message).Vouched := by
  have hrest : ∀ e, .event e ∈ rest → e.state ≠ .ended :=
    fun e he => h.unended e (by rw [hq]; exact List.mem_cons_of_mem _ he)
  cases message with
  | event e =>
      have hne : e.state ≠ .ended := h.unended e (by rw [hq]; exact List.mem_cons_self)
      show (handleEvent { m with queue := rest } e).Vouched
      unfold handleEvent
      dsimp only
      rw [if_neg hne]
      exact ⟨h.begun, h.unarmed, hrest, h.attempts, h.checks⟩
  | stop => exact ⟨nofun, rfl, nofun, h.attempts, h.checks⟩
  | _ => exact ⟨h.begun, h.unarmed, hrest, h.attempts, h.checks⟩

/-- While the flag is up, whatever no task does leaves what holds. -/
theorem Vouched.step (h : m.Vouched) {host : Host} {action : Action}
    (hs : m.step? host probe action = some m') (hattempt : ∀ i, action ≠ .attempt i)
    (hcheck : ∀ i, action ≠ .check i) : m'.Vouched := by
  cases action with
  | attempt i => exact absurd rfl (hattempt i)
  | check i => exact absurd rfl (hcheck i)
  | begin =>
      obtain ⟨hst, -⟩ := Option.ite_none_right_eq_some.1 hs
      exact absurd hst h.begun
  | reconnect =>
      -- the timer is not armed
      obtain ⟨⟨-, hany⟩, -⟩ := Option.ite_none_right_eq_some.1 hs
      rw [h.unarmed] at hany
      cases hany
  | receive shuffle =>
      unfold step? at hs
      dsimp only at hs
      split at hs
      · next message rest _ hq =>
        cases hs
        exact h.receive hq shuffle
      · cases hs
  | reverify =>
      obtain ⟨-, hs⟩ := Option.ite_none_right_eq_some.1 hs
      cases hs
      unfold Manager.reverify
      dsimp only
      split
      · exact ⟨h.begun, h.unarmed, h.unended, h.attempts, h.checks⟩
      · split
        · exact ⟨h.begun, h.unarmed, h.unended, h.attempts, h.checks⟩
        · refine ⟨h.begun, h.unarmed, h.unended, h.attempts, ?_⟩
          exact List.forall_mem_append.2 ⟨h.checks, List.forall_mem_singleton.2 nofun⟩
  | fleet action =>
      obtain ⟨f, -, rfl⟩ := Option.map_eq_some_iff.1 hs
      exact ⟨h.begun, h.unarmed, h.unended, h.attempts, h.checks⟩

/-- No task goes on when the connection at the position is tried. -/
theorem apart_connectCurrent (m : Manager) : m.Apart m.connectCurrent := by
  unfold connectCurrent
  split
  · refine ⟨.still rfl, rfl, rfl, rfl, fun i a hi => ?_, fun _ _ hi => .inl hi⟩
    rcases Ledger.getElem?_concat_cases hi with hi | ⟨-, rfl⟩
    · exact .inl hi
    · refine .inr ⟨fun e k hp => ?_, fun k hp => ?_⟩ <;> cases hp
  · exact .of_eq (.still rfl) rfl rfl rfl rfl rfl

/-- No task goes on when the event loop takes a message. -/
theorem apart_handle (m : Manager) (shuffle : Shuffle) (message : Message) :
    m.Apart (m.handle shuffle message) := by
  obtain ⟨hf, hatt, hact, hset⟩ := handle_frame shuffle m message
  have hrest : (m.handle shuffle message).transportOk = m.transportOk ∧
      (m.handle shuffle message).checks = m.checks := by
    cases message with
    | event e =>
        show (m.handleEvent e).transportOk = _ ∧ (m.handleEvent e).checks = _
        unfold handleEvent
        dsimp only
        split <;> exact ⟨rfl, rfl⟩
    | _ => exact ⟨rfl, rfl⟩
  exact .of_eq (.still (congrArg _ hf)) hset hact hrest.1 hatt hrest.2

/-- **No task goes on** but by its own action. -/
theorem apart_step {host : Host} {action : Action} (hs : m.step? host probe action = some m')
    (hattempt : ∀ i, action ≠ .attempt i) (hcheck : ∀ i, action ≠ .check i) : m.Apart m' := by
  have hchange := change_step hs
  cases action with
  | attempt i => exact absurd rfl (hattempt i)
  | check i => exact absurd rfl (hcheck i)
  | begin =>
      obtain ⟨-, hs⟩ := Option.ite_none_right_eq_some.1 hs
      cases hs
      have h := apart_connectCurrent { m with loop.stage := .running }
      exact ⟨hchange, h.settings, h.active, h.transportOk, h.attempts, h.checks⟩
  | reconnect =>
      obtain ⟨-, hs⟩ := Option.ite_none_right_eq_some.1 hs
      cases hs
      have h := apart_connectCurrent { m with
        loop.reconnectAt := none
        loop.rotation := m.loop.rotation.advance }
      exact ⟨hchange, h.settings, h.active, h.transportOk, h.attempts, h.checks⟩
  | receive shuffle =>
      unfold step? at hs
      dsimp only at hs
      split at hs
      · next message rest _ hq =>
        cases hs
        have h := apart_handle { m with queue := rest } shuffle message
        exact ⟨hchange, h.settings, h.active, h.transportOk, h.attempts, h.checks⟩
      · cases hs
  | reverify =>
      obtain ⟨-, hs⟩ := Option.ite_none_right_eq_some.1 hs
      cases hs
      unfold reverify
      dsimp only
      split
      · exact .of_eq (.still rfl) rfl rfl rfl rfl rfl
      · split
        · exact .of_eq (.still rfl) rfl rfl rfl rfl rfl
        · refine ⟨.still rfl, rfl, rfl, rfl, fun _ _ hi => .inl hi, fun i k hi => ?_⟩
          rcases Ledger.getElem?_concat_cases hi with hi | ⟨-, rfl⟩
          · exact .inl hi
          · exact .inr rfl
  | fleet action =>
      obtain ⟨f, -, rfl⟩ := Option.map_eq_some_iff.1 hs
      exact .of_eq hchange rfl rfl rfl rfl rfl

/-- No task goes on when a message is sent. -/
theorem apart_send (m : Manager) (message : Message) : m.Apart (m.send message) := by
  rw [send_eq]
  exact .of_eq (.still rfl) rfl rfl rfl rfl rfl

/-- No task goes on when others ask for something. -/
theorem apart_ask (m : Manager) (request : Request) : m.Apart (m.ask request) := by
  cases request with
  | updateConnections | updateTransports | stop => exact m.apart_send _
  | subscribe =>
      have h := apart_send { m with inboxes := m.inboxes ++ [Inbox.mk true []] }
        (.addListener m.inboxes.length)
      exact ⟨h.change, h.settings, h.active, h.transportOk, h.attempts, h.checks⟩
  | unsubscribe | read =>
      exact .of_eq (.still rfl) rfl rfl rfl rfl rfl
  | call service call =>
      exact .of_eq (.call service call rfl) rfl rfl rfl rfl rfl

/-- While the flag is up, others may ask for something. -/
theorem Vouched.ask (h : m.Vouched) (request : Request) : (m.ask request).Vouched := by
  cases request with
  | updateConnections | updateTransports | stop => exact h.send nofun
  | subscribe =>
      have h' : Vouched { m with inboxes := m.inboxes ++ [Inbox.mk true []] } :=
        ⟨h.begun, h.unarmed, h.unended, h.attempts, h.checks⟩
      exact h'.send nofun
  | _ => exact ⟨h.begun, h.unarmed, h.unended, h.attempts, h.checks⟩

namespace Docket.Sure

variable {d : Docket} {c : Chronicle} {host : Host}

/-- **Every action** keeps the flag sure. -/
theorem act (h : d.Sure fleet expected) (ho : Orderly d.toChronicle)
    (hh : Handover fleet d.manager.lastPhase d.manager) (hst : d.manager.loop.stage ≠ .stopped)
    {action : Action} (hs : d.manager.step? host probe action = some c.manager) :
    Docket.Sure fleet expected (d.note c action) := by
  cases action with
  | attempt i =>
      obtain ⟨a, p, m₁, hi, hstep, hc⟩ := attemptStep?_eq_some hs
      exact h.attempt ho hh hst hi hstep hc
  | check i =>
      obtain ⟨k, hi, ⟨hp, hc⟩ | ⟨k', m₁, hstep, hc⟩⟩ := checkStep?_eq_some hs
      · exact h.checkOver ho hh.grows hst hi hp hc
      · exact h.check ho hh.grows hst hi hstep hc
  | _ => exact h.apart hh.grows (apart_step hs nofun nofun) fun _ hv => hv.step hs nofun nofun

/-- **Every move** keeps the flag sure. -/
theorem move (h : d.Sure fleet expected) (ho : Orderly d.toChronicle)
    (hh : Handover fleet d.manager.lastPhase d.manager) (hst : d.manager.loop.stage ≠ .stopped)
    (mv : Move) : (d.move mv).Sure fleet expected := by
  cases mv with
  | ask request => exact h.apart hh.grows (apart_ask d.manager request) fun _ hv => hv.ask request
  | act host probe action =>
      unfold Docket.move
      dsimp only
      split
      · next hsome =>
        obtain ⟨m, hm⟩ := Option.isSome_iff_exists.1 hsome
        have hact : d.manager.step? host probe action =
            some (d.toChronicle.move (.act host probe action)).manager := by
          unfold Chronicle.move
          dsimp only
          rw [hm]
          exact congrArg some (Chronicle.manager_afterAction ..).symm
        exact h.act ho hh hst hact
      · exact h

end Docket.Sure

/-- The flag is sure before anything happens. -/
theorem sure_create (settings : Settings) (fleet : Fleet) (registry : String)
    (transports : Named Transport) (shuffle : Shuffle) (connections : List Connection) :
    (docket (create settings fleet registry transports shuffle connections)).Sure fleet
      settings.expectedProtocol where
  settings := rfl
  genuine := Fleet.genuine_refl fleet
  active k hk := by cases hk
  installing a ha := by cases ha
  vouched hflag := by cases hflag
  attempts i a k hi := by cases hi
  checks i k hi := by cases hi
  verdict hflag := by cases hflag

/-- **The flag is sure after every run** in which the event loop has not stopped. -/
theorem sure_run (settings : Settings) (fleet : Fleet) (registry : String)
    (transports : Named Transport) (shuffle : Shuffle) (connections : List Connection)
    (moves : List Move) :
    let d := (docket (create settings fleet registry transports shuffle connections)).run moves
    Orderly d.toChronicle ∧ Handover fleet d.manager.lastPhase d.manager ∧
      (d.manager.loop.stage ≠ .stopped → d.Sure fleet settings.expectedProtocol) := by
  have hrun : ∀ d : Docket, Orderly d.toChronicle →
      Handover fleet d.manager.lastPhase d.manager →
      (d.manager.loop.stage ≠ .stopped → d.Sure fleet settings.expectedProtocol) →
      Orderly (d.run moves).toChronicle ∧
        Handover fleet (d.run moves).manager.lastPhase (d.run moves).manager ∧
        ((d.run moves).manager.loop.stage ≠ .stopped →
          (d.run moves).Sure fleet settings.expectedProtocol) := by
    induction moves with
    | nil => exact fun d ho hh hs => ⟨ho, hh, hs⟩
    | cons mv rest ih =>
        intro d ho hh hs
        refine ih (d.move mv) ?_ ?_ fun hne => ?_
        · rw [Docket.toChronicle_move]
          exact ho.move mv
        · rw [Docket.toChronicle_move]
          exact hh.move ho mv
        · -- it has not stopped before either
          rw [Docket.toChronicle_move, Chronicle.manager_move] at hne
          have hne₀ : d.manager.loop.stage ≠ .stopped := fun h => hne (stage_make mv h)
          exact (hs hne₀).move ho hh hne₀ mv
  refine hrun _ ?_ ?_ fun _ => ?_
  · exact orderly_create settings fleet registry transports shuffle connections
  · exact handover_create settings fleet registry transports shuffle connections
  · exact sure_create settings fleet registry transports shuffle connections

/-- While the flag is up, the active carrier is that of the connection that was tried last. -/
theorem Vouched.current {c : Chronicle} (h : c.manager.Vouched) (ho : Orderly c)
    (hst : c.manager.loop.stage ≠ .stopped) :
    ∃ k, c.manager.active = some k ∧ c.manager.loop.currentId = some k.connection.id := by
  have hrunning : c.manager.loop.stage = .running := by
    cases hstage : c.manager.loop.stage with
    | starting => exact absurd hstage h.begun
    | running => rfl
    | stopped => exact absurd hstage hst
  cases ho.mode hrunning with
  | waiting hm =>
      have harmed : c.manager.loop.reconnectAt.isSome = true := hm.armed
      rw [h.unarmed] at harmed
      cases harmed
  | trying before a hm =>
      have hmem : a ∈ c.manager.attempts := by
        rw [show c.manager.attempts = before ++ [a] from hm.attempts]
        simp
      obtain ⟨k, hp, -⟩ := h.attempts a hmem hm.busy
      have hholds := ho.sane.holds a hmem hm.busy
      unfold Attempt.Holds at hholds
      rw [hp] at hholds
      obtain ⟨carrier, hact, hconn⟩ := hholds
      exact ⟨carrier, hact, by rw [hconn]; exact hm.current⟩
  | connected hm => exact hm.active
  | ending before r hm =>
      -- the end that was told is still queued
      have hmem : r.event ∈ events c.manager.queue := by
        have hlink : events c.manager.queue = c.pending.map (·.event) := (ho.kept hrunning).link
        have hpending : c.pending = before ++ [r] := hm.pending
        rw [hlink, hpending]
        simp
      obtain ⟨message, hq, he⟩ := List.mem_filterMap.1 hmem
      cases message with
      | event e =>
          cases he
          exact absurd hm.ended (h.unended _ hq)
      | _ => cases he

/-- **What the flag is worth.** Whatever has happened to a manager, as long as its event loop has
not stopped: if the flag is up, there is an active carrier.  It is that of the connection that was
tried last, its start has succeeded with the expected protocol, and the probe that came to its end
last was asked of it and succeeded.  The flag is down whenever an attempt is about to take the
active carrier away, and while there is none. -/
theorem flag_assured (settings : Settings) (fleet : Fleet) (registry : String)
    (transports : Named Transport) (shuffle : Shuffle) (connections : List Connection)
    (moves : List Move) :
    let d := (docket (create settings fleet registry transports shuffle connections)).run moves
    d.manager.loop.stage ≠ .stopped →
      (d.manager.transportOk = true →
        ∃ k s, d.manager.active = some k ∧
          d.manager.loop.currentId = some k.connection.id ∧
          d.manager.fleet.service? k.service = some s ∧ s.outcome = some (.ok ()) ∧
          k.protocol? d.manager.fleet = some settings.expectedProtocol ∧
          d.verdicts.getLast? = some (some k, true)) ∧
      (∀ a ∈ d.manager.attempts, a.phase = .detaching → d.manager.transportOk = false) ∧
      (d.manager.active = none → d.manager.transportOk = false) := by
  intro d hst
  obtain ⟨ho, -, hsure⟩ := sure_run settings fleet registry transports shuffle connections moves
  have h : d.Sure fleet settings.expectedProtocol := hsure hst
  refine ⟨fun hflag => ?_, fun a ha hp => ?_, fun hnone => ?_⟩
  · obtain ⟨k, hact, hid⟩ := (h.vouched hflag).current ho hst
    have hserves := h.active k hact
    obtain ⟨hlast, hb⟩ := h.verdict hflag
    have hb : (k.bindAddr? d.manager.fleet).isSome = true := by
      rw [currentBindAddr, hact] at hb
      exact hb
    have hprotocol := hserves.protocol h.genuine hb
    obtain ⟨-, s, hs, hout, -⟩ := hserves
    exact ⟨k, s, hact, hid, hs, hout, hprotocol, by rw [hlast, hact]⟩
  · rw [Bool.eq_false_iff]
    intro hflag
    have hd : a.isDone = false := by rw [Attempt.isDone, hp]
    obtain ⟨k, hphase, -⟩ := (h.vouched hflag).attempts a ha hd
    cases hp.symm.trans hphase
  · rw [Bool.eq_false_iff]
    intro hflag
    obtain ⟨k, hact, -⟩ := (h.vouched hflag).current ho hst
    cases hnone.symm.trans hact

/-! ## §4. A connection that is up. -/

/-- A host on which every program names an endpoint of the usual protocol and stays for long. -/
def steadyHost : Host :=
  ⟨[], fun _ _ _ => .ok
    [.write (Text.Utf8.bytesOf "VERSION 1.0\nEXPOSE m socks5 127.0.0.1:3\nDONE\n"), .pause 20000]⟩

/-- A connection comes up there, and is tested again when it is time. -/
def broughtUp : List Action :=
  .begin :: List.replicate 9 (.attempt 0) ++
    [.fleet (.owner "svc-0"), .fleet (.child "svc-0")] ++
    List.replicate 4 (.fleet (.owner "svc-0")) ++ List.replicate 8 (.attempt 0) ++
    List.replicate 5 (.receive .keep) ++
    [.fleet (.elapse 10000), .reverify, .check 0, .check 0]

/-- The docket of that run. -/
def broughtUpDocket : Docket :=
  (docket (create .standard .empty "" (.ofList [("x", ⟨"x", false, some "x", [], false⟩)]) .keep
    [⟨"x", "", "198.51.100.3:3", false, false, "x"⟩])).run
    (broughtUp.map (.act steadyHost easyProbe))

theorem flag_assured_broughtUp :
    broughtUpDocket.manager.loop.stage ≠ .stopped ∧ broughtUpDocket.manager.transportOk = true ∧
      broughtUpDocket.verdicts.length = 2 ∧
      ∃ k, broughtUpDocket.manager.active = some k ∧
        broughtUpDocket.manager.loop.currentId = some k.connection.id ∧
        k.protocol? broughtUpDocket.manager.fleet = some "socks5" ∧
        broughtUpDocket.verdicts.getLast? = some (some k, true) := by
  have hst : broughtUpDocket.manager.loop.stage ≠ .stopped := by decide +kernel
  have hflag : broughtUpDocket.manager.transportOk = true := by decide +kernel
  have htwo : broughtUpDocket.verdicts.length = 2 := by decide +kernel
  unfold broughtUpDocket at hst hflag htwo ⊢
  obtain ⟨hassured, -⟩ := flag_assured .standard .empty ""
    (.ofList [("x", ⟨"x", false, some "x", [], false⟩)]) .keep
    [⟨"x", "", "198.51.100.3:3", false, false, "x"⟩]
    (broughtUp.map (.act steadyHost easyProbe)) hst
  obtain ⟨k, s, hact, hid, -, -, hprotocol, hlast⟩ := hassured hflag
  exact ⟨hst, hflag, htwo, k, hact, hid, hprotocol, hlast⟩

end Failover.Manager
