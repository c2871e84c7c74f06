/-
  Failover.Proofs.Manager.Handover
  ────────────────────────────────
  **From one transport to the next.** An attempt takes over from the one
  before it: it waits until the service that was connected is gone, and
  only then starts its own.  At every time the phase of the last attempt
  says which service may still be active, and everything else that was
  ever started by the manager is gone, but for one kind: a service that
  speaks another protocol than the expected one is asked to stop and not
  waited for.

      Remains  —  active, and not such a service
      Keeps    —  what may remain in a phase of an attempt

  Main statements: `handover` — when an attempt is about to start its
  service, no other one is active if and only if none of that kind is, and
  at most one service remains at any time — and `not_isClear_unawaited`,
  a run in which a service of that kind is still active.
-/
import Failover.Proofs.Manager.Orderly
import Failover.Proofs.Service.Progress

namespace Failover.Manager

open Service

/-! ## §1. What remains. -/

/-- **A service that the manager set up remains**: it is active and was not dismissed. -/
def Remains (fleet : Fleet) (m : Manager) (id : String) : Prop :=
  fleet.service? id = none ∧
    ∃ s, m.fleet.service? id = some s ∧ s.isActive = true ∧
      ¬s.IsDismissed m.loop.settings.expectedProtocol

/-- What may remain while an attempt is in a phase. -/
def AttemptPhase.Keeps (p : AttemptPhase) (active : Option Carrier) (id : String) : Prop :=
  match p with
  | .clearing previous => ∃ k, previous = some k ∧ id = k.service
  | .removing k _ | .awaiting k | .starting _ k | .judging _ k | .installing _ k => id = k.service
  | .discarding _ service _ _ => id = service
  | .broken => True
  | _ => ∃ k, active = some k ∧ id = k.service

/-- What an attempt knows of its own service in a phase. -/
def AttemptPhase.Ready (p : AttemptPhase) (fleet : Fleet) (m : Manager) : Prop :=
  match p with
  | .telling _ _ (.launching k) | .launching _ k =>
      fleet.service? k.service = none ∧
        ∃ s, m.fleet.service? k.service = some s ∧ s.lifecycle = .idle
  | .starting _ k => fleet.service? k.service = none
  | .judging _ k =>
      fleet.service? k.service = none ∧ m.fleet.outcome? k.service = some (.ok ())
  | .discarding _ id call _ =>
      fleet.service? id = none ∧ call.Ensures id m.fleet ∧
        ∀ s, m.fleet.service? id = some s → s.isActive = true →
          s.outcome = some (.ok ()) ∧
            (s.response.get? "protocol").getD "" ≠ m.loop.settings.expectedProtocol
  | _ => True

/-- **What holds between attempts and services**, in a phase of the last attempt. -/
structure Handover (fleet : Fleet) (p : AttemptPhase) (m : Manager) : Prop where
  grows : fleet.Grows m.fleet
  ready : p.Ready fleet m
  keeps : ∀ id, m.Remains fleet id → p.Keeps m.active id
  single : ∀ id id', m.Remains fleet id → m.Remains fleet id' → id = id'

variable {fleet : Fleet} {m m' : Manager} {p p' : AttemptPhase}

/-- What remains after the fleet went on remained before. -/
theorem Remains.back {id : String} (h : m'.Remains fleet id) (hg : fleet.Grows m.fleet)
    (hf : m.fleet.Goes m'.fleet) (hset : m'.loop.settings = m.loop.settings) :
    m.Remains fleet id := by
  obtain ⟨hid, s', hs', hact, hnot⟩ := h
  obtain ⟨s, hs, hgo⟩ := hf.back (fun s => hg.consistent id s hid) hs'
  refine ⟨hid, s, hs, hgo.active hact, fun hdis => hnot ?_⟩
  rw [hset]
  exact hdis.goes hgo

/-- What an attempt knows stays true as the fleet goes on. -/
theorem AttemptPhase.Ready.goes (h : p.Ready fleet m) (hg : fleet.Grows m.fleet)
    (hf : m.fleet.Goes m'.fleet) (hset : m'.loop.settings = m.loop.settings) :
    p.Ready fleet m' := by
  have hidle : ∀ {id : String}, fleet.service? id = none →
      (∃ s, m.fleet.service? id = some s ∧ s.lifecycle = .idle) →
      ∃ s, m'.fleet.service? id = some s ∧ s.lifecycle = .idle := by
    rintro id hid ⟨s, hs, hi⟩
    obtain ⟨s', hs', hgo⟩ := hf.service id s hs (hg.consistent id s hid hs)
    exact ⟨s', hs', hgo.idle hi⟩
  unfold Ready at h ⊢
  split at h
  · exact ⟨h.1, hidle h.1 h.2⟩
  · exact ⟨h.1, hidle h.1 h.2⟩
  · exact h
  · next e k =>
    obtain ⟨hid, ho⟩ := h
    obtain ⟨s, hs, hok⟩ := Option.bind_eq_some_iff.1 ho
    obtain ⟨s', hs', hgo⟩ := hf.service _ s hs (hg.consistent _ s hid hs)
    exact ⟨hid, Option.bind_eq_some_iff.2 ⟨s', hs', (hgo.ok hok).1⟩⟩
  · next e id call states =>
    obtain ⟨hid, hcall, hother⟩ := h
    have hc : ∀ s, m.fleet.service? id = some s → s.Consistent := fun s => hg.consistent id s hid
    refine ⟨hid, hcall.goes hf hc, fun s' hs' hact => ?_⟩
    obtain ⟨s, hs, hgo⟩ := hf.back hc hs'
    obtain ⟨hok, hne⟩ := hother s hs (hgo.active hact)
    obtain ⟨hok', hr⟩ := hgo.ok hok
    rw [hr, hset]
    exact ⟨hok', hne⟩
  · exact trivial

/-- A fleet that goes on hands over what a phase keeps to what the next phase keeps. -/
theorem Handover.goes (h : Handover fleet p m) (hf : m.fleet.Goes m'.fleet)
    (hset : m'.loop.settings = m.loop.settings) (hready : p'.Ready fleet m')
    (hkeeps : ∀ id, m.Remains fleet id → m'.Remains fleet id → p.Keeps m.active id →
      p'.Keeps m'.active id) : Handover fleet p' m' where
  grows := h.grows.goes hf
  ready := hready
  keeps id hid := by
    have hback := hid.back h.grows hf hset
    exact hkeeps id hback hid (h.keeps id hback)
  single id id' hid hid' :=
    h.single id id' (hid.back h.grows hf hset) (hid'.back h.grows hf hset)

/-- Whatever happens without the attempts. -/
theorem Handover.of_goes (h : Handover fleet p m) (hf : m.fleet.Goes m'.fleet)
    (hact : m'.active = m.active) (hset : m'.loop.settings = m.loop.settings) :
    Handover fleet p m' := by
  refine h.goes hf hset (h.ready.goes h.grows hf hset) fun id _ _ hk => ?_
  rw [hact]
  exact hk

/-! ## §2. New services. -/

/-- Setting up a carrier adds a service, unless there is no program for it. -/
theorem adds_create {f f' : Fleet} {registry id : String} {c : Connection} {t : Transport}
    {options : Service.Options} {result : Except Fault Carrier}
    (h : Carrier.create f registry id c t options = (result, f')) :
    (f' = f ∧ ∃ cause, result = .error cause) ∨
      f.Adds id f' ∧ ∀ k, result = .ok k → k.service = id := by
  unfold Carrier.create at h
  split at h
  · next cause _ =>
    cases h
    exact .inl ⟨rfl, cause, rfl⟩
  · next program _ =>
    right
    have hadds := (Fleet.adds_create f registry id Carrier.serviceName program
      (Carrier.launchOptions t options)).setAll (Carrier.requestFor c)
    dsimp only at h
    split at h
    · next heq =>
      cases h
      rw [heq] at hadds
      exact ⟨hadds, by rintro k ⟨⟩; rfl⟩
    · next heq =>
      cases h
      rw [heq] at hadds
      exact ⟨hadds, by simp⟩

/-- **Setting up a carrier** adds a service with a new id, or nothing when it fails early. -/
theorem adds_build {c : Connection} {t : Transport} {result : Except Fault Carrier}
    (h : build m c t = (result, m')) :
    (m' = m ∧ ∃ cause, result = .error cause) ∨ m.fleet.Adds m.freshId m'.fleet := by
  unfold build at h
  dsimp only at h
  split at h
  · next cause f heq =>
    cases h
    rcases adds_create heq with ⟨rfl, -⟩ | ⟨hadds, -⟩
    · exact .inl ⟨rfl, cause, rfl⟩
    · exact .inr hadds
  · next k f heq =>
    right
    rcases adds_create heq with ⟨-, cause, hcause⟩ | ⟨hadds, hk⟩
    · cases hcause
    rw [← hk k rfl] at hadds ⊢
    have hbind : m.fleet.Adds k.service (k.setBindAddr f m.loop.settings.proxyBindAddr).2 :=
      hadds.setIdle ..
    split at h
    · next hset =>
      cases h
      rw [hset] at hbind
      exact hbind
    · next f₁ hset =>
      rw [hset] at hbind
      have hverbose : m.fleet.Adds k.service (k.setVerbose f₁).2 := hbind.setIdle ..
      split at h
      · split at h
        · next hset' =>
          cases h
          rw [hset'] at hverbose
          exact hverbose
        · next hset' =>
          cases h
          rw [hset'] at hverbose
          exact hverbose
      · cases h
        exact hbind

/-- A new service does not remain: it is idle. -/
theorem Remains.of_adds {id new : String} (h : m'.Remains fleet id)
    (hadds : m.fleet.Adds new m'.fleet) (hset : m'.loop.settings = m.loop.settings) :
    m.Remains fleet id := by
  obtain ⟨hid, s', hs', hact, hnot⟩ := h
  rw [hset] at hnot
  by_cases hnew : id = new
  · obtain ⟨s, hs, hi, -⟩ := hadds.idle
    rw [← hnew] at hs
    obtain rfl : s = s' := Option.some.inj (hs.symm.trans hs')
    rw [Service.isActive, hi] at hact
    cases hact
  · exact ⟨hid, s', by rw [← hadds.others id hnew]; exact hs', hact, hnot⟩

/-- A new service changes nothing of what remains. -/
theorem Handover.adds (h : Handover fleet p m) {new : String} (hadds : m.fleet.Adds new m'.fleet)
    (hset : m'.loop.settings = m.loop.settings) (hready : p'.Ready fleet m')
    (hkeeps : ∀ id, p.Keeps m.active id → p'.Keeps m'.active id) : Handover fleet p' m' where
  grows := h.grows.adds hadds
  ready := hready
  keeps id hid := hkeeps id (h.keeps id (hid.of_adds hadds hset))
  single id id' hid hid' := h.single id id' (hid.of_adds hadds hset) (hid'.of_adds hadds hset)

/-! ## §3. Steps of an attempt. -/

/-- What has settled does not remain. -/
theorem Remains.not_settled {id : String} (h : m.Remains fleet id) :
    m.fleet.isSettled id = false := by
  obtain ⟨-, s, hs, hact, -⟩ := h
  obtain ⟨hidle, hexited⟩ := Service.isActive_iff.1 hact
  unfold Fleet.isSettled
  rw [hs]
  simp [Service.isSettled, hidle, hexited]

/-- Nothing but the service itself remains once it was started, when nothing is connected. -/
theorem Remains.of_launch {e : Event} {k : Carrier} {s : Service} {id : String}
    (h : Remains fleet { m with fleet := m.fleet.modify k.service fun _ => s } id)
    (hh : Handover fleet (.launching e k) m) (hact : m.active = none) : id = k.service := by
  obtain ⟨hid, s', hs', ha, hnot⟩ := h
  by_contra hne
  have hs : m.fleet.service? id = some s' := by
    rw [← hs', show Fleet.service? _ id = _ from Fleet.service?_modify .., if_neg hne]
  obtain ⟨k', hk', -⟩ := hh.keeps id ⟨hid, s', hs, ha, hnot⟩
  rw [hact] at hk'
  cases hk'

/-- A service that was discarded does not remain: if it is active yet, it speaks another protocol
and was asked to stop. -/
theorem Remains.not_discarded {id : String} (h : m.Remains fleet id) {e : Event}
    {call : RemoveCall} {states : List State} {result : Except Fault Unit}
    (hr : call.result? = some result) :
    ¬(AttemptPhase.discarding e id call states).Ready fleet m := by
  obtain ⟨-, s, hs, hact, hnot⟩ := h
  rintro ⟨-, hcall, hother⟩
  obtain ⟨hok, hne⟩ := hother s hs hact
  exact hnot ⟨hok, hne, hcall.asked hr s hs hact⟩

/-- **Every step of an attempt hands over** what remains. -/
theorem Attempt.Step.hands_over {probe : Probe} {a : Attempt} (h : a.Step probe m p m')
    (ha : a.Holds m.active) (hh : Handover fleet a.phase m) : Handover fleet p m' := by
  unfold Holds at ha
  cases h with
  | cleared hp =>
      rw [hp] at hh
      -- nothing was connected
      refine hh.goes (.refl _) rfl trivial fun _ _ _ hk => ?_
      obtain ⟨k, hnone, -⟩ := hk
      cases hnone
  | clearing k hp =>
      rw [hp] at hh
      refine hh.goes (.refl _) rfl trivial fun _ _ _ hk => ?_
      obtain ⟨k', hk', rfl⟩ := hk
      cases hk'
      rfl
  | removing k call hp =>
      rw [hp] at hh
      unfold during
      split <;> exact hh.goes (Fleet.goes_call ..) rfl trivial fun _ _ _ hk => hk
  | awaited k hp hset =>
      rw [hp] at hh
      -- this is where the attempt waits until the one before is gone
      refine hh.goes (.refl _) rfl trivial fun id hid _ hk => ?_
      obtain rfl : id = k.service := hk
      rw [hid.not_settled] at hset
      cases hset
  | opened hp =>
      rw [hp] at hh
      unfold tell
      rw [send_eq]
      exact hh.goes (.refl _) rfl trivial fun _ _ _ hk => hk
  | reached e goal hp =>
      rw [hp] at hh
      cases goal with
      | launching k => exact hh.goes (.refl _) rfl hh.ready fun _ _ _ hk => hk
      | _ => exact hh.goes (.refl _) rfl trivial fun _ _ _ hk => hk
  | told e e' s rest goal hp he =>
      rw [hp] at hh
      unfold tell
      rw [send_eq]
      cases goal with
      | launching k => exact hh.goes (.refl _) rfl hh.ready fun _ _ _ hk => hk
      | _ => exact hh.goes (.refl _) rfl trivial fun _ _ _ hk => hk
  | unbuilt e t cause m' hp ht hb =>
      rw [hp] at hh
      rcases adds_build hb with ⟨rfl, -⟩ | hadds
      · exact hh.goes (.refl _) rfl trivial fun _ _ _ hk => hk
      · have heq := build_eq hb
        refine hh.adds hadds (by rw [heq]) trivial fun _ hk => ?_
        rw [heq]
        exact hk
  | built e t k m' hp ht hb =>
      rw [hp] at hh
      rcases adds_build hb with ⟨-, cause, hcause⟩ | hadds
      · cases hcause
      · have heq := build_eq hb
        have hk : k.service = m.freshId := by rw [build_ok hb]
        obtain ⟨s, hs, hi, -⟩ := hadds.idle
        -- no service had its id before, and it is not started yet
        refine hh.adds hadds (by rw [heq]) ⟨?_, s, ?_, hi⟩ fun _ hk => ?_
        · rw [hk]
          exact hh.grows.kept _ (Fleet.service?_freshId m.fleet)
        · rw [hk]
          exact hs
        · rw [heq]
          exact hk
  | launched e k f hp hb =>
      rw [hp] at hh ha
      obtain ⟨s, hs, hi, rfl⟩ := Fleet.begin_eq_ok hb
      exact ⟨hh.grows.begin hs hi, hh.ready.1, fun _ hid => hid.of_launch hh ha,
        fun _ _ hid hid' => (hid.of_launch hh ha).trans (hid'.of_launch hh ha).symm⟩
  | unlaunched e k cause f hp hb =>
      rw [hp] at hh
      -- a service that is idle is not refused
      obtain ⟨-, s, hs, hi⟩ := hh.ready
      exact absurd hi ((Fleet.begin_eq_error hb).2 s hs)
  | started e k hp ho =>
      rw [hp] at hh
      exact hh.goes (.refl _) rfl ⟨hh.ready, ho⟩ fun _ _ _ hk => hk
  | unstarted e k cause hp ho =>
      rw [hp] at hh
      refine hh.goes (.refl _) rfl ⟨hh.ready, trivial, ?_⟩ fun _ _ _ hk => hk
      -- a start that failed leaves no process behind
      intro s hs hact
      rw [Fleet.outcome?, hs] at ho
      have hexited := (hh.grows.consistent _ s hh.ready hs).exited_of_fault ho
      rw [Service.isActive, hexited] at hact
      cases hact
  | unsuited e k hp hne =>
      rw [hp] at hh
      obtain ⟨hid, ho⟩ := hh.ready
      refine hh.goes (.refl _) rfl ⟨hid, trivial, ?_⟩ fun _ _ _ hk => hk
      intro s hs _
      rw [Fleet.outcome?, hs] at ho
      rw [Carrier.protocol?, Carrier.answer?, hs] at hne
      exact ⟨ho, hne⟩
  | discarding e service call states hp =>
      rw [hp] at hh
      have hgoes := Fleet.goes_call m.fleet service call
      obtain ⟨hid, hcall, hother⟩ : (AttemptPhase.discarding e service call states).Ready fleet
          { m with fleet := (call.step service m.fleet).2 } :=
        hh.ready.goes hh.grows hgoes rfl
      have hready : (AttemptPhase.discarding e service (call.step service m.fleet).1 states).Ready
          fleet { m with fleet := (call.step service m.fleet).2 } :=
        ⟨hid, hh.ready.2.1.step, hother⟩
      unfold during
      split
      · next result hres =>
        refine hh.goes hgoes rfl trivial fun id _ hrem hk => ?_
        obtain rfl : id = service := hk
        exact absurd hready (hrem.not_discarded hres)
      · exact hh.goes hgoes rfl hready fun _ _ _ hk => hk
  | installed e k hp hm =>
      rw [hp] at hh
      exact hh.goes (.refl _) rfl trivial fun _ _ _ hk => ⟨k, rfl, hk⟩
  -- nothing is connected while an attempt has a carrier of its own
  | displacing e k stale hp hm =>
      rw [hp] at ha
      cases hm.symm.trans ha
  | replacing e service call hp =>
      rw [hp] at ha
      exact ha.elim
  | testing c c' m' hp hc =>
      rw [hp] at hh
      obtain ⟨hl, -, -, hact, hf⟩ := hc.frame
      refine hh.goes (by rw [hf]; exact .refl _) (by rw [hl]) trivial fun _ _ _ hk => ?_
      rw [hact]
      exact hk
  | detached hp | unknown e hp ht | suited e k hp hk | tested c hp hc =>
      rw [hp] at hh
      exact hh.goes (.refl _) rfl trivial fun _ _ _ hk => hk
  | brokenOff | abandoned | untested =>
      exact hh.goes (.refl _) rfl trivial fun _ _ _ _ => trivial

/-! ## §4. Runs. -/

/-- The phase of the last attempt; before the first one it is as if one were over. -/
def lastPhase (m : Manager) : AttemptPhase := (m.attempts.getLast?.map (·.phase)).getD .finished

theorem lastPhase_of_eq {before : List Attempt} {a : Attempt} (h : m.attempts = before ++ [a]) :
    m.lastPhase = a.phase := by
  unfold lastPhase
  rw [h, List.getLast?_concat]
  rfl

/-- What an attempt with nothing to tell keeps is the carrier that is active, and it needs
nothing. -/
theorem Attempt.isDone_phase {a : Attempt} (h : a.isDone = true) :
    (∀ fleet m, a.phase.Ready fleet m) ∧
      ∀ active id, a.phase.Keeps active id ↔ ∃ k, active = some k ∧ id = k.service := by
  unfold isDone at h
  split at h
  · next e hp =>
    rw [hp]
    exact ⟨fun _ _ => trivial, fun _ _ => .rfl⟩
  · next hp =>
    rw [hp]
    exact ⟨fun _ _ => trivial, fun _ _ => .rfl⟩
  · next k hp =>
    rw [hp]
    exact ⟨fun _ _ => trivial, fun _ _ => .rfl⟩
  · cases h

/-- When all attempts are done, what remains is the carrier that is active. -/
theorem lastPhase_of_done (h : ∀ a ∈ m.attempts, a.isDone = true) {active : Option Carrier}
    {id : String} : m.lastPhase.Keeps active id ↔ ∃ k, active = some k ∧ id = k.service := by
  rcases List.eq_nil_or_concat m.attempts with hnil | ⟨before, a, heq⟩
  · unfold lastPhase
    rw [hnil]
    exact .rfl
  · rw [List.concat_eq_append] at heq
    rw [lastPhase_of_eq heq]
    exact (Attempt.isDone_phase (h a (by rw [heq]; simp))).2 active id

/-- Whatever happens without the attempts. -/
theorem Handover.of_same (h : Handover fleet m.lastPhase m) (hf : m.fleet.Goes m'.fleet)
    (hatt : m'.attempts = m.attempts) (hact : m'.active = m.active)
    (hset : m'.loop.settings = m.loop.settings) : Handover fleet m'.lastPhase m' := by
  have hlast : m'.lastPhase = m.lastPhase := by
    unfold lastPhase
    rw [hatt]
  rw [hlast]
  exact h.of_goes hf hact hset

/-- The next attempt begins with what is active. -/
theorem Handover.connectCurrent (h : Handover fleet m.lastPhase m)
    (hd : ∀ a ∈ m.attempts, a.isDone = true) :
    Handover fleet m.connectCurrent.lastPhase m.connectCurrent := by
  unfold Manager.connectCurrent
  split
  · next conn _ =>
    have hlast : (m.connect conn).lastPhase = .detaching := by
      unfold lastPhase connect
      rw [List.getLast?_concat]
      rfl
    rw [hlast]
    exact h.goes (.refl _) rfl trivial fun _ _ _ hk => (lastPhase_of_done hd).1 hk
  · exact h.of_same (.refl _) rfl rfl rfl

/-- What the event loop does with a message changes neither services nor attempts. -/
theorem handle_frame (shuffle : Shuffle) (m : Manager) (message : Message) :
    (m.handle shuffle message).fleet = m.fleet ∧
      (m.handle shuffle message).attempts = m.attempts ∧
      (m.handle shuffle message).active = m.active ∧
      (m.handle shuffle message).loop.settings = m.loop.settings := by
  cases message with
  | event e =>
      show (m.handleEvent e).fleet = _ ∧ (m.handleEvent e).attempts = _ ∧
        (m.handleEvent e).active = _ ∧ (m.handleEvent e).loop.settings = _
      unfold handleEvent
      dsimp only
      split <;> exact ⟨rfl, rfl, rfl, rfl⟩
  | _ => exact ⟨rfl, rfl, rfl, rfl⟩

/-- Sending changes neither services nor attempts. -/
theorem send_frame (m : Manager) (message : Message) :
    (m.send message).fleet = m.fleet ∧ (m.send message).attempts = m.attempts ∧
      (m.send message).active = m.active ∧
      (m.send message).loop.settings = m.loop.settings := by
  rw [send_eq]
  exact ⟨rfl, rfl, rfl, rfl⟩

variable {c : Chronicle}

/-- An attempt takes a step. -/
theorem Handover.attempt (h : Handover fleet c.manager.lastPhase c.manager) (ho : Orderly c)
    {probe : Probe} {i : Nat} {a : Attempt} {m₁ : Manager} (hi : c.manager.attempts[i]? = some a)
    (hstep : a.Step probe c.manager p m₁) (hm : m' =
      { m₁ with attempts := m₁.attempts.set i { a with phase := p } }) :
    Handover fleet m'.lastPhase m' := by
  obtain ⟨-, hatt, -⟩ := hstep.frame
  have hmem : a ∈ c.manager.attempts := List.mem_of_getElem? hi
  subst hm
  cases hd : a.isDone with
  | false =>
      obtain ⟨before, heq, rfl⟩ := ho.sane.eq_last hi hd
      have heq' : c.manager.attempts = before ++ [a] := heq
      have hset : m₁.attempts.set before.length { a with phase := p } =
          before ++ [{ a with phase := p }] := by
        rw [hatt, heq']
        simp
      rw [lastPhase_of_eq heq'] at h
      rw [hset, lastPhase_of_eq rfl]
      have hh := hstep.hands_over (ho.sane.holds a hmem hd) h
      exact hh.of_goes (.refl _) rfl rfl
  | true =>
      obtain ⟨rfl, hd'⟩ := hstep.of_isDone hd
      rcases List.eq_nil_or_concat c.manager.attempts with hnil | ⟨before, x, heq⟩
      · rw [hnil] at hi
        cases hi
      rw [List.concat_eq_append] at heq
      rw [lastPhase_of_eq heq] at h
      rw [heq] at hi ⊢
      rcases Ledger.getElem?_concat_cases hi with hi | ⟨rfl, rfl⟩
      · -- another one is the last
        rw [List.set_append_left _ _ (List.getElem?_eq_some_iff.1 hi).1, lastPhase_of_eq rfl]
        exact h.of_goes (.refl _) rfl rfl
      · obtain ⟨hready, hkeeps⟩ := Attempt.isDone_phase hd'
        rw [show (before ++ [x]).set before.length { x with phase := p } =
          before ++ [{ x with phase := p }] by simp, lastPhase_of_eq rfl]
        exact h.goes (.refl _) rfl (hready _ _) fun id _ _ hk =>
          (hkeeps _ id).2 (((Attempt.isDone_phase hd).2 _ id).1 hk)

/-- Whatever others ask for. -/
theorem Handover.ask (h : Handover fleet m.lastPhase m) (request : Request) :
    Handover fleet (m.ask request).lastPhase (m.ask request) := by
  cases request with
  | updateConnections | updateTransports | stop =>
      obtain ⟨hf, hatt, hact, hset⟩ := send_frame m _
      exact h.of_same (.of_services_eq (congrArg _ hf)) hatt hact hset
  | subscribe =>
      obtain ⟨hf, hatt, hact, hset⟩ :=
        send_frame { m with inboxes := m.inboxes ++ [Inbox.mk true []] } _
      exact h.of_same (.of_services_eq (congrArg _ hf)) hatt hact hset
  | unsubscribe | read => exact h.of_same (.refl _) rfl rfl rfl
  | call service call => exact h.of_same (Fleet.goes_call ..) rfl rfl rfl

/-- **Whatever happens** hands over what remains. -/
theorem Handover.act (h : Handover fleet c.manager.lastPhase c.manager) (ho : Orderly c)
    {host : Host} {probe : Probe} {action : Action}
    (hs : c.manager.step? host probe action = some m') : Handover fleet m'.lastPhase m' := by
  unfold Manager.step? at hs
  cases action with
  | begin =>
      obtain ⟨hst, hs⟩ := Option.ite_none_right_eq_some.1 hs
      cases hs
      have hnil : c.manager.attempts = [] := (ho.fresh hst).attempts
      have hsame : Handover fleet _ { c.manager with
          loop := { c.manager.loop with stage := .running } } := h.of_same (.refl _) rfl rfl rfl
      refine hsame.connectCurrent fun a ha => ?_
      have ha' : a ∈ c.manager.attempts := ha
      rw [hnil] at ha'
      cases ha'
  | receive shuffle =>
      dsimp only at hs
      split at hs
      · next message rest hst hq =>
        cases hs
        obtain ⟨hf, hatt, hact, hset⟩ :=
          handle_frame shuffle { c.manager with queue := rest } message
        exact h.of_same (.of_services_eq (congrArg _ hf)) hatt hact hset
      · cases hs
  | reconnect =>
      obtain ⟨⟨hst, hany⟩, hs⟩ := Option.ite_none_right_eq_some.1 hs
      cases hs
      have hidle := ho.idle_of_armed hst (Option.isSome_of_any hany)
      have hsame : Handover fleet _ { c.manager with loop := { c.manager.loop with
          reconnectAt := none, rotation := c.manager.loop.rotation.advance } } :=
        h.of_same (.refl _) rfl rfl rfl
      exact hsame.connectCurrent hidle.done
  | reverify =>
      obtain ⟨-, hs⟩ := Option.ite_none_right_eq_some.1 hs
      cases hs
      unfold Manager.reverify
      dsimp only
      split
      · exact h.of_same (.refl _) rfl rfl rfl
      · split <;> exact h.of_same (.refl _) rfl rfl rfl
  | attempt i =>
      obtain ⟨a, p, m₁, hi, hstep, rfl⟩ := attemptStep?_eq_some hs
      exact h.attempt ho hi hstep rfl
  | check i =>
      obtain ⟨k, hi, ⟨hp, rfl⟩ | ⟨k', m₁, hstep, rfl⟩⟩ := checkStep?_eq_some hs
      · obtain ⟨hf, hatt, hact, hset⟩ := send_frame
          { c.manager with checks := c.manager.checks.eraseIdx i } .verified
        exact h.of_same (.of_services_eq (congrArg _ hf)) hatt hact hset
      · obtain ⟨hl, hatt, -, hact, hf⟩ := hstep.frame
        exact h.of_same (.of_services_eq (congrArg _ hf)) hatt hact (by rw [← hl])
  | fleet action =>
      obtain ⟨f, hf, rfl⟩ := Option.map_eq_some_iff.1 hs
      exact h.of_same (Fleet.goes_step hf) rfl rfl rfl

/-- Every move hands over what remains. -/
theorem Handover.move (h : Handover fleet c.manager.lastPhase c.manager) (ho : Orderly c)
    (mv : Move) : Handover fleet (c.move mv).manager.lastPhase (c.move mv).manager := by
  cases mv with
  | ask request => exact h.ask request
  | act host probe action =>
      unfold Chronicle.move
      dsimp only
      cases hs : c.manager.step? host probe action with
      | none => exact h
      | some m =>
          have hh := h.act ho hs
          rw [← c.manager_afterAction action m] at hh
          exact hh

/-- Nothing remains before anything happens. -/
theorem handover_create (settings : Settings) (fleet : Fleet) (registry : String)
    (transports : Named Transport) (shuffle : Shuffle) (connections : List Connection) :
    Handover fleet .finished (create settings fleet registry transports shuffle connections) := by
  have hnone : ∀ id, ¬(create settings fleet registry transports shuffle connections).Remains
      fleet id := by
    rintro id ⟨hid, s, hs, -⟩
    cases hid.symm.trans hs
  exact ⟨.refl fleet, trivial, fun id h => (hnone id h).elim, fun id _ h => (hnone id h).elim⟩

/-- **After every run** what remains is what the phase of the last attempt keeps. -/
theorem handover_run (h : c.ReachedFrom fleet) :
    Handover fleet c.manager.lastPhase c.manager := by
  obtain ⟨settings, registry, transports, shuffle, connections, moves, rfl⟩ := h
  let start := chronicle (create settings fleet registry transports shuffle connections)
  have hboth : Orderly (start.run moves) ∧
      Handover fleet (start.run moves).manager.lastPhase (start.run moves).manager := by
    refine Chronicle.run_induction (P := fun c => Orderly c ∧
      Handover fleet c.manager.lastPhase c.manager) ⟨orderly_create .., handover_create ..⟩ moves
      fun _ h mv _ => ⟨h.1.move mv, h.2.move h.1 mv⟩
  exact hboth.2

/-! ## §5. The next start. -/

/-- Every service that was set up and started since has exited. -/
def IsClear (fleet : Fleet) (m : Manager) : Prop :=
  ∀ id s, fleet.service? id = none → m.fleet.service? id = some s → s.lifecycle ≠ .idle →
    s.lifecycle = .exited

/-- Every service that was dismissed since has exited. -/
def IsRid (fleet : Fleet) (m : Manager) : Prop :=
  ∀ id s, fleet.service? id = none → m.fleet.service? id = some s →
    s.IsDismissed m.loop.settings.expectedProtocol → s.lifecycle = .exited

/-- When a service is about to be started, all that was started before has exited or was
dismissed. -/
theorem Handover.exited_or_dismissed {e : Event} {k : Carrier}
    (h : Handover fleet (.launching e k) m) (hact : m.active = none) {id : String} {s : Service}
    (hid : fleet.service? id = none) (hs : m.fleet.service? id = some s)
    (hi : s.lifecycle ≠ .idle) :
    s.lifecycle = .exited ∨ s.IsDismissed m.loop.settings.expectedProtocol := by
  by_cases hdis : s.IsDismissed m.loop.settings.expectedProtocol
  · exact .inr hdis
  · left
    by_contra hne
    obtain ⟨k', hk', -⟩ := h.keeps id ⟨hid, s, hs, Service.isActive_iff.2 ⟨hi, hne⟩, hdis⟩
    rw [hact] at hk'
    cases hk'

/-- A service that was dismissed is not idle. -/
theorem Handover.not_idle (h : Handover fleet p m) {id : String} {s : Service} {expected : String}
    (hid : fleet.service? id = none) (hs : m.fleet.service? id = some s)
    (hdis : s.IsDismissed expected) : s.lifecycle ≠ .idle := by
  intro hi
  have hnone := (h.grows.consistent id s hid hs).outcome_of_idle hi
  rw [hdis.started] at hnone
  cases hnone

/-- All services that were started are gone if and only if those are that were dismissed. -/
theorem Handover.isClear_iff {e : Event} {k : Carrier} (h : Handover fleet (.launching e k) m)
    (hact : m.active = none) : IsClear fleet m ↔ IsRid fleet m := by
  constructor
  · intro hclear id s hid hs hdis
    exact hclear id s hid hs (h.not_idle hid hs hdis)
  · intro hrid id s hid hs hi
    exact (h.exited_or_dismissed hact hid hs hi).elim (fun hx => hx) (hrid id s hid hs)

/-- **Handing over.** After every run, when an attempt is about to start its service, every one
that was started before has exited or was dismissed for its protocol; so all of them have exited if
and only if those have that were dismissed.  And of two services that are active at any time one was
dismissed. -/
theorem handover (h : c.ReachedFrom fleet) :
    (∀ a ∈ c.manager.attempts, ∀ e k, a.phase = .launching e k →
      (∀ id s, fleet.service? id = none → c.manager.fleet.service? id = some s →
        s.lifecycle ≠ .idle →
        s.lifecycle = .exited ∨ s.IsDismissed c.manager.loop.settings.expectedProtocol) ∧
      (IsClear fleet c.manager ↔ IsRid fleet c.manager)) ∧
    ∀ id id' s s', fleet.service? id = none → fleet.service? id' = none →
      c.manager.fleet.service? id = some s → c.manager.fleet.service? id' = some s' →
      s.isActive = true → s'.isActive = true → id ≠ id' →
      s.IsDismissed c.manager.loop.settings.expectedProtocol ∨
        s'.IsDismissed c.manager.loop.settings.expectedProtocol := by
  have hh := handover_run h
  have ho := orderly_run h
  constructor
  · intro a ha e k hp
    have hd : a.isDone = false := by
      unfold Attempt.isDone
      rw [hp]
    have hact := ho.sane.holds a ha hd
    unfold Attempt.Holds at hact
    rw [hp] at hact
    obtain ⟨i, hi⟩ := List.getElem?_of_mem ha
    obtain ⟨before, heq, -⟩ := ho.sane.eq_last hi hd
    rw [lastPhase_of_eq heq, hp] at hh
    exact ⟨fun id s => hh.exited_or_dismissed hact, hh.isClear_iff hact⟩
  · intro id id' s s' hid hid' hs hs' ha ha' hne
    by_contra hnone
    rw [not_or] at hnone
    exact hne (hh.single id id' ⟨hid, s, hs, ha, hnone.1⟩ ⟨hid', s', hs', ha', hnone.2⟩)

/-! ## §6. A service that is not waited for. -/

/-- A host on which every program names an endpoint of another protocol and stays for long. -/
def foreignHost : Host :=
  ⟨[], fun _ _ _ => .ok
    [.write (Text.Utf8.bytesOf "VERSION 1.0\nEXPOSE m http 127.0.0.1:3\nDONE\n"), .pause 10000]⟩

/-- A service is started there, dismissed and asked to stop, and the timer fires before its time to
leave is over. -/
def unawaited : List Action :=
  .begin :: List.replicate 9 (.attempt 0) ++
    [.fleet (.owner "svc-0"), .fleet (.child "svc-0")] ++
    List.replicate 4 (.fleet (.owner "svc-0")) ++ List.replicate 12 (.attempt 0) ++
    [.fleet (.heed "svc-0")] ++ List.replicate 6 (.receive .keep) ++
    [.fleet (.elapse 4000), .reconnect] ++ List.replicate 8 (.attempt 1)

/-- The chronicle of that run. -/
def unawaitedChronicle : Chronicle :=
  (chronicle (create .standard .empty "" (.ofList [("x", ⟨"x", false, some "x", [], false⟩)]) .keep
    [⟨"x", "", "198.51.100.3:3", false, false, "x"⟩])).run (unawaited.map (.act foreignHost easyProbe))

/-- Whether a service is about to be started. -/
def AttemptPhase.isLaunching (p : AttemptPhase) : Bool :=
  match p with
  | .launching .. => true
  | _ => false

theorem AttemptPhase.isLaunching_iff : p.isLaunching = true ↔ ∃ e k, p = .launching e k := by
  cases p <;> simp [isLaunching]

/-- When the second service is about to be started, the first one is still active. -/
theorem unawaited_active :
    unawaitedChronicle.manager.attempts.any (·.phase.isLaunching) = true ∧
      unawaitedChronicle.manager.fleet.isActive "svc-0" = true := by decide +kernel

theorem handover_unawaited :
    unawaitedChronicle.ReachedFrom .empty ∧
      ∃ s, unawaitedChronicle.manager.fleet.service? "svc-0" = some s ∧
        s.IsDismissed unawaitedChronicle.manager.loop.settings.expectedProtocol := by
  have h : unawaitedChronicle.ReachedFrom .empty := ⟨_, _, _, _, _, _, rfl⟩
  obtain ⟨hlaunching, hact⟩ := unawaited_active
  obtain ⟨a, ha, hp⟩ := List.any_eq_true.1 hlaunching
  obtain ⟨e, k, hp⟩ := AttemptPhase.isLaunching_iff.1 hp
  obtain ⟨s, hs, hsa⟩ := Fleet.isActive_eq_true.1 hact
  obtain ⟨hidle, hexited⟩ := Service.isActive_iff.1 hsa
  have hor := ((handover h).1 a ha e k hp).1 "svc-0" s rfl hs hidle
  exact ⟨h, s, hs, hor.resolve_left hexited⟩

/-- **Not all are gone** when the second service is about to be started. -/
theorem not_isClear_unawaited :
    unawaitedChronicle.ReachedFrom .empty ∧
      unawaitedChronicle.manager.attempts.any (·.phase.isLaunching) = true ∧
      ¬IsClear .empty unawaitedChronicle.manager := by
  obtain ⟨hlaunching, hact⟩ := unawaited_active
  refine ⟨⟨_, _, _, _, _, _, rfl⟩, hlaunching, fun hclear => ?_⟩
  obtain ⟨s, hs, ha⟩ := Fleet.isActive_eq_true.1 hact
  obtain ⟨hidle, hexited⟩ := Service.isActive_iff.1 ha
  exact hexited (hclear "svc-0" s rfl hs hidle)

end Failover.Manager
