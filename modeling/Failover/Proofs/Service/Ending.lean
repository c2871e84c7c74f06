/-
  Failover.Proofs.Service.Ending
  ──────────────────────────────
  **Whoever was asked to stop can come to an end alone.** A service goes on
  by what its own owner does, while time passes and nothing else happens in
  the fleet:

      f  ──owner, heed, elapse──▶  f'     the others are what they were

  Each turn of the owner leaves it less to go, so in the end it has exited.
  Only an owner that broke off does not go on.

  Main statement: `exists_settled` — all services of a list come to their
  ends, one after the other.
-/
import Failover.Proofs.Service.Stopping

namespace Failover.Service

namespace Fleet

variable {f f' f'' : Fleet} {host : Host} {id : String} {s s' : Service}

/-! ## §1. One service alone. -/

/-- A service is waited for as long as it is active. -/
theorem isSettled_eq (f : Fleet) (id : String) : f.isSettled id = !f.isActive id := by
  unfold isSettled isActive
  cases f.service? id with
  | none => rfl
  | some s =>
      rw [Option.all_some, Option.any_some]
      unfold Service.isSettled Service.isActive
      cases s.lifecycle <;> rfl

/-- Things happen in a fleet one after the other; what is not possible does not happen. -/
def after (host : Host) (f : Fleet) (actions : List Action) : Fleet :=
  actions.foldl (fun f action => (f.step? host action).getD f) f

theorem after_append (host : Host) (f : Fleet) (actions more : List Action) :
    f.after host (actions ++ more) = (f.after host actions).after host more :=
  List.foldl_append

/-- **A fleet may become another one**, with nothing happening to any service but one. -/
def Leads (host : Host) (id : String) (f f' : Fleet) : Prop :=
  ∃ actions, f' = f.after host actions ∧ ∀ x, x ≠ id → f'.service? x = f.service? x

theorem Leads.refl (f : Fleet) : Leads host id f f := ⟨[], rfl, fun _ _ => rfl⟩

theorem Leads.trans (h : Leads host id f f') (h' : Leads host id f' f'') :
    Leads host id f f'' := by
  obtain ⟨actions, rfl, hothers⟩ := h
  obtain ⟨actions', rfl, hothers'⟩ := h'
  refine ⟨actions ++ actions', (after_append ..).symm, fun x hx => ?_⟩
  exact (hothers' x hx).trans (hothers x hx)

/-- One action that leaves the others as they are. -/
theorem Leads.single (action : Action) (h : f.step? host action = some f')
    (hothers : ∀ x, x ≠ id → f'.service? x = f.service? x) : Leads host id f f' := by
  refine ⟨[action], ?_, hothers⟩
  show f' = (f.step? host action).getD f
  rw [h]
  rfl

/-- The owner goes on. -/
theorem leads_advance (hs : f.service? id = some s) (h : s.advance? host f.clock = some s') :
    Leads host id f (f.modify id fun _ => s') :=
  .single (.owner id) (owner_of_advance hs h) fun _ hx => service?_modify_of_ne hx.symm _

/-- It heeds a request to stop. -/
theorem leads_heed (hs : f.service? id = some s) (h : s.heed? f.clock = some s') :
    Leads host id f (f.modify id fun _ => s') :=
  .single (.heed id) (heed_of_heed hs h host) fun _ hx => service?_modify_of_ne hx.symm _

/-- It is taken out of its registry. -/
theorem leads_deregister (host : Host) (hs : f.service? id = some s) {cause : Option Fault}
    (hp : s.phase = .deregistering cause) :
    ∃ f', Leads host id f f' ∧ f'.service? id = some { s with phase := .exiting cause } := by
  refine ⟨(f.deregister id).2.modify id fun s => { s with phase := .exiting cause }, ?_,
    service?_modify_self ((service?_deregister f id).trans hs) _⟩
  exact .single (.owner id) (owner_of_deregistering hs hp host) fun x hx =>
    (service?_modify_of_ne hx.symm _).trans (service?_deregister f id)

/-- Time passes. -/
theorem leads_elapse (host : Host) (id : String) (f : Fleet) (ms : Nat) :
    Leads host id f { f with clock := f.clock + ms } :=
  .single (.elapse ms) rfl fun _ _ => rfl

/-- What happens by itself lets the fleet go on. -/
theorem goes_after (host : Host) (f : Fleet) (actions : List Action) :
    f.Goes (f.after host actions) := by
  induction actions generalizing f with
  | nil => exact .refl f
  | cons action rest ih =>
      have hstep : f.Goes ((f.step? host action).getD f) := by
        cases h : f.step? host action with
        | none => exact .refl f
        | some f' => exact goes_step h
      exact hstep.trans (ih _)

theorem Leads.goes (h : Leads host id f f') : f.Goes f' := by
  obtain ⟨actions, rfl, -⟩ := h
  exact goes_after host f actions

/-! ## §2. Closer to the end. -/

/-- **A service comes closer to its end**, alone, and its owner has not broken off. -/
def Nears (host : Host) (id : String) (f : Fleet) (s : Service) : Prop :=
  ∃ f' s', Leads host id f f' ∧ f'.service? id = some s' ∧ s'.phase.isUnderWay = true ∧
    s'.phase.rank < s.phase.rank

/-- A turn of the owner brings it closer. -/
theorem nears_turn (hs : f.service? id = some s) (hn : Service.Nearer host f.clock s s') :
    Nears host id f s := by
  have hs' := service?_modify_self hs fun _ => s'
  rcases hn.turn with hadv | hheed
  · exact ⟨_, s', leads_advance hs hadv, hs', hn.underWay, hn.rank⟩
  · exact ⟨_, s', leads_heed hs hheed, hs', hn.underWay, hn.rank⟩

/-- A process that is to leave is gone when its time is over. -/
theorem nears_ending (host : Host) (hs : f.service? id = some s) {cause : Option Fault}
    {deadline : Nat} (hp : s.phase = .ending cause deadline) (hstays : s.childGone = false) :
    Nears host id f s := by
  -- time passes until it is terminated
  let late : Fleet := { f with clock := f.clock + deadline }
  have hlate : late.service? id = some s := hs
  have hadv : s.advance? host late.clock = some (s.withChild Host.Child.exited) :=
    Service.advance?_of_due hp hstays (Nat.le_add_left deadline f.clock)
  have hp' : (s.withChild Host.Child.exited).phase = .ending cause deadline := hp
  have hgone := service?_modify_self hlate fun _ => s.withChild Host.Child.exited
  obtain ⟨f', s', hleads, hrest⟩ :=
    nears_turn hgone (Service.nearer_of_gone hp' (Service.childGone_exited s) host _)
  have hterminated := (leads_elapse host id f deadline).trans (leads_advance hlate hadv)
  exact ⟨f', s', hterminated.trans hleads, hrest⟩

/-- **Wherever the owner of a service stands that was asked to stop**, it may come closer to its
end. -/
theorem exists_nearer (hs : f.service? id = some s) (ha : s.stopRequested = true)
    (hway : s.phase.isUnderWay = true) (hfin : s.phase ≠ .finished)
    (hhost : host.entries?.isSome = true) : Nears host id f s := by
  obtain ⟨s', hn⟩ | ⟨cause, hp⟩ | ⟨cause, deadline, hp, hstays⟩ :=
    Service.exists_nearer_or ha hway hfin hhost f.clock
  · exact nears_turn hs hn
  · obtain ⟨f', hleads, hs'⟩ := leads_deregister host hs hp
    exact ⟨f', _, hleads, hs', rfl, by rw [hp]; simp [Phase.rank]⟩
  · exact nears_ending host hs hp hstays

/-! ## §3. The end. -/

/-- **A service that was asked to stop may come to its end** alone. -/
theorem exists_exited (hs : f.service? id = some s) (hc : s.Consistent)
    (ha : s.stopRequested = true) (hway : s.phase.isUnderWay = true)
    (hhost : host.entries?.isSome = true) :
    ∃ f' s', Leads host id f f' ∧ f'.service? id = some s' ∧ s'.lifecycle = .exited := by
  -- by induction on how far the owner still has to go
  induction hn : s.phase.rank using Nat.strongRecOn generalizing f s with
  | ind n ih =>
      by_cases hfin : s.phase = .finished
      · exact ⟨f, s, .refl f, hs, (hc.of_phase hfin).1⟩
      · obtain ⟨f₁, s₁, hleads, hs₁, hway₁, hlt⟩ := exists_nearer hs ha hway hfin hhost
        obtain ⟨s₂, hs₂, hgo⟩ := hleads.goes.service id s hs hc
        obtain rfl : s₁ = s₂ := Option.some.inj (hs₁.symm.trans hs₂)
        obtain ⟨f', s', hleads', hrest⟩ :=
          ih s₁.phase.rank (hn ▸ hlt) hs₁ hgo.consistent (hgo.asked ha) hway₁ rfl
        exact ⟨f', s', hleads.trans hleads', hrest⟩

/-- What holds of services that may all come to their ends: those that are active were asked to stop,
and their owners have not broken off. -/
def Ending (f : Fleet) (ids : List String) : Prop :=
  ∀ id ∈ ids, ∀ s, f.service? id = some s → s.isActive = true →
    s.Consistent ∧ s.stopRequested = true ∧ s.phase ≠ .broken

/-- One of them may become inactive alone. -/
theorem exists_inactive
    (h : ∀ s, f.service? id = some s → s.isActive = true →
      s.Consistent ∧ s.stopRequested = true ∧ s.phase ≠ .broken)
    (hhost : host.entries?.isSome = true) :
    ∃ f', Leads host id f f' ∧ f'.isActive id = false := by
  cases hact : f.isActive id with
  | false => exact ⟨f, .refl f, hact⟩
  | true =>
      obtain ⟨s, hs, ha⟩ := isActive_eq_true.1 hact
      obtain ⟨hc, hasked, hbroken⟩ := h s hs ha
      obtain ⟨f', s', hleads, hs', hexited⟩ :=
        exists_exited hs hc hasked (hc.underWay ha hbroken) hhost
      refine ⟨f', hleads, ?_⟩
      unfold isActive Service.isActive
      rw [hs', Option.any_some, hexited]
      rfl

/-- **All services of a list may come to their ends**, one after the other. -/
theorem exists_settled {ids : List String} (h : f.Ending ids)
    (hhost : host.entries?.isSome = true) :
    ∃ actions, (∀ id ∈ ids, (f.after host actions).isActive id = false) ∧
      ∀ x, x ∉ ids → (f.after host actions).service? x = f.service? x := by
  induction ids generalizing f with
  | nil => exact ⟨[], nofun, fun _ _ => rfl⟩
  | cons id rest ih =>
      obtain ⟨f₁, hleads, hinactive⟩ := exists_inactive (h id List.mem_cons_self) hhost
      obtain ⟨first, rfl, hothers⟩ := hleads
      have hrest : (f.after host first).Ending rest := by
        intro x hx s hs ha
        by_cases hxid : x = id
        · subst hxid
          rw [isActive_eq_true.2 ⟨s, hs, ha⟩] at hinactive
          cases hinactive
        · exact h x (List.mem_cons_of_mem id hx) s ((hothers x hxid).symm.trans hs) ha
      obtain ⟨more, hsettled, hsame⟩ := ih hrest
      refine ⟨first ++ more, ?_, ?_⟩ <;> rw [after_append]
      · intro x hx
        by_cases hmem : x ∈ rest
        · exact hsettled x hmem
        · obtain rfl : x = id := (List.mem_cons.1 hx).resolve_right hmem
          unfold isActive
          rw [hsame x hmem]
          exact hinactive
      · intro x hx
        rw [List.mem_cons, not_or] at hx
        exact (hsame x hx.2).trans (hothers x hx.1)

end Fleet

/-! ## §4. Asking all of them. -/

/-- The service after somebody has had it stopped. -/
def stopped (s : Service) : Service := if s.isActive then s.requestStop else s

theorem stopped_stopped (s : Service) : s.stopped.stopped = s.stopped := by
  unfold stopped
  by_cases ha : s.isActive = true
  · rw [if_pos ha, if_pos (show s.requestStop.isActive = true from ha)]
    rfl
  · rw [if_neg ha, if_neg ha]

namespace Fleet

variable {f : Fleet}

/-- Only a service that is active is asked to stop. -/
theorem stop_eq (f : Fleet) (id : String) :
    f.stop id = if f.isActive id then f.modify id Service.requestStop else f := by
  unfold stop StopCall.step
  by_cases ha : f.isActive id = true
  · simp only [if_pos ha]
  · simp only [if_neg ha]

theorem service?_stop (f : Fleet) (id x : String) :
    (f.stop id).service? x = if x = id then (f.service? x).map Service.stopped else f.service? x := by
  rw [stop_eq]
  by_cases hx : x = id
  · subst hx
    rw [if_pos rfl]
    unfold isActive
    cases hs : f.service? x with
    | none => exact hs
    | some s =>
        rw [Option.any_some, Option.map_some, Service.stopped]
        split
        · exact service?_modify_self hs _
        · exact hs
  · rw [if_neg hx]
    split
    · exact service?_modify_of_ne (Ne.symm hx) _
    · rfl

/-- Those that are asked one after the other are stopped, and nothing else changes. -/
theorem service?_stopEach (ids : List String) (f : Fleet) (x : String) :
    (ids.foldl stop f).service? x =
      if x ∈ ids then (f.service? x).map Service.stopped else f.service? x := by
  induction ids generalizing f with
  | nil => rfl
  | cons id rest ih =>
      rw [List.foldl_cons, ih, service?_stop]
      by_cases hid : x = id
      · subst hid
        rw [if_pos rfl, if_pos List.mem_cons_self]
        split
        · rw [Option.map_map]
          congr 1
          funext s
          exact s.stopped_stopped
        · rfl
      · rw [if_neg hid]
        simp only [List.mem_cons, hid, false_or]

/-- **Once all of them were asked to stop**, they may come to their ends. -/
theorem ending_stopEach {ids : List String}
    (h : ∀ id ∈ ids, ∀ s, f.service? id = some s → s.Consistent ∧ s.phase ≠ .broken) :
    (ids.foldl stop f).Ending ids := by
  intro id hid s' hs' ha
  rw [service?_stopEach, if_pos hid] at hs'
  obtain ⟨s, hs, rfl⟩ := Option.map_eq_some_iff.1 hs'
  obtain ⟨hc, hbroken⟩ := h id hid s hs
  unfold Service.stopped at ha ⊢
  by_cases hact : s.isActive = true
  · rw [if_pos hact]
    exact ⟨hc, rfl, hbroken⟩
  · rw [if_neg hact] at ha
    exact absurd ha hact

end Fleet

/-! ## §5. Removing what is over. -/

/-- How many steps a call to remove a service still has to take at most, if that is inactive. -/
def RemoveCall.toGo : RemoveCall → Nat
  | .marking => 5
  | .stopping _ => 4
  | .checking | .rechecking => 3
  | .deregistering => 2
  | .finished _ => 1

/-- Every step of it brings it closer to its result. -/
theorem RemoveCall.toGo_step {f : Fleet} {id : String} (h : f.isActive id = false)
    (call : RemoveCall) :
    (call.step id f).1.result?.isSome = true ∨ (call.step id f).1.toGo < call.toGo := by
  cases call with
  | checking | rechecking =>
      right
      simp [step, h, toGo]
  | marking => exact .inr (by simp [step, toGo])
  | stopping call =>
      right
      cases call <;> simp [step, StopCall.step, h, toGo]
  | deregistering | finished => exact .inl rfl

end Failover.Service
