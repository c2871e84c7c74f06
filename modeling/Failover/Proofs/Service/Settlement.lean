/-
  Failover.Proofs.Service.Settlement
  ──────────────────────────────────
  **How a start leaves its service behind.**  A start counts as begun before
  anything is launched, and it has to settle the service whichever way it
  ends:

      succeeded    the service runs, or has exited since
      failed       it has exited and tells nothing, so whoever waits for it
                   is answered, and a removal takes it out

  The owner does so on every way out but one.  Before it launches anything
  it looks at the variables of the host, and if they are not all text it
  breaks off; then the start has ended, and the service is starting for
  ever.

  Main statement: `start_settles_iff`.
-/
import Failover.Proofs.Service.Onward
import Failover.Proofs.Service.Lifecycle
import Failover.Proofs.Service.Stopping

namespace Failover.Service

/-! ## §1. Owners that break off. -/

/-- A move that happens on a given host, if on any. -/
def Move.IsOn (host : Host) : Move → Prop
  | .act host' _ => host' = host
  | _ => True

section Breaking

variable {f f' : Fleet} {id : String} {host : Host} {s s' : Service}

/-- **On a host whose variables are text** no owner breaks off. -/
theorem Fleet.unbroken_owner (hhost : host.entries?.isSome = true)
    (h : f.step? host (.owner id) = some f') (hs : f.service? id = some s)
    (hs' : f'.service? id = some s') : s'.phase ≠ .broken := by
  obtain ⟨s₁, hs₁, hpass⟩ := passage_owner h hs
  obtain rfl : s' = s₁ := Option.some.inj (hs'.symm.trans hs₁)
  intro hp
  cases hpass with
  | passing child phase hpasses =>
      obtain rfl : phase = .broken := hp
      generalize s.phase = p at hpasses
      cases hpasses
  | broken b hl =>
      -- only a launch breaks off, and on such a host it leads on
      rw [owner_of_launching hs hl] at h
      cases h
      rw [service?_modify_self hs] at hs'
      have hway := (launch_underWay hhost s f.clock).1
      have heq : s.launch host f.clock = _ := Option.some.inj hs'
      rw [heq] at hway
      cases hway
  | stored | announced | exited => cases hp

/-- What a call does to a service does not break its owner off. -/
theorem Call.unbroken_effect (call : Call) (hb : s.phase ≠ .broken) :
    (call.effect s).phase ≠ .broken := by
  unfold Call.effect
  split
  · exact hb
  · exact nofun
  all_goals exact hb

/-- Nor does what happens by itself besides. -/
theorem Aside.unbroken {now : Nat} (h : s.Aside now s') (hb : s.phase ≠ .broken) :
    s'.phase ≠ .broken := by
  cases h with
  | process => exact hb
  | heeded h =>
      obtain ⟨-, ⟨n, b, -, rfl⟩ | ⟨-, rfl⟩⟩ := Service.heed?_eq_some h <;> exact nofun

/-- **An owner that broke off** does not go on, -/
theorem Passage.not_broken (h : s.Passage s') : s.phase ≠ .broken := by
  cases h with
  | passing child phase h =>
      intro hp
      rw [hp] at h
      cases h
  | broken b h | stored n h | announced h | exited cause h =>
      rw [h]
      exact nofun

/-- nor does it heed anything. -/
theorem Aside.broken {now : Nat} (h : s.Aside now s') (hp : s.phase = .broken) :
    s'.phase = .broken := by
  cases h with
  | process => exact hp
  | heeded h => exact absurd hp (Service.passage_heed h).not_broken

/-- Calls leave it as it is. -/
theorem Call.Knows.broken_effect {call : Call} (h : call.Knows s) (hc : s.Consistent)
    (hp : s.phase = .broken) : (call.effect s).phase = .broken := by
  unfold Call.effect
  split
  · exact hp
  · cases hp.symm.trans (hc.phase_of_idle h)
  all_goals exact hp

/-- **How a start has ended**: the service has exited, or it runs because the start succeeded, or its
owner broke off and it is still starting. -/
theorem Consistent.ended (hc : s.Consistent) {result : Except Abort Unit}
    (ho : s.outcome = some result) :
    s.lifecycle = .exited ∨ s.lifecycle = .running ∧ result = .ok () ∨
      s.phase = .broken ∧ s.lifecycle = .starting ∧ ∃ b, result = .error (.breach b) := by
  have hran : s.lifecycle = .running ∧ s.outcome = some (.ok ()) →
      s.lifecycle = .running ∧ result = .ok () := fun h =>
    ⟨h.1, Option.some.inj (ho.symm.trans h.2)⟩
  cases hp : s.phase with
  | none | launching | handshaking | answering | announcing =>
      have hnone : s.outcome = none := (hc.of_phase hp).2
      cases ho.symm.trans hnone
  | supervising => exact .inr (.inl (hran (hc.of_phase hp)))
  | ending cause | finishing cause | deregistering cause | exiting cause =>
      have hsince : Service.Since s.lifecycle s.outcome cause := hc.of_phase hp
      cases cause with
      | none => exact .inr (.inl (hran hsince))
      | some cause => cases ho.symm.trans hsince.2
  | finished => exact .inl (hc.of_phase hp).1
  | broken =>
      obtain ⟨hl, b, hb⟩ :
          s.lifecycle = .starting ∧ ∃ b, s.outcome = some (.error (.breach b)) := hc.of_phase hp
      exact .inr (.inr ⟨rfl, hl, b, Option.some.inj (ho.symm.trans hb)⟩)

/-- The start of a service that has exited has ended. -/
theorem Consistent.outcome_of_exited (hc : s.Consistent) (hl : s.lifecycle = .exited) :
    ∃ result, s.outcome = some result := by
  cases hp : s.phase with
  | none | launching | handshaking | answering | announcing | supervising | broken =>
      cases hl.symm.trans (hc.of_phase hp).1
  | ending cause | finishing cause | deregistering cause | exiting cause =>
      have hsince : Service.Since s.lifecycle s.outcome cause := hc.of_phase hp
      cases cause with
      | none | some => cases hl.symm.trans hsince.1
  | finished => exact Option.ne_none_iff_exists'.1 (hc.of_phase hp).2

end Breaking

namespace Scene

variable {id : String} {sc sc' sc'' : Scene} {s s' : Service} {host : Host} {i : Nat} {call : Call}
  {moves : List Move}

/-- A step of a call has its effect on the service, or none at all. -/
theorem service?_go (hs : sc.fleet.service? id = some s) (caller : Nat) :
    (sc.go id caller).fleet.service? id = some s ∨
      ∃ call : Call, (sc.go id caller).fleet.service? id = some (call.effect s) := by
  unfold go
  split
  · exact .inl hs
  · next call hcall =>
    split
    · exact .inl hs
    · refine .inr ⟨call, ?_⟩
      show (call.step id sc.fleet).2.service? id = _
      rw [service?_call, hs]
      rfl

/-- **What breaks an owner off** is that it goes on where the variables are not all text. -/
theorem exists_host_of_broken {mv : Move} (hs : sc.fleet.service? id = some s)
    (hb : s.phase ≠ .broken) (hs' : (sc.move id mv).fleet.service? id = some s')
    (hp : s'.phase = .broken) : ∃ host, mv = .act host (.owner id) ∧ host.entries? = none := by
  have hsame : ¬ sc.fleet.service? id = some s' := by
    intro heq
    obtain rfl : s = s' := Option.some.inj (hs.symm.trans heq)
    exact hb hp
  cases mv with
  | come demand => exact absurd hs' hsame
  | go caller =>
      rcases service?_go hs caller with heq | ⟨call, heq⟩
      · obtain rfl : s = s' := Option.some.inj (heq.symm.trans hs')
        exact absurd hp hb
      · obtain rfl : call.effect s = s' := Option.some.inj (heq.symm.trans hs')
        exact absurd hp (call.unbroken_effect hb)
  | act host action =>
      unfold move at hs'
      dsimp only at hs'
      split at hs'
      · next haction =>
        refine ⟨host, by rw [haction], Decidable.byContradiction fun hne => ?_⟩
        have hhost : host.entries?.isSome = true := Option.isSome_iff_ne_none.2 hne
        unfold own at hs'
        rw [hs] at hs'
        cases hf : sc.fleet.step? host (.owner id) with
        | none =>
            rw [hf] at hs'
            exact hsame hs'
        | some f =>
            rw [hf] at hs'
            dsimp only at hs'
            split at hs'
            · exact Fleet.unbroken_owner hhost hf hs hs' hp
            · exact hsame hs'
      · next haction =>
        cases hf : sc.fleet.step? host action with
        | none =>
            rw [hf] at hs'
            exact absurd hs' hsame
        | some f =>
            rw [hf] at hs'
            obtain ⟨s₁, hs₁, haside⟩ := Fleet.aside_step hf haction hs
            obtain rfl : s' = s₁ := Option.some.inj (hs'.symm.trans hs₁)
            exact absurd hp (haside.unbroken hb)
  | elsewhere rest =>
      refine absurd ?_ hsame
      have hs' : (sc.fleet.among id rest).service? id = some s' := hs'
      unfold Fleet.among at hs'
      rw [hs] at hs'
      rw [← hs', hs]
      exact ((Named.get?_insert ..).trans (if_pos rfl)).symm

/-- An owner that has broken off went on where the variables are not all text. -/
theorem Ordered.exists_host_of_run (h : sc.Ordered id s) (hb : s.phase ≠ .broken)
    (hs' : (sc.run id moves).fleet.service? id = some s') (hp : s'.phase = .broken) :
    ∃ host, .act host (.owner id) ∈ moves ∧ host.entries? = none := by
  induction moves generalizing sc s with
  | nil =>
      obtain rfl : s = s' := Option.some.inj (h.here.symm.trans hs')
      exact absurd hp hb
  | cons mv rest ih =>
      obtain ⟨s₁, hs₁, hstep⟩ := step_move h.here mv
      by_cases hb₁ : s₁.phase = .broken
      · obtain ⟨host, rfl, hnone⟩ := exists_host_of_broken h.here hb hs₁ hb₁
        exact ⟨host, List.mem_cons_self, hnone⟩
      · obtain ⟨host, hmem, hnone⟩ := ih (h.step hstep hs₁) hb₁ hs'
        exact ⟨host, List.mem_cons_of_mem mv hmem, hnone⟩

/-- **Runs on a host whose variables are text** break no owner off. -/
theorem Ordered.unbroken_run (h : sc.Ordered id s) (hb : s.phase ≠ .broken)
    (hhost : host.entries?.isSome = true) (hmoves : ∀ mv ∈ moves, mv.IsOn host)
    (hs' : (sc.run id moves).fleet.service? id = some s') : s'.phase ≠ .broken := by
  intro hp
  obtain ⟨host', hmem, hnone⟩ := h.exists_host_of_run hb hs' hp
  obtain rfl : host' = host := hmoves _ hmem
  rw [hnone] at hhost
  cases hhost

/-- **Nothing happens any more** to an owner that broke off, whatever happens around it. -/
theorem Ordered.broken_run (h : sc.Ordered id s) (hp : s.phase = .broken) (moves : List Move) :
    ∃ s', (sc.run id moves).Ordered id s' ∧ s'.phase = .broken := by
  induction moves generalizing sc s with
  | nil => exact ⟨s, h, hp⟩
  | cons mv rest ih =>
      obtain ⟨s', hs', hstep⟩ := step_move h.here mv
      refine ih (h.step hstep hs') ?_
      generalize sc.move id mv = sc' at hstep
      cases hstep with
      | still | come => exact hp
      | go caller call hcall =>
          exact (h.knows call (List.mem_of_getElem? hcall)).broken_effect h.consistent hp
      | own f _ hpass => exact absurd hp hpass.not_broken
      | aside f _ haside => exact haside.broken hp

/-! ## §2. Settled services. -/

/-- **Every start that has ended has settled its service**: if it succeeded, the service runs or has
exited; if it failed, the service has exited and tells nothing, who waits for it is answered, and a
removal takes it out of its home if it is there. -/
def Settled (id : String) (sc : Scene) : Prop :=
  ∀ request result, .start (.finished request result) ∈ sc.callers →
    ∃ s, sc.fleet.service? id = some s ∧
      match result with
      | .ok () => s.lifecycle = .running ∨ s.lifecycle = .exited
      | .error _ =>
          s.lifecycle = .exited ∧ s.info.IsBlank ∧
            WaitCall.waiting.step id sc.fleet = .finished .exited ∧
            (sc.fleet.isMember s.home id = true →
              ∃ f, sc.fleet.remove id = (.ok (), f) ∧ f.isMember s.home id = false)

/-- A service that has exited is taken out of its home at once. -/
theorem remove_of_exited {f : Fleet} (hs : f.service? id = some s) (hl : s.lifecycle = .exited)
    (hm : f.isMember s.home id = true) :
    f.remove id = (.ok (), f.withdraw s.home id) ∧
      (f.withdraw s.home id).isMember s.home id = false := by
  have hactive : f.isActive id = false := by
    unfold Fleet.isActive Service.isActive
    rw [hs, Option.any_some, hl]
    rfl
  constructor
  · rw [Fleet.remove_of_not_isActive hactive]
    unfold Fleet.deregister
    rw [hs]
    exact if_pos hm
  · unfold Fleet.isMember
    rw [List.contains_eq_mem, decide_eq_false_iff_not, Fleet.mem_members_withdraw]
    exact fun hmem => hmem.2 ⟨rfl, rfl⟩

/-- **Where no owner broke off, the service is settled.** -/
theorem Ordered.settled (h : sc.Ordered id s) (hb : s.phase ≠ .broken) : sc.Settled id := by
  intro request result hmem
  obtain ⟨-, -, ho⟩ : s.lifecycle ≠ .idle ∧ request = s.request ∧ s.outcome = some result :=
    h.knows _ hmem
  refine ⟨s, h.here, ?_⟩
  have hended := h.consistent.ended ho
  cases result with
  | ok =>
      rcases hended with hl | ⟨hl, -⟩ | ⟨hp, -⟩
      · exact .inr hl
      · exact .inl hl
      · exact absurd hp hb
  | error cause =>
      have hl : s.lifecycle = .exited := by
        rcases hended with hl | ⟨-, heq⟩ | ⟨hp, -⟩
        · exact hl
        · cases heq
        · exact absurd hp hb
      refine ⟨hl, h.records.reticent (not_hasTold_of_error h.consistent ho), ?_, fun hm =>
        ⟨_, remove_of_exited h.here hl hm⟩⟩
      simp [WaitCall.step, h.here, Service.isSettled, hl]

/-! ## §3. Every start can be brought to an end. -/

/-- A start that found the service idle has done so after a step, too. -/
theorem isAccepted_step (ha : call.isAccepted = true) (f : Fleet) :
    (call.step id f).1.isAccepted = true := by
  cases call with
  | setVar call | var call | info call | stop call | remove call | wait call => cases ha
  | start call =>
      cases call with
      | entering | checking | refused => cases ha
      | publishing | finished => rfl
      | copying | awaiting =>
          unfold Call.step StartCall.step
          dsimp only
          split <;> rfl

/-- **A call** stays where it stands, or takes a step of its own. -/
theorem Ordered.getElem?_move (h : sc.Ordered id s) (hcall : sc.callers[i]? = some call)
    (mv : Move) : (sc.move id mv).callers[i]? = some call ∨
      (sc.move id mv).callers[i]? = some (call.step id sc.fleet).1 := by
  obtain ⟨s', -, hstep⟩ := step_move h.here mv
  generalize sc.move id mv = sc' at hstep
  have hi : i < sc.callers.length := (List.getElem?_eq_some_iff.1 hcall).1
  cases hstep with
  | still | own | aside => exact .inl hcall
  | come demand => exact .inl ((List.getElem?_append_left hi).trans hcall)
  | go caller other hother =>
      dsimp only
      by_cases hc : caller = i
      · subst hc
        obtain rfl : call = other := Option.some.inj (hcall.symm.trans hother)
        exact .inr (List.getElem?_set_self hi)
      · exact .inl ((List.getElem?_set_ne hc).trans hcall)

/-- A start that found the service idle goes on as such in every run. -/
theorem Ordered.isAccepted_run (h : sc.Ordered id s) (hcall : sc.callers[i]? = some call)
    (ha : call.isAccepted = true) (moves : List Move) :
    ∃ call', (sc.run id moves).callers[i]? = some call' ∧ call'.isAccepted = true := by
  induction moves generalizing sc s call with
  | nil => exact ⟨call, hcall, ha⟩
  | cons mv rest ih =>
      obtain ⟨s', hs', hstep⟩ := step_move h.here mv
      have ho := h.step hstep hs'
      rcases h.getElem?_move hcall mv with hcall' | hcall'
      · exact ih ho hcall' ha
      · exact ih ho hcall' (isAccepted_step ha sc.fleet)

/-- What a scene may become on a host. -/
def Becomes (id : String) (host : Host) (sc sc' : Scene) : Prop :=
  ∃ moves, (∀ mv ∈ moves, mv.IsOn host) ∧ sc' = sc.run id moves

theorem Becomes.refl (sc : Scene) : Becomes id host sc sc := ⟨[], nofun, rfl⟩

theorem Becomes.single (mv : Move) (h : mv.IsOn host) : Becomes id host sc (sc.move id mv) :=
  ⟨[mv], fun _ hmem => List.mem_singleton.1 hmem ▸ h, rfl⟩

theorem Becomes.trans (h : Becomes id host sc sc') (h' : Becomes id host sc' sc'') :
    Becomes id host sc sc'' := by
  obtain ⟨moves, hall, rfl⟩ := h
  obtain ⟨moves', hall', rfl⟩ := h'
  refine ⟨moves ++ moves', fun mv hmem => ?_, List.foldl_append.symm⟩
  exact (List.mem_append.1 hmem).elim (hall mv) (hall' mv)

/-- What goes on by itself is one way. -/
theorem Leads.becomes (h : Leads id host sc sc') : Becomes id host sc sc' := by
  obtain ⟨moves, hall, heq⟩ := h
  refine ⟨moves, fun mv hmem => ?_, heq⟩
  cases hall mv hmem with
  | go => trivial
  | owner | heed | elapse => rfl

/-- Somebody comes and asks a service to stop that is active. -/
theorem Ordered.exists_asked (h : sc.Ordered id s) (hactive : s.isActive = true) (host : Host) :
    ∃ sc', Becomes id host sc sc' ∧ sc'.Ordered id s.requestStop := by
  let sc₁ := sc.move id (.come .stop)
  have h₁ : sc₁.Ordered id s := h.step (.come .stop) h.here
  have hcall₁ : sc₁.callers[sc.callers.length]? = some (.stop .checking) :=
    List.getElem?_concat_length
  -- it finds the service active
  let sc₂ := sc₁.go id sc.callers.length
  obtain ⟨hfleet, -⟩ := h₁.heeds.check _ _ hcall₁ rfl
  have hcall₂ : sc₂.callers[sc.callers.length]? = some (.stop .asking) := by
    have ha : sc₁.fleet.isActive id = true := by
      unfold Fleet.isActive
      rw [h₁.here]
      exact hactive
    rw [getElem?_go hcall₁ rfl]
    simp [Call.step, StopCall.step, ha]
  obtain ⟨s₂, hs₂, hstep₂⟩ := step_go h₁.here sc.callers.length
  have h₂ := h₁.step hstep₂ hs₂
  obtain rfl : s = s₂ := by
    rw [hfleet] at hs₂
    exact Option.some.inj (h₁.here.symm.trans hs₂)
  -- and asks
  have hs₃ := h₂.heeds.ask _ _ hcall₂ rfl
  obtain ⟨s₃, hs₃', hstep₃⟩ := step_go h₂.here sc.callers.length
  obtain rfl : s.requestStop = s₃ := Option.some.inj (hs₃.symm.trans hs₃')
  refine ⟨sc₂.go id sc.callers.length, ?_, h₂.step hstep₃ hs₃'⟩
  exact ⟨[.come .stop, .go sc.callers.length, .go sc.callers.length], by simp [Move.IsOn], rfl⟩

/-- A start of its service that has ended is told so. -/
theorem Ordered.exists_told (h : sc.Ordered id s) (hcall : sc.callers[i]? = some call)
    (ha : call.isAccepted = true) {result : Except Abort Unit} (ho : s.outcome = some result)
    (host : Host) : ∃ sc', Becomes id host sc sc' ∧
      ∃ request, sc'.callers[i]? = some (.start (.finished request result)) := by
  have hk := h.knows call (List.mem_of_getElem? hcall)
  cases call with
  | setVar call | var call | info call | stop call | remove call | wait call => cases ha
  | start call =>
      cases call with
      | entering | checking | refused => cases ha
      | publishing => cases ho.symm.trans (h.consistent.outcome_of_idle hk)
      | copying =>
          have hnone : s.outcome = none := (h.consistent.of_phase hk).2
          cases ho.symm.trans hnone
      | awaiting request =>
          refine ⟨sc.go id i, .single (.go i) trivial, request, ?_⟩
          rw [getElem?_go hcall rfl]
          simp [Call.step, StartCall.step, Fleet.outcome?, h.here, ho]
      | finished request result' =>
          obtain rfl : result' = result := Option.some.inj (hk.2.2.symm.trans ho)
          exact ⟨sc, .refl sc, request, hcall⟩

/-- A start that found the service idle makes it one that was started. -/
theorem Ordered.exists_started (h : sc.Ordered id s) (hb : s.phase ≠ .broken)
    (hcall : sc.callers[i]? = some call) (ha : call.isAccepted = true) (host : Host) :
    ∃ sc' s', Becomes id host sc sc' ∧ sc'.Ordered id s' ∧ s'.phase ≠ .broken ∧
      s'.lifecycle ≠ .idle := by
  by_cases hi : s.lifecycle = .idle
  · have hk := h.knows call (List.mem_of_getElem? hcall)
    cases call with
    | setVar call | var call | info call | stop call | remove call | wait call => cases ha
    | start call =>
        cases call with
        | entering | checking | refused => cases ha
        | copying => cases (h.consistent.phase_of_idle hi).symm.trans hk
        | awaiting request => exact absurd hi hk.1
        | finished request result => exact absurd hi hk.1
        | publishing =>
            obtain ⟨s', hs', hstep⟩ := step_go h.here i
            have hs : (sc.go id i).fleet.service? id =
                some { s with lifecycle := .starting, phase := .launching } := by
              rw [go_eq hcall rfl]
              exact (service?_startCall id .publishing sc.fleet).trans (by rw [h.here]; rfl)
            obtain rfl : s' = { s with lifecycle := .starting, phase := .launching } :=
              Option.some.inj (hs'.symm.trans hs)
            exact ⟨_, _, .single (.go i) trivial, h.step hstep hs', nofun, nofun⟩
  · exact ⟨sc, s, .refl sc, h, hb, hi⟩

/-- **A service that was started may exit** if somebody asks it to stop. -/
theorem Ordered.exists_over (h : sc.Ordered id s) (hb : s.phase ≠ .broken)
    (hi : s.lifecycle ≠ .idle) (hhost : host.entries?.isSome = true) :
    ∃ sc' s', Becomes id host sc sc' ∧ sc'.Ordered id s' ∧ s'.lifecycle = .exited := by
  by_cases hl : s.lifecycle = .exited
  · exact ⟨sc, s, .refl sc, h, hl⟩
  · have hactive : s.isActive = true := Service.isActive_iff.2 ⟨hi, hl⟩
    obtain ⟨sc₁, hbecomes, h₁⟩ := h.exists_asked hactive host
    obtain ⟨sc₂, s₂, hleads, h₂, hexited⟩ := h₁.exists_exited hactive rfl hb hhost
    exact ⟨sc₂, s₂, hbecomes.trans hleads.becomes, h₂, hexited⟩

/-- **Every start that found the service idle can be brought to an end.** -/
def Endable (id : String) (host : Host) (sc : Scene) : Prop :=
  ∀ (i : Nat) (call : Call), sc.callers[i]? = some call → call.isAccepted = true →
    ∃ sc', Becomes id host sc sc' ∧
      ∃ request result, sc'.callers[i]? = some (.start (.finished request result))

/-- It can on a host whose variables are text. -/
theorem Ordered.endable (h : sc.Ordered id s) (hb : s.phase ≠ .broken)
    (hhost : host.entries?.isSome = true) : sc.Endable id host := by
  intro i call hcall ha
  obtain ⟨sc₁, s₁, hbecomes₁, h₁, hb₁, hi₁⟩ := h.exists_started hb hcall ha host
  obtain ⟨sc₂, s₂, hbecomes₂, h₂, hexited⟩ := h₁.exists_over hb₁ hi₁ hhost
  obtain ⟨moves, -, heq⟩ := hbecomes₁.trans hbecomes₂
  obtain ⟨call₂, hcall₂, ha₂⟩ := h.isAccepted_run hcall ha moves
  rw [← heq] at hcall₂
  obtain ⟨result, ho⟩ := h₂.consistent.outcome_of_exited hexited
  obtain ⟨sc₃, hbecomes₃, request, htold⟩ := h₂.exists_told hcall₂ ha₂ ho host
  exact ⟨sc₃, (hbecomes₁.trans hbecomes₂).trans hbecomes₃, request, result, htold⟩

/-! ## §4. A service that is starting for ever. -/

/-- **A service is starting for ever**: whatever happens later, it is, whoever waits for it goes on
waiting, and a removal takes it out of no registry. -/
structure Hung (id : String) (sc : Scene) : Prop where
  starting : ∀ later, ((sc.run id later).fleet.service? id).map (·.lifecycle) = some .starting
  waiting : ∀ (later : List Move) (i : Nat), sc.callers[i]? = some (.wait .waiting) →
    (sc.run id later).callers[i]? = some (.wait .waiting)
  member : ∀ later r x, ((sc.run id later).fleet.remove id).2.isMember r x =
    (sc.run id later).fleet.isMember r x

/-- Waiting goes on for a service whose owner broke off. -/
theorem Ordered.waiting_run (h : sc.Ordered id s) (hp : s.phase = .broken)
    (hcall : sc.callers[i]? = some (.wait .waiting)) (moves : List Move) :
    (sc.run id moves).callers[i]? = some (.wait .waiting) := by
  induction moves generalizing sc s with
  | nil => exact hcall
  | cons mv rest ih =>
      obtain ⟨s', ho, hp'⟩ := h.broken_run hp [mv]
      refine ih ho hp' ?_
      rcases h.getElem?_move hcall mv with hcall' | hcall'
      · exact hcall'
      · -- there is nothing yet that it waits for
        have hl : s.lifecycle = .starting := (h.consistent.of_phase hp).1
        refine hcall'.trans ?_
        simp [Call.step, WaitCall.step, h.here, Service.isSettled, hl]

/-- A removal of a service that is active takes it out of no registry yet. -/
theorem isMember_remove {f : Fleet} (hs : f.service? id = some s) (ha : s.isActive = true)
    (r x : String) : (f.remove id).2.isMember r x = f.isMember r x := by
  have hactive : f.isActive id = true := Fleet.isActive_eq_true.2 ⟨s, hs, ha⟩
  have hmarked : (f.modify id Service.requestRemoval).isActive id = true := by
    exact Fleet.isActive_eq_true.2 ⟨s.requestRemoval, Fleet.service?_modify_self hs _, ha⟩
  have hasked : ((f.modify id Service.requestRemoval).modify id Service.requestStop).isActive id =
      true := by
    exact Fleet.isActive_eq_true.2 ⟨s.requestRemoval.requestStop,
      Fleet.service?_modify_self (Fleet.service?_modify_self hs _) _, ha⟩
  have hremove : f.remove id =
      (.ok (), (f.modify id Service.requestRemoval).modify id Service.requestStop) := by
    simp [Fleet.remove, RemoveCall.steps, RemoveCall.mostSteps, RemoveCall.step, StopCall.step,
      hactive, hmarked, hasked, RemoveCall.result?]
  rw [hremove]
  exact (Fleet.isMember_modify ..).trans (Fleet.isMember_modify ..)

/-- **Where the owner broke off**, the service is starting for ever. -/
theorem Ordered.hung (h : sc.Ordered id s) (hp : s.phase = .broken) : sc.Hung id := by
  have hlater : ∀ later, ∃ s', (sc.run id later).fleet.service? id = some s' ∧
      s'.lifecycle = .starting := by
    intro later
    obtain ⟨s', h', hp'⟩ := h.broken_run hp later
    exact ⟨s', h'.here, (h'.consistent.of_phase hp').1⟩
  refine ⟨fun later => ?_, fun later i hcall => h.waiting_run hp hcall later, fun later => ?_⟩
  · obtain ⟨s', hs', hl⟩ := hlater later
    rw [hs', Option.map_some, hl]
  · obtain ⟨s', hs', hl⟩ := hlater later
    exact isMember_remove hs' (Service.isActive_iff.2 (by rw [hl]; exact ⟨nofun, nofun⟩))

/-! ## §5. All starts. -/

/-- Somebody starts a service, its owner goes on, and the caller looks what has come of it. -/
def startedOn (id : String) (host : Host) : List Move :=
  .come .start :: List.replicate 4 (.go 0) ++ [.act host (.owner id), .go 0]

/-- **Where the variables are not all text** the start of a service ends, and the service is starting
all the same. -/
theorem starting_of_startedOn {f : Fleet} {name home : String} {program : Program}
    {options : Options} (hs : f.service? id = some (.create id name program options home))
    (hnone : host.entries? = none) :
    let sc := (opening f).run id (startedOn id host)
    (∃ request, .start (.finished request (.error (.breach .environmentNotText))) ∈ sc.callers) ∧
      ∃ s, sc.fleet.service? id = some s ∧ s.lifecycle = .starting := by
  simp [startedOn, opening, run, move, go, own, Demand.call, Call.isEntering, Call.step,
    StartCall.step, isFree, Call.isInside, Call.written, hs, Service.begin, Service.create,
    Fleet.service?_modify, Fleet.step?, Fleet.ownerStep?, Service.advance?, Service.launch, hnone,
    mayGoOn, Call.isHandingOver, Fleet.outcome?, List.replicate]

/-- **A start settles its service** in every run on a host exactly if the variables of that host are
all text; and then every start that found the service idle can be brought to an end.  Whenever a start
has ended and its service is still starting, wherever that was, the service is so for ever. -/
theorem start_settles_iff {f : Fleet} {name home : String} {program : Program} {options : Options}
    (hs : f.service? id = some (.create id name program options home)) (host : Host) :
    (host.entries?.isSome = true ↔ ∀ moves, (∀ mv ∈ moves, mv.IsOn host) →
      ((opening f).run id moves).Settled id) ∧
    (host.entries?.isSome = true → ∀ moves, (∀ mv ∈ moves, mv.IsOn host) →
      ((opening f).run id moves).Endable id host) ∧
    ∀ moves request result,
      Call.start (.finished request result) ∈ ((opening f).run id moves).callers →
      (((opening f).run id moves).fleet.service? id).map (·.lifecycle) = some .starting →
        ((opening f).run id moves).Hung id := by
  have hopening := ordered_opening hs
  have hunbroken : ∀ moves, (∀ mv ∈ moves, mv.IsOn host) → host.entries?.isSome = true →
      ∃ s, ((opening f).run id moves).Ordered id s ∧ s.phase ≠ .broken := by
    intro moves hmoves hhost
    obtain ⟨s, h⟩ := ordered_run hs moves
    exact ⟨s, h, hopening.unbroken_run nofun hhost hmoves h.here⟩
  refine ⟨⟨fun hhost moves hmoves => ?_, fun hall => ?_⟩, fun hhost moves hmoves => ?_,
    fun moves request result hmem hl => ?_⟩
  · obtain ⟨s, h, hb⟩ := hunbroken moves hmoves hhost
    exact h.settled hb
  · refine Option.isSome_iff_ne_none.2 fun hnone => ?_
    obtain ⟨⟨request, hmem⟩, s, hs', hl⟩ := starting_of_startedOn hs hnone
    obtain ⟨s', hs'', hexited, -⟩ :=
      hall (startedOn id host) (by simp [startedOn, Move.IsOn]) _ _ hmem
    obtain rfl : s = s' := Option.some.inj (hs'.symm.trans hs'')
    cases hl.symm.trans hexited
  · obtain ⟨s, h, hb⟩ := hunbroken moves hmoves hhost
    exact h.endable hb hhost
  · obtain ⟨s, h⟩ := ordered_run hs moves
    have hl : s.lifecycle = .starting := by
      rw [h.here] at hl
      exact Option.some.inj hl
    obtain ⟨-, -, ho⟩ : s.lifecycle ≠ .idle ∧ request = s.request ∧ s.outcome = some result :=
      h.knows _ hmem
    rcases h.consistent.ended ho with hexited | ⟨hran, -⟩ | ⟨hp, -⟩
    · cases hl.symm.trans hexited
    · cases hl.symm.trans hran
    · exact h.hung hp

/-- A host on which no program can be launched. -/
def bareHost : Host := ⟨[], fun _ _ _ => .error .notFound⟩

/-- Somebody starts a service there, and its owner goes on to the end. -/
def unlaunched : List Move :=
  .come .start :: List.replicate 4 (.go 0) ++
    List.replicate 3 (.act bareHost (.owner "svc")) ++ [.go 0]

/-- The start of a program that cannot be launched settles its service. -/
theorem start_settles_iff_unlaunched :
    lone.service? "svc" = some (.create "svc" "x" .self .standard "home") ∧
      bareHost.entries?.isSome = true ∧ ((opening lone).run "svc" unlaunched).Settled "svc" ∧
      Call.start (.finished .empty (.error (.fault (.process (.launch "<self>" .notFound))))) ∈
        ((opening lone).run "svc" unlaunched).callers := by
  have hs : lone.service? "svc" = some (.create "svc" "x" .self .standard "home") := rfl
  have hhost : bareHost.entries?.isSome = true := rfl
  have hsettled := (start_settles_iff hs bareHost).1.1 hhost unlaunched
    (by simp [unlaunched, Move.IsOn])
  exact ⟨hs, hhost, hsettled, List.mem_singleton.2 rfl⟩

/-- A host with a variable that is no text. -/
def raggedHost : Host := { promptHost with environment := [(Text.Utf8.bytesOf "X", [255])] }

/-- There the start of a service ends and leaves it starting. -/
theorem not_start_settles :
    ¬((opening lone).run "svc" (startedOn "svc" raggedHost)).Settled "svc" := by
  intro hsettled
  have hs : lone.service? "svc" = some (.create "svc" "x" .self .standard "home") := rfl
  have hnone : raggedHost.entries? = none := rfl
  obtain ⟨⟨request, hmem⟩, s, hs', hl⟩ := starting_of_startedOn hs hnone
  obtain ⟨s', hs'', hexited, -⟩ := hsettled _ _ hmem
  obtain rfl : s = s' := Option.some.inj (hs'.symm.trans hs'')
  cases hl.symm.trans hexited

end Scene

end Failover.Service
