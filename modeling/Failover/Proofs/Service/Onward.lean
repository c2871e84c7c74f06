/-
  Failover.Proofs.Service.Onward
  ──────────────────────────────
  **Services come on, and never back.**  Whatever is done to a service and
  whatever its owner does, some things that were so once stay so:

      it was started      it was asked to stop      it has exited
      its process is gone      it was taken out of its registry

  The owner takes a service out of its registry after the process is gone
  and before the service counts as exited.  So of services that have not
  come so far, no registry loses one by what happens by itself.

  Main statement: `onward_step` — all of this for every action.
-/
import Failover.Proofs.Service.Ending

namespace Failover.Service

/-! ## §1. Services in order. -/

/-- Whether the owner knows that the process is gone. -/
def Phase.isBereft : Phase → Bool
  | .finishing _ | .deregistering _ | .exiting _ | .finished => true
  | _ => false

/-- Whether the owner is done with the registry. -/
def Phase.isDone : Phase → Bool
  | .exiting _ | .finished => true
  | _ => false

section

variable {s s' s'' : Service} {host : Host} {now : Nat}

/-- **What is so of every service**: its parts agree, there is no process before the launch, and
what its owner takes for gone is gone. -/
structure Sane (s : Service) : Prop where
  consistent : s.Consistent
  childless : s.Childless
  bereft : s.phase.isBereft = true → s.childGone = true

theorem sane_create (id name : String) (program : Program) (options : Options) (home : String) :
    (create id name program options home).Sane :=
  ⟨consistent_create id name program options home, fun _ => rfl, nofun⟩

/-- A process that was killed is gone. -/
theorem childGone_kill (s : Service) (cause : Fault) : (s.kill cause).childGone = true := by
  unfold childGone kill withChild
  cases s.child <;> rfl

/-- Closing its input neither ends it nor brings it back. -/
theorem childGone_closeInput (s : Service) :
    (s.withChild Host.Child.closeInput).childGone = s.childGone := by
  unfold childGone withChild
  cases s.child <;> rfl

/-- A launch that fails leaves no process. -/
theorem bereft_launch (hnone : s.child = none) (host : Host) (now : Nat) :
    (s.launch host now).phase.isBereft = true → (s.launch host now).childGone = true := by
  unfold launch
  split
  · exact nofun
  · dsimp only
    split
    · intro _
      unfold childGone
      rw [hnone]
      rfl
    · exact nofun

/-- Nor does a handshake that fails, unless its process is given time to leave. -/
theorem bereft_proceed (s : Service) (now : Nat) (p : Handshake.Progress) :
    (s.proceed now p).phase.isBereft = true → (s.proceed now p).childGone = true := by
  unfold proceed
  split
  · exact nofun
  · exact nofun
  · next cause =>
    unfold fail
    split
    · exact nofun
    · exact fun _ => s.childGone_kill cause

/-- The owner knows that the process is gone only when it is. -/
theorem bereft_advance (h : s.Sane) (hadv : s.advance? host now = some s') :
    s'.phase.isBereft = true → s'.childGone = true := by
  unfold advance? at hadv
  cases hp : s.phase with
  | none | deregistering cause | finished | broken =>
      rw [hp] at hadv
      cases hadv
  | launching =>
      have hnone : s.child = none := h.childless (.inl (by unfold isLaunched; rw [hp]))
      rw [hp] at hadv
      cases hadv
      exact bereft_launch hnone host now
  | handshaking n b =>
      rw [hp] at hadv
      dsimp only at hadv
      unfold listen? at hadv
      split at hadv
      · cases hadv
      · split at hadv
        · cases hadv
          exact bereft_proceed _ now _
        · split at hadv
          · cases hadv
          · cases hadv
            exact bereft_proceed s now _
  | answering n | announcing =>
      rw [hp] at hadv
      cases hadv
      exact nofun
  | supervising =>
      rw [hp] at hadv
      dsimp only at hadv
      split at hadv
      · next hgone =>
        cases hadv
        exact fun _ => s.childGone_closeInput.trans hgone
      · cases hadv
  | ending cause deadline =>
      rw [hp] at hadv
      dsimp only at hadv
      split at hadv
      · next hgone =>
        cases hadv
        exact fun _ => hgone
      · split at hadv
        · cases hadv
          intro hb
          have hp' : (s.withChild Host.Child.exited).phase = s.phase := rfl
          rw [hp', hp] at hb
          cases hb
        · cases hadv
  | finishing cause | exiting cause =>
      have hgone : s.childGone = true := h.bereft (by rw [hp]; rfl)
      rw [hp] at hadv
      cases hadv
      exact fun _ => hgone

/-- Heeding a request ends the process or gives it time to leave. -/
theorem bereft_heed (h : s.heed? now = some s') :
    s'.phase.isBereft = true → s'.childGone = true := by
  obtain ⟨-, ⟨n, b, -, rfl⟩ | ⟨-, rfl⟩⟩ := heed?_eq_some h
  · exact fun _ => s.childGone_kill _
  · exact nofun

/-- A process that is gone does not come back. -/
theorem bereft_childStep (h : s.Sane) (hstep : s.childStep? now = some s') :
    s'.phase.isBereft = true → s'.childGone = true := by
  unfold childStep? at hstep
  split at hstep
  · next c' hc' =>
    cases hstep
    intro hb
    obtain ⟨c, hc, hnext⟩ := Option.bind_eq_some_iff.1 hc'
    have hgone : s.childGone = true := h.bereft hb
    unfold childGone at hgone
    rw [hc, Option.all_some, Bool.not_eq_true'] at hgone
    rw [Host.Child.step?_dead hgone] at hnext
    cases hnext
  · cases hstep

/-! ## §2. Services on their way. -/

/-- **A service comes on.** -/
structure Onward (s s' : Service) : Prop where
  sane : s'.Sane
  home : s'.home = s.home
  started : s.lifecycle ≠ .idle → s'.lifecycle ≠ .idle
  exited : s.lifecycle = .exited → s'.lifecycle = .exited
  asked : s.stopRequested = true → s'.stopRequested = true
  done : s.phase.isDone = true → s'.phase.isDone = true

theorem Onward.refl (h : s.Sane) : s.Onward s :=
  ⟨h, rfl, fun h => h, fun h => h, fun h => h, fun h => h⟩

theorem Onward.trans (h : s.Onward s') (h' : s'.Onward s'') : s.Onward s'' where
  sane := h'.sane
  home := h'.home.trans h.home
  started hs := h'.started (h.started hs)
  exited hs := h'.exited (h.exited hs)
  asked hs := h'.asked (h.asked hs)
  done hs := h'.done (h.done hs)

/-- A service that was started and is not active has exited. -/
theorem exited_of_not_active (h : s.isActive = false) (hidle : s.lifecycle ≠ .idle) :
    s.lifecycle = .exited := by
  unfold isActive at h
  cases hl : s.lifecycle with
  | idle => exact absurd hl hidle
  | exited => rfl
  | starting | running =>
      rw [hl] at h
      cases h

/-- When a service has exited its owner has finished. -/
theorem Sane.phase_of_exited (h : s.Sane) (he : s.lifecycle = .exited) : s.phase = .finished := by
  have hc := h.consistent
  unfold Consistent Since at hc
  split at hc <;> first
    | assumption
    | (split at hc <;> simp_all)
    | simp_all

/-- **A passage of the owner** brings a service on. -/
theorem Passage.onward (h : s.Passage s') (hs : s.Sane) (hc : s'.Consistent)
    (hb : s'.phase.isBereft = true → s'.childGone = true) : s.Onward s' where
  sane := ⟨hc, h.childless hs.childless, hb⟩
  home := by cases h <;> rfl
  started := (h.keeps hs.consistent).started
  exited he := by
    have hp := hs.phase_of_exited he
    cases h with
    | passing child phase h =>
        rw [hp] at h
        cases h
    | broken b h | stored n h | announced h | exited cause h => cases hp.symm.trans h
  asked := (h.keeps hs.consistent).asked
  done hd := by
    cases h with
    | passing child phase h =>
        generalize s.phase = p at h hd
        cases h <;> cases hd
    | broken b h | stored n h | announced h =>
        rw [h] at hd
        cases hd
    | exited => rfl

/-- The owner goes on. -/
theorem onward_advance (hs : s.Sane) (h : s.advance? host now = some s') : s.Onward s' :=
  (passage_advance h).onward hs (goes_advance hs.consistent h).consistent (bereft_advance hs h)

/-- It heeds a request to stop. -/
theorem onward_heed (hs : s.Sane) (h : s.heed? now = some s') : s.Onward s' :=
  (passage_heed h).onward hs (goes_heed hs.consistent h).consistent (bereft_heed h)

/-- It is done with the registry. -/
theorem onward_deregistered (hs : s.Sane) {cause : Option Fault}
    (hp : s.phase = .deregistering cause) : s.Onward { s with phase := .exiting cause } := by
  have hc : Since s.lifecycle s.outcome cause := hs.consistent.of_phase hp
  have hpass : s.Passage { s with phase := .exiting cause } :=
    .passing s.child _ (hp ▸ .deregistered cause)
  exact hpass.onward hs hc fun _ => hs.bereft (by rw [hp]; rfl)

/-- Only the process goes on. -/
theorem onward_childStep (hs : s.Sane) (h : s.childStep? now = some s') : s.Onward s' := by
  have hc := (goes_childStep hs.consistent h).consistent
  have hb := bereft_childStep hs h
  unfold childStep? at h
  split at h
  · next c' hc' =>
    cases h
    refine ⟨⟨hc, fun hnone => ?_, hb⟩, rfl, fun h => h, fun h => h, fun h => h, fun h => h⟩
    rw [hs.childless hnone] at hc'
    cases hc'
  · cases h

/-- A request brings a service on. -/
theorem onward_requestStop (hs : s.Sane) : s.Onward s.requestStop :=
  ⟨⟨hs.consistent, hs.childless, hs.bereft⟩, rfl, fun h => h, fun h => h, fun _ => rfl, fun h => h⟩

theorem onward_requestRemoval (hs : s.Sane) : s.Onward s.requestRemoval :=
  ⟨⟨hs.consistent, hs.childless, hs.bereft⟩, rfl, fun h => h, fun h => h, fun h => h, fun h => h⟩

/-- So does what is done while it is idle. -/
theorem onward_setVar (hs : s.Sane) {key value : String} (h : s.setVar key value = .ok s') :
    s.Onward s' := by
  obtain ⟨-, rfl⟩ := setVar_eq_ok h
  exact ⟨⟨hs.consistent, hs.childless, hs.bereft⟩, rfl, fun h => h, fun h => h, fun h => h,
    fun h => h⟩

theorem onward_begin (hs : s.Sane) (h : s.begin = .ok s') : s.Onward s' := by
  obtain ⟨hidle, rfl⟩ := begin_eq_ok h
  have hp := hs.consistent.phase_of_idle hidle
  have hnone : s.child = none := hs.childless (.inl (by unfold isLaunched; rw [hp]))
  refine ⟨⟨hs.consistent.begin hidle, fun _ => hnone, nofun⟩, rfl, fun _ => nofun, ?_,
    fun h => h, ?_⟩
  · rw [hidle]
    exact nofun
  · rw [hp]
    exact nofun

end

/-! ## §3. Fleets on their way. -/

namespace Fleet

variable {f f' f'' : Fleet} {host : Host} {id : String}

/-- All services are in order. -/
def Sane (f : Fleet) : Prop := ∀ id s, f.service? id = some s → s.Sane

/-- **A fleet comes on**: its services do, and a registry holds what it held of all but those whose
owners are done. -/
structure Onward (f f' : Fleet) : Prop where
  service : ∀ id s, f.service? id = some s → s.Sane → ∃ s', f'.service? id = some s' ∧ s.Onward s'
  only : ∀ id, f.service? id = none → f'.service? id = none
  member : ∀ r id s', f'.service? id = some s' → s'.phase.isDone = false →
    f'.isMember r id = f.isMember r id

theorem Onward.refl (f : Fleet) : f.Onward f :=
  ⟨fun _ s hs hsane => ⟨s, hs, .refl hsane⟩, fun _ h => h, fun _ _ _ _ _ => rfl⟩

/-- What has become of a service. -/
theorem Onward.onward (h : f.Onward f') {s s' : Service} (hs : f.service? id = some s)
    (hsane : s.Sane) (hs' : f'.service? id = some s') : s.Onward s' := by
  obtain ⟨t, ht, ho⟩ := h.service id s hs hsane
  obtain rfl : t = s' := Option.some.inj (ht.symm.trans hs')
  exact ho

/-- What there is after it there was before. -/
theorem Onward.before (h : f.Onward f') (hf : f.Sane) {s' : Service}
    (hs' : f'.service? id = some s') : ∃ s, f.service? id = some s ∧ s.Sane ∧ s.Onward s' := by
  cases hs : f.service? id with
  | none => cases (h.only id hs).symm.trans hs'
  | some s =>
      exact ⟨s, rfl, hf id s hs, h.onward hs (hf id s hs) hs'⟩

theorem Onward.sane (h : f.Onward f') (hf : f.Sane) : f'.Sane := by
  intro id s' hs'
  obtain ⟨s, -, -, ho⟩ := h.before hf hs'
  exact ho.sane

theorem Onward.trans (h : f.Onward f') (h' : f'.Onward f'') (hf : f.Sane) : f.Onward f'' where
  service id s hs hsane := by
    obtain ⟨s', hs', ho⟩ := h.service id s hs hsane
    obtain ⟨s'', hs'', ho'⟩ := h'.service id s' hs' ho.sane
    exact ⟨s'', hs'', ho.trans ho'⟩
  only id hid := h'.only id (h.only id hid)
  member r id s'' hs'' hdone := by
    obtain ⟨s', hs', -, ho⟩ := h'.before (h.sane hf) hs''
    have hdone' : s'.phase.isDone = false :=
      Bool.eq_false_iff.2 fun hd => Bool.eq_false_iff.1 hdone (ho.done hd)
    exact (h'.member r id s'' hs'' hdone).trans (h.member r id s' hs' hdone')

theorem isMember_modify (f : Fleet) (id : String) (g : Service → Service) (r x : String) :
    (f.modify id g).isMember r x = f.isMember r x := by
  unfold modify
  split <;> rfl

/-- Changing one service brings the fleet on if it brings the service on. -/
theorem onward_modify {g : Service → Service}
    (h : ∀ s, f.service? id = some s → s.Sane → s.Onward (g s)) : f.Onward (f.modify id g) where
  service x s hs hsane := by
    rw [service?_modify]
    by_cases hx : x = id
    · subst hx
      exact ⟨g s, by rw [if_pos rfl, hs]; rfl, h s hs hsane⟩
    · exact ⟨s, by rw [if_neg hx]; exact hs, .refl hsane⟩
  only x hx := by
    rw [service?_modify]
    split
    · next heq =>
      subst heq
      rw [hx]
      rfl
    · exact hx
  member r x _ _ _ := isMember_modify f id g r x

/-- So does putting another one in its place. -/
theorem onward_replace {s s' : Service} (hs : f.service? id = some s)
    (h : s.Sane → s.Onward s') : f.Onward (f.modify id fun _ => s') := by
  refine onward_modify fun x hx hsane => ?_
  obtain rfl : s = x := Option.some.inj (hs.symm.trans hx)
  exact h hsane

theorem onward_setVar (f : Fleet) (id key value : String) :
    f.Onward (f.setVar id key value).2 := by
  unfold setVar
  split
  · exact .refl f
  · next s hs =>
    split
    · next s' hs' => exact onward_replace hs fun hsane => Service.onward_setVar hsane hs'
    · exact .refl f

theorem onward_begin (f : Fleet) (id : String) : f.Onward (f.begin id).2 := by
  unfold begin
  split
  · exact .refl f
  · next s hs =>
    split
    · next s' hs' => exact onward_replace hs fun hsane => Service.onward_begin hsane hs'
    · exact .refl f

theorem onward_stop (f : Fleet) (id : String) : f.Onward (f.stop id) := by
  rw [stop_eq]
  split
  · exact onward_modify fun _ _ hsane => Service.onward_requestStop hsane
  · exact .refl f

/-- Stopping a service after the other brings the fleet on. -/
theorem onward_stopEach (hf : f.Sane) (ids : List String) : f.Onward (ids.foldl stop f) := by
  induction ids generalizing f with
  | nil => exact .refl f
  | cons id rest ih =>
      have hstop := onward_stop f id
      exact hstop.trans (ih (hstop.sane hf)) hf

/-- Taking a service out of its home takes nothing else out. -/
theorem isMember_deregister_of_ne {x : String} (hx : x ≠ id) (f : Fleet) (r : String) :
    (f.deregister id).2.isMember r x = f.isMember r x := by
  unfold deregister
  split
  · rfl
  · split
    · rw [Bool.eq_iff_iff]
      unfold isMember
      rw [List.contains_iff_mem, List.contains_iff_mem]
      dsimp only
      rw [mem_members_withdraw]
      exact and_iff_left fun h => hx h.2
    · rfl

/-- A service whose owner is done may be taken out. -/
theorem onward_deregister
    (h : ∀ s, f.service? id = some s → s.phase.isDone = true) : f.Onward (f.deregister id).2 where
  service x s hs hsane := ⟨s, (service?_deregister f id).trans hs, .refl hsane⟩
  only x hx := (service?_deregister f id).trans hx
  member r x s' hs' hdone := by
    refine isMember_deregister_of_ne (fun hx => ?_) f r
    subst hx
    rw [service?_deregister] at hs'
    rw [h s' hs'] at hdone
    cases hdone

/-- The owner of a service takes it out of its home and is done. -/
theorem onward_settle {s : Service} (hs : f.service? id = some s) {cause : Option Fault}
    (hp : s.phase = .deregistering cause) :
    f.Onward ((f.deregister id).2.modify id fun s => { s with phase := .exiting cause }) where
  service x t ht hsane := by
    rw [service?_modify, service?_deregister, service?_deregister]
    by_cases hx : x = id
    · subst hx
      obtain rfl : s = t := Option.some.inj (hs.symm.trans ht)
      exact ⟨_, by rw [if_pos rfl, hs]; rfl, Service.onward_deregistered hsane hp⟩
    · exact ⟨t, by rw [if_neg hx]; exact ht, .refl hsane⟩
  only x hx := by
    rw [service?_modify, service?_deregister, service?_deregister]
    split
    · next heq =>
      subst heq
      rw [hx]
      rfl
    · exact hx
  member r x s' hs' hdone := by
    rw [isMember_modify]
    refine isMember_deregister_of_ne (fun hx => ?_) f r
    subst hx
    rw [service?_modify_self ((service?_deregister f x).trans hs)] at hs'
    cases hs'
    cases hdone

/-- **Whatever happens by itself** brings a fleet on. -/
theorem onward_step {action : Action} (h : f.step? host action = some f') : f.Onward f' := by
  cases action with
  | child id =>
      obtain ⟨s, hs, h⟩ := Option.bind_eq_some_iff.1 h
      obtain ⟨s', hs', h⟩ := Option.bind_eq_some_iff.1 h
      cases h
      exact onward_replace hs fun hsane => Service.onward_childStep hsane hs'
  | owner id =>
      unfold step? ownerStep? at h
      dsimp only at h
      split at h
      · cases h
      · next s hs =>
        split at h
        · next cause hp =>
          cases h
          exact onward_settle hs hp
        · obtain ⟨s', hs', h⟩ := Option.map_eq_some_iff.1 h
          cases h
          exact onward_replace hs fun hsane => Service.onward_advance hsane hs'
  | heed id =>
      obtain ⟨s, hs, h⟩ := Option.bind_eq_some_iff.1 h
      obtain ⟨s', hs', h⟩ := Option.bind_eq_some_iff.1 h
      cases h
      exact onward_replace hs fun hsane => Service.onward_heed hsane hs'
  | elapse ms =>
      cases h
      exact ⟨fun _ s hs hsane => ⟨s, hs, .refl hsane⟩, fun _ h => h, fun _ _ _ _ _ => rfl⟩

/-! ## §4. New services, and new members. -/

theorem service?_register (f : Fleet) (registry id x : String) :
    (f.register registry id).service? x = f.service? x := by
  unfold register
  split <;> rfl

theorem isMember_register (f : Fleet) (registry id r x : String) :
    (f.register registry id).isMember r x = true ↔
      f.isMember r x = true ∨ r = registry ∧ x = id := by
  unfold isMember
  rw [List.contains_iff_mem, List.contains_iff_mem, mem_members_register]

theorem service?_create (f : Fleet) (registry id name : String) (program : Program)
    (options : Options) (x : String) :
    (f.create registry id name program options).service? x =
      if x = id then some (.create id name program options registry) else f.service? x :=
  (service?_register ..).trans (Named.get?_insert ..)

theorem isMember_create (f : Fleet) (registry id name : String) (program : Program)
    (options : Options) (r x : String) :
    (f.create registry id name program options).isMember r x = true ↔
      f.isMember r x = true ∨ r = registry ∧ x = id := isMember_register ..

end Fleet

end Failover.Service
