/-
  Failover.Proofs.Service.Genuine
  ───────────────────────────────
  **What a service tells was told by its process.** The answer of a service
  is that of a negotiation which the messages of its process have led to:

      process ──lines──> handshaking n ──> answering n ──> response

  So it has no endpoint without a protocol.  More generally, whatever
  changes a fleet lets each of its services take one of few turns, and what
  every turn keeps stays:

      Fleet.Change f f'   ──>   s.Turn s'  for every service s of f;
                                what is new is idle

  Main statements: `genuine_advance` — the owner of the process keeps the
  answer genuine — and `Fleet.Change.back` — a service comes from one that
  was there before by a turn, unless it is new.
-/
import Failover.Proofs.Handshake.Transcript
import Failover.Proofs.Service.Passage

namespace Failover.Handshake

/-! ## §1. Negotiations. -/

/-- A negotiation that messages have led to. -/
def Negotiation.IsGenuine (n : Negotiation) : Prop := ∃ ms, n.Reflects ms

/-- What is known at any time of a handshake is genuine. -/
def Progress.IsGenuine : Progress → Prop
  | .reading n _ | .done n _ => n.IsGenuine
  | .failed _ => True

variable {n : Negotiation} {b : Bytes.LineBuffer}

theorem Negotiation.isGenuine_empty : Negotiation.empty.IsGenuine := ⟨[], reflects_empty⟩

theorem Negotiation.IsGenuine.feed (h : n.IsGenuine) (line : String) :
    (n.feed line).2.IsGenuine := by
  obtain ⟨ms, hms⟩ := h
  exact ⟨_, hms.feed line⟩

/-- Whole lines are used one after the other. -/
theorem Progress.isGenuine_drain (h : n.IsGenuine) : (Progress.drain n b).IsGenuine := by
  fun_induction Progress.drain n b with
  | case1 => exact h
  | case2 | case3 | case4 => exact trivial
  | case5 n b bytes rest hb text ht n' hf =>
      have hfeed := h.feed text
      rw [hf] at hfeed
      exact hfeed
  | case6 n b bytes rest hb text ht n' hf ih =>
      have hfeed := h.feed text
      rw [hf] at hfeed
      exact ih hfeed

/-- The stream may end with a line. -/
theorem Progress.isGenuine_close (h : n.IsGenuine) :
    (Progress.close (.reading n b) .closed).IsGenuine := by
  unfold Progress.close
  dsimp only
  split
  · exact trivial
  · exact trivial
  · next text _ =>
    have hfeed := h.feed text
    split
    · exact trivial
    · next hf =>
      rw [hf] at hfeed
      exact hfeed
    · exact trivial

end Failover.Handshake

namespace Failover.Service

open Handshake (Negotiation Progress)

/-! ## §2. Services. -/

/-- **What a service knows of its process is genuine**, and so is what it tells. -/
structure Genuine (s : Service) : Prop where
  reading : ∀ n b, s.phase = .handshaking n b → n.IsGenuine
  answering : ∀ n, s.phase = .answering n → n.IsGenuine
  told : s.HasTold → ∃ n : Negotiation, n.IsGenuine ∧ s.response = n.response

section

variable {s s' : Service}

/-- A service that was not started knows nothing. -/
theorem genuine_of_idle (hi : s.lifecycle = .idle) (hc : s.Consistent) : s.Genuine := by
  have hp := hc.phase_of_idle hi
  refine ⟨fun n b h => ?_, fun n h => ?_, fun h => absurd hi (h.not_idle hc)⟩
  · cases hp.symm.trans h
  · cases hp.symm.trans h

/-- Only the phase, the outcome and the answer count. -/
theorem Genuine.of_eq (h : s.Genuine) (hp : s'.phase = s.phase) (ho : s'.outcome = s.outcome)
    (hr : s'.response = s.response) : s'.Genuine where
  reading := by rw [hp]; exact h.reading
  answering := by rw [hp]; exact h.answering
  told := by
    intro ht
    rw [HasTold, hp, ho] at ht
    rw [hr]
    exact h.told ht

/-- **What a service tells stays genuine** from one phase to the next. -/
theorem Passage.told_genuine (h : s.Passage s') (hg : s.Genuine) (ht : s'.HasTold) :
    ∃ n : Negotiation, n.IsGenuine ∧ s'.response = n.response := by
  cases h with
  | passing child phase hp =>
      refine hg.told (ht.imp (fun hphase => ?_) fun ho => ho)
      exact absurd hphase hp.silent.2.1
  | broken b hp => rcases ht with hphase | ho <;> simp_all
  | stored n hp => exact ⟨n, hg.answering n hp, rfl⟩
  | announced hp => exact hg.told (.inl hp)
  | exited cause hp =>
      rcases ht with hphase | ho
      · cases hphase
      · cases cause with
        | none => exact hg.told (.inr ho)
        | some cause => cases ho

/-- What the process has written is read. -/
theorem genuine_proceed (child : Option Host.Child) (now : Nat) {p : Progress}
    (h : p.IsGenuine) (ho : s.outcome = none) : ({ s with child }.proceed now p).Genuine := by
  have hpending : ∀ {s' : Service}, s'.outcome = none → s'.phase ≠ .announcing → ¬s'.HasTold :=
    fun ho' hp => not_hasTold hp ho'
  unfold proceed
  split
  · refine ⟨fun n b heq => ?_, fun n heq => ?_, fun ht => absurd ht (hpending ho nofun)⟩
    · cases heq
      exact h
    · cases heq
  · refine ⟨fun n b heq => ?_, fun n heq => ?_, fun ht => absurd ht (hpending ho nofun)⟩
    · cases heq
    · cases heq
      exact h
  · unfold fail
    split <;> exact ⟨nofun, nofun, fun ht => absurd ht (hpending ho nofun)⟩

/-- **The owner keeps what a service tells genuine.** -/
theorem genuine_advance {host : Host} {now : Nat} (hc : s.Consistent) (hg : s.Genuine)
    (h : s.advance? host now = some s') : s'.Genuine := by
  have hpass := passage_advance h
  -- only a launch and what is read lead to a handshake
  have hother : (∀ n b, s.phase ≠ .handshaking n b) → s'.Genuine := by
    intro hn
    refine ⟨fun n b hp => ?_, fun n hp => ?_, hpass.told_genuine hg⟩
    · cases hpass with
      | passing child phase hpasses =>
          have hp : phase = .handshaking n b := hp
          rw [hp] at hpasses
          generalize s.phase = q at hpasses hn
          cases hpasses with
          | launched => exact Negotiation.isGenuine_empty
          | reading n₀ n' b₀ b' => exact absurd rfl (hn n₀ b₀)
      | _ => cases hp
    · cases hpass with
      | passing child phase hpasses =>
          have hp : phase = .answering n := hp
          rw [hp] at hpasses
          generalize s.phase = q at hpasses hn
          cases hpasses with
          | answered n₀ n' b₀ hdone => exact absurd rfl (hn n₀ b₀)
      | _ => cases hp
  by_cases hn : ∃ n b, s.phase = .handshaking n b
  · obtain ⟨n, b, hp⟩ := hn
    have ho : s.outcome = none := (hc.of_phase hp).2
    have hgen := hg.reading n b hp
    unfold advance? at h
    rw [hp] at h
    dsimp only at h
    unfold listen? at h
    split at h
    · cases h
    · split at h
      · cases h
        exact genuine_proceed _ _ (Progress.isGenuine_drain hgen) ho
      · split at h
        · cases h
        · cases h
          exact genuine_proceed s.child _ (Progress.isGenuine_close hgen) ho
  · exact hother fun n b hp => hn ⟨n, b, hp⟩

/-- What goes on aside keeps it genuine, too. -/
theorem Aside.genuine {now : Nat} (h : s.Aside now s') (hg : s.Genuine) : s'.Genuine := by
  cases h with
  | process child _ => exact hg.of_eq rfl rfl rfl
  | heeded h =>
      have hpass := passage_heed h
      refine ⟨fun n b hp => ?_, fun n hp => ?_, hpass.told_genuine hg⟩ <;>
      · obtain ⟨-, ⟨n', b', -, rfl⟩ | ⟨-, rfl⟩⟩ := heed?_eq_some h <;> cases hp

/-- **A service that tells an endpoint tells a protocol**, too. -/
theorem Genuine.protocol_isSome (h : s.Genuine) (ho : s.outcome = some (.ok ()))
    (hb : (s.response.get? "bindaddr").isSome = true) :
    (s.response.get? "protocol").isSome = true := by
  obtain ⟨n, ⟨ms, hms⟩, hr⟩ := h.told (.inr ho)
  rw [hr, hms.bindAddr, Option.isSome_map] at hb
  rw [hr, hms.protocol, Option.isSome_map]
  exact hb

end

/-! ## §3. Turns. -/

/-- **What a move can make of a service.** -/
inductive Turn (s : Service) : Service → Prop where
  | owned (host : Host) (now : Nat) (s' : Service) (h : s.advance? host now = some s') : Turn s s'
  | deregistered (cause : Option Fault) (h : s.phase = .deregistering cause) :
      Turn s { s with phase := .exiting cause }
  | aside (now : Nat) (s' : Service) (h : s.Aside now s') : Turn s s'
  | stopAsked : Turn s s.requestStop
  | removalAsked : Turn s s.requestRemoval
  | begun (h : s.lifecycle = .idle) :
      Turn s { s with lifecycle := .starting, phase := .launching }

section

variable {s s' : Service}

theorem Turn.refl (s : Service) : s.Turn s := .aside 0 s (.process s.child fun h => h)

/-- A service goes on by every turn but its start. -/
theorem Turn.goes (h : s.Turn s') (hc : s.Consistent) :
    s.Goes s' ∨ s.lifecycle = .idle ∧
      s' = { s with lifecycle := .starting, phase := .launching } := by
  cases h with
  | owned host now s' h => exact .inl (goes_advance hc h)
  | deregistered cause hp =>
      have hsince : Since s.lifecycle s.outcome cause := hc.of_phase hp
      exact .inl (.of_eq hsince rfl rfl rfl fun h => h)
  | aside now s' h =>
      left
      cases h with
      | process child _ => exact .of_eq hc rfl rfl rfl fun h => h
      | heeded h => exact goes_heed hc h
  | stopAsked => exact .inl (goes_requestStop hc)
  | removalAsked => exact .inl (goes_requestRemoval hc)
  | begun hi => exact .inr ⟨hi, rfl⟩

/-- What a successful start told stays. -/
theorem Turn.ok (h : s.Turn s') (hc : s.Consistent) (ho : s.outcome = some (.ok ())) :
    s'.outcome = some (.ok ()) ∧ s'.response = s.response := by
  rcases h.goes hc with hg | ⟨-, rfl⟩
  · exact hg.ok ho
  · exact ⟨ho, rfl⟩

/-- An owner that broke off does not go on. -/
theorem Turn.broken (h : s.Turn s') (hc : s.Consistent) (hp : s.phase = .broken) :
    s'.phase = .broken := by
  cases h with
  | owned host now s' h =>
      unfold advance? at h
      rw [hp] at h
      cases h
  | deregistered cause h => cases hp.symm.trans h
  | aside now s' h =>
      cases h with
      | process child _ => exact hp
      | heeded h =>
          obtain ⟨-, ⟨n, b, h, -⟩ | ⟨h, -⟩⟩ := heed?_eq_some h <;> cases hp.symm.trans h
  | stopAsked | removalAsked => exact hp
  | begun hi => cases hp.symm.trans (hc.phase_of_idle hi)

/-- **What a service tells stays genuine.** -/
theorem Turn.genuine (h : s.Turn s') (hc : s.Consistent) (hg : s.Genuine) : s'.Genuine := by
  cases h with
  | owned host now s' h => exact genuine_advance hc hg h
  | deregistered cause hp =>
      refine ⟨nofun, nofun, fun ht => hg.told ?_⟩
      exact ht.imp (fun hp' => by cases hp') fun ho => ho
  | aside now s' h => exact h.genuine hg
  | stopAsked | removalAsked => exact hg.of_eq rfl rfl rfl
  | begun hi =>
      refine ⟨nofun, nofun, fun ht => ?_⟩
      -- the start of an idle service has come to nothing yet
      rcases ht with hp | ho
      · cases hp
      · cases ho.symm.trans (hc.outcome_of_idle hi)

end

/-! ## §4. Changes of a fleet. -/

namespace Fleet

/-- **What a move can do to the services** of a fleet. -/
inductive Change (f f' : Fleet) : Prop where
  | still (h : f'.services = f.services)
  | step (host : Host) (action : Action) (h : f.step? host action = some f')
  | call (id : String) (call : RemoveCall) (h : f' = (call.step id f).2)
  | added (id : String) (hid : f.service? id = none) (h : f.Adds id f')
  | begun (id : String) (s : Service) (hs : f.service? id = some s) (hi : s.lifecycle = .idle)
      (h : f' = f.modify id fun _ => { s with lifecycle := .starting, phase := .launching })

variable {f f' fleet : Fleet} {id : String} {s s' : Service} {host : Host} {action : Action}

/-- The owner of the process takes a turn. -/
theorem turn_owner (h : f.step? host (.owner id) = some f') (hs : f.service? id = some s) :
    ∃ s', f'.service? id = some s' ∧ s.Turn s' := by
  unfold step? ownerStep? at h
  dsimp only at h
  rw [hs] at h
  dsimp only at h
  split at h
  · next cause hp =>
    cases h
    exact ⟨_, service?_modify_self ((service?_deregister f id).trans hs) _, .deregistered cause hp⟩
  · obtain ⟨s', hs', rfl⟩ := Option.map_eq_some_iff.1 h
    exact ⟨s', service?_modify_self hs _, .owned host f.clock s' hs'⟩

/-- Whatever happens by itself. -/
theorem turn_step (h : f.step? host action = some f') (hs : f.service? id = some s) :
    ∃ s', f'.service? id = some s' ∧ s.Turn s' := by
  by_cases ha : action = .owner id
  · subst ha
    exact turn_owner h hs
  · obtain ⟨s', hs', haside⟩ := aside_step h ha hs
    exact ⟨s', hs', .aside f.clock s' haside⟩

/-- A turn that changing a service makes of it. -/
theorem turn_modify {x : String} {g : Service → Service} (hs : f.service? id = some s)
    (hg : x = id → s.Turn (g s)) : ∃ s', (f.modify x g).service? id = some s' ∧ s.Turn s' := by
  by_cases hx : x = id
  · subst hx
    exact ⟨g s, service?_modify_self hs g, hg rfl⟩
  · exact ⟨s, (service?_modify_of_ne hx g).trans hs, .refl s⟩

/-- A step of somebody's call to stop a service. -/
theorem turn_stopCall (x : String) (call : StopCall) (hs : f.service? id = some s) :
    ∃ s', (call.step x f).2.service? id = some s' ∧ s.Turn s' := by
  cases call with
  | checking =>
      unfold StopCall.step
      dsimp only
      split <;> exact ⟨s, hs, .refl s⟩
  | asking => exact turn_modify hs fun _ => .stopAsked
  | finished asked => exact ⟨s, hs, .refl s⟩

/-- A step of somebody's call to remove a service. -/
theorem turn_call (x : String) (call : RemoveCall) (hs : f.service? id = some s) :
    ∃ s', (call.step x f).2.service? id = some s' ∧ s.Turn s' := by
  cases call with
  | checking | rechecking =>
      unfold RemoveCall.step
      dsimp only
      split <;> exact ⟨s, hs, .refl s⟩
  | marking => exact turn_modify hs fun _ => .removalAsked
  | stopping call =>
      have h := turn_stopCall x call hs
      unfold RemoveCall.step
      dsimp only
      split <;> next heq =>
        rw [heq] at h
        exact h
  | deregistering => exact ⟨s, (service?_deregister f x).trans hs, .refl s⟩
  | finished result => exact ⟨s, hs, .refl s⟩

/-- **Every service takes a turn** in a change. -/
theorem Change.turn (h : f.Change f') (hs : f.service? id = some s) :
    ∃ s', f'.service? id = some s' ∧ s.Turn s' := by
  cases h with
  | still h => exact ⟨s, by rw [service?, h]; exact hs, .refl s⟩
  | step host action h => exact turn_step h hs
  | call x call h => exact h ▸ turn_call x call hs
  | added x hx h =>
      refine ⟨s, (h.others id fun heq => ?_).trans hs, .refl s⟩
      rw [heq, hx] at hs
      cases hs
  | begun x s₀ hs₀ hi h =>
      rw [h]
      refine turn_modify hs fun hx => ?_
      subst hx
      obtain rfl : s₀ = s := Option.some.inj (hs₀.symm.trans hs)
      exact .begun hi

/-- **Where a service comes from** in a change. -/
theorem Change.back (h : f.Change f') (hs' : f'.service? id = some s') :
    (f.service? id = none ∧ s'.lifecycle = .idle ∧ s'.Consistent) ∨
      ∃ s, f.service? id = some s ∧ s.Turn s' := by
  cases hs : f.service? id with
  | some s =>
      obtain ⟨s'', hs'', ht⟩ := h.turn hs
      obtain rfl : s'' = s' := Option.some.inj (hs''.symm.trans hs')
      exact .inr ⟨s, rfl, ht⟩
  | none =>
      left
      have hgoes : f.Goes f' → False := by
        intro hg
        rw [(hg.only id).1 hs] at hs'
        cases hs'
      cases h with
      | still h => exact (hgoes (.of_services_eq h)).elim
      | step host action h => exact (hgoes (goes_step h)).elim
      | call x call h => exact (hgoes (h ▸ goes_call f x call)).elim
      | added x hx h =>
          by_cases heq : id = x
          · subst heq
            obtain ⟨s, hs, hi, hc⟩ := h.idle
            obtain rfl : s = s' := Option.some.inj (hs.symm.trans hs')
            exact ⟨rfl, hi, hc⟩
          · rw [h.others id heq, hs] at hs'
            cases hs'
      | begun x s₀ hs₀ hi h =>
          rw [h, service?_modify] at hs'
          split at hs'
          · next heq =>
            rw [heq, hs₀] at hs
            cases hs
          · rw [hs] at hs'
            cases hs'

/-- A service that is added is not active. -/
theorem Adds.inactive {new : String} (h : f.Adds new f') (hi : f.isActive id = false) :
    f'.isActive id = false := by
  by_cases hid : id = new
  · subst hid
    obtain ⟨s, hs, hidle, -⟩ := h.idle
    unfold isActive Service.isActive
    rw [hs, Option.any_some, hidle]
    rfl
  · unfold isActive
    rw [h.others id hid]
    exact hi

/-- What all services that have come since tell is genuine. -/
def Genuine (fleet f : Fleet) : Prop :=
  ∀ id s, fleet.service? id = none → f.service? id = some s → s.Genuine

theorem genuine_refl (fleet : Fleet) : fleet.Genuine fleet := by
  intro id s hid hs
  rw [hid] at hs
  cases hs

theorem Change.genuine (h : f.Change f') (hg : fleet.Grows f) (hgen : fleet.Genuine f) :
    fleet.Genuine f' := by
  intro id s' hid hs'
  rcases h.back hs' with ⟨-, hi, hc⟩ | ⟨s, hs, ht⟩
  · exact Service.genuine_of_idle hi hc
  · exact ht.genuine (hg.consistent id s hid hs) (hgen id s hid hs)

end Fleet

end Failover.Service
