/-
  Failover.Proofs.Service.Passage
  ───────────────────────────────
  **What one step does to a service.**  The owner of its process takes it
  from phase to phase:

      launching → handshaking → answering → announcing → supervising
          ↘            ↓  ↘                                  ↓   ↘
           ↘           ↓    ending ─────→ finishing ←────── ending
            ↘→→→→→→→→→→↓→→→→→→→→→→→→→→→→→→→→↑ ↓
                                       (deregistering) → exiting → finished

  On the way it stores what the process answered, announces that it runs,
  and at last that it has exited.

  Main statements: `passage_advance` — the owner does nothing else — and
  `Keeps` with its lemmas — what every step keeps: once started, a service
  keeps its request; once it has told what its process answered, it keeps
  that; what a start has come to and a request to stop stay.
-/
import Failover.Proofs.Handshake.Stream
import Failover.Proofs.Service.Callers

namespace Failover.Service

open Handshake (Negotiation Progress)

/-! ## §1. Handshakes that succeed. -/

/-- A negotiation that a line has ended is done. -/
theorem done_of_feed {n n' : Negotiation} {line : String} (h : n.feed line = (.ok .done, n')) :
    n'.done = true := by
  obtain ⟨-, m, -, ht⟩ := Negotiation.takes_of_feed h
  cases ht
  rfl

/-- So is the one of a handshake that has been read to its end, -/
theorem done_of_drain {n n' : Negotiation} {b b' : Bytes.LineBuffer}
    (h : Progress.drain n b = .done n' b') : n'.done = true := by
  fun_induction Progress.drain n b with
  | case1 | case2 | case3 | case4 => cases h
  | case5 n b bytes rest hb text ht n₁ hf =>
      cases h
      exact done_of_feed hf
  | case6 n b bytes rest hb text ht n₁ hf ih => exact ih h

/-- and of one whose stream has ended with its last line. -/
theorem done_of_close {n n' : Negotiation} {b b' : Bytes.LineBuffer}
    (h : Progress.close (.reading n b) .closed = .done n' b') : n'.done = true := by
  unfold Progress.close at h
  dsimp only at h
  split at h
  · cases h
  · cases h
  · split at h
    · cases h
    · next hf =>
      cases h
      exact done_of_feed hf
    · cases h

/-! ## §2. Passages. -/

/-- **How the owner passes** from one phase to the next without telling anybody. -/
inductive Phase.Passes : Phase → Phase → Prop where
  | launched : Passes .launching (.handshaking .empty .empty)
  | unlaunched (cause : Fault) : Passes .launching (.finishing (some cause))
  | reading (n n' : Negotiation) (b b' : Bytes.LineBuffer) :
      Passes (.handshaking n b) (.handshaking n' b')
  | answered (n n' : Negotiation) (b : Bytes.LineBuffer) (h : n'.done = true) :
      Passes (.handshaking n b) (.answering n')
  | failed (n : Negotiation) (b : Bytes.LineBuffer) (cause : Fault) (deadline : Nat) :
      Passes (.handshaking n b) (.ending (some cause) deadline)
  | killed (n : Negotiation) (b : Bytes.LineBuffer) (cause : Fault) :
      Passes (.handshaking n b) (.finishing (some cause))
  | left : Passes .supervising (.finishing Option.none)
  | released (deadline : Nat) : Passes .supervising (.ending Option.none deadline)
  | terminated (cause : Option Fault) (deadline : Nat) :
      Passes (.ending cause deadline) (.ending cause deadline)
  | gone (cause : Option Fault) (deadline : Nat) :
      Passes (.ending cause deadline) (.finishing cause)
  | unwanted (cause : Option Fault) : Passes (.finishing cause) (.deregistering cause)
  | kept (cause : Option Fault) : Passes (.finishing cause) (.exiting cause)
  | deregistered (cause : Option Fault) : Passes (.deregistering cause) (.exiting cause)

/-- Passing on goes neither to the announcement nor away from an answer. -/
theorem Phase.Passes.silent {p p' : Phase} (h : p.Passes p') :
    p ≠ .announcing ∧ p' ≠ .announcing ∧ ∀ n, p ≠ .answering n := by
  cases h <;> exact ⟨nofun, nofun, nofun⟩

/-- What the start has come to when a service has exited. -/
def lastOutcome (s : Service) : Option Fault → Option (Except Abort Unit)
  | some cause => some (.error (.fault cause))
  | none => s.outcome

/-- **What one step of the owner makes of a service.** -/
inductive Passage (s : Service) : Service → Prop where
  | passing (child : Option Host.Child) (phase : Phase) (h : s.phase.Passes phase) :
      Passage s { s with child, phase }
  | broken (b : Breach) (h : s.phase = .launching) :
      Passage s { s with phase := .broken, outcome := some (.error (.breach b)) }
  | stored (n : Negotiation) (h : s.phase = .answering n) :
      Passage s { s with
        response := n.response
        methods := n.methods.map (Method.ofExposed s.id)
        phase := .announcing }
  | announced (h : s.phase = .announcing) :
      Passage s { s with lifecycle := .running, outcome := some (.ok ()), phase := .supervising }
  | exited (cause : Option Fault) (h : s.phase = .exiting cause) :
      Passage s { s with
        lifecycle := .exited, outcome := s.lastOutcome cause, phase := .finished }

section

variable {s s' : Service} {host : Host} {now : Nat}

/-- A launch either succeeds, fails or breaks the task off. -/
theorem passage_launch (h : s.phase = .launching) : s.Passage (s.launch host now) := by
  unfold launch
  split
  · exact .broken _ h
  · dsimp only
    split
    · exact .passing s.child _ (h ▸ .unlaunched _)
    · exact .passing _ _ (h ▸ .launched)

/-- A handshake goes on, succeeds or fails. -/
theorem passage_proceed {n : Negotiation} {b : Bytes.LineBuffer} (h : s.phase = .handshaking n b)
    (child : Option Host.Child) {p : Progress}
    (hp : ∀ n' b', p = .done n' b' → n'.done = true) :
    s.Passage ({ s with child }.proceed now p) := by
  cases p with
  | reading n' b' => exact .passing child _ (h ▸ .reading n n' b b')
  | done n' b' => exact .passing child _ (h ▸ .answered n n' b (hp n' b' rfl))
  | failed cause =>
      unfold proceed fail
      dsimp only
      split
      · exact .passing _ _ (h ▸ .failed n b _ _)
      · exact .passing _ _ (h ▸ .killed n b _)

/-- Where the owner launches the program. -/
theorem advance?_of_launching (h : s.phase = .launching) :
    s.advance? host now = some (s.launch host now) := by
  unfold advance?
  rw [h]

/-- **A step of the owner** is a passage. -/
theorem passage_advance (h : s.advance? host now = some s') : s.Passage s' := by
  unfold advance? at h
  cases hp : s.phase with
  | none | deregistering cause | finished | broken =>
      rw [hp] at h
      cases h
  | launching =>
      rw [hp] at h
      cases h
      exact passage_launch hp
  | handshaking n b =>
      rw [hp] at h
      dsimp only at h
      unfold listen? at h
      split at h
      · cases h
      · split at h
        · cases h
          exact passage_proceed hp _ fun _ _ => done_of_drain
        · split at h
          · cases h
          · cases h
            exact passage_proceed hp s.child fun _ _ => done_of_close
  | answering n =>
      rw [hp] at h
      cases h
      exact .stored n hp
  | announcing =>
      rw [hp] at h
      cases h
      exact .announced hp
  | supervising =>
      rw [hp] at h
      dsimp only at h
      split at h
      · cases h
        exact .passing _ _ (hp ▸ .left)
      · cases h
  | ending cause deadline =>
      rw [hp] at h
      dsimp only at h
      split at h
      · cases h
        exact .passing s.child _ (hp ▸ .gone cause deadline)
      · split at h
        · cases h
          have hpass : s.phase.Passes s.phase := hp ▸ .terminated cause deadline
          exact .passing (s.child.map Host.Child.exited) _ hpass
        · cases h
  | finishing cause =>
      rw [hp] at h
      cases h
      refine .passing s.child _ ?_
      rw [hp]
      split
      · exact .unwanted cause
      · exact .kept cause
  | exiting cause =>
      rw [hp] at h
      cases h
      have hpass := Passage.exited cause hp
      cases cause with
      | none => exact hpass
      | some cause => exact hpass

/-- Heeding a request to stop is one, too. -/
theorem passage_heed (h : s.heed? now = some s') : s.Passage s' := by
  unfold heed? at h
  split at h
  · split at h
    · next n b hp =>
      cases h
      exact .passing _ _ (hp ▸ .killed n b _)
    · next hp =>
      cases h
      exact .passing _ _ (hp ▸ .released _)
    · cases h
  · cases h

/-! ## §3. What every step keeps. -/

/-- Whether a service tells what its process has answered. -/
def HasTold (s : Service) : Prop := s.phase = .announcing ∨ s.outcome = some (.ok ())

/-- **What every step keeps.** -/
structure Keeps (s s' : Service) : Prop where
  id : s'.id = s.id
  started : s.lifecycle ≠ .idle → s'.lifecycle ≠ .idle
  /-- Once started, a service keeps its request. -/
  frozen : s.lifecycle ≠ .idle → s'.request = s.request
  /-- Once it has told what its process answered, it keeps that. -/
  told : s.HasTold → s'.HasTold ∧ s'.response = s.response ∧ s'.methods = s.methods
  outcome : ∀ result, s.outcome = some result → s'.outcome = some result
  asked : s.stopRequested = true → s'.stopRequested = true

/-- What stays while somebody else has the lock. -/
structure Spares (s s' : Service) : Prop where
  idle : s.lifecycle = .idle → s'.lifecycle = .idle
  response : s'.response = s.response
  methods : s'.methods = s.methods

theorem Keeps.refl (s : Service) : s.Keeps s :=
  ⟨rfl, fun h => h, fun _ => rfl, fun h => ⟨h, rfl, rfl⟩, fun _ h => h, fun h => h⟩

/-- A service that has told what its process answered is not idle. -/
theorem HasTold.not_idle (h : s.HasTold) (hc : s.Consistent) : s.lifecycle ≠ .idle := by
  intro hi
  rcases h with hp | ho
  · cases hp.symm.trans (hc.phase_of_idle hi)
  · cases ho.symm.trans (hc.outcome_of_idle hi)

/-- Before the announcement a service whose start has come to nothing has not told it. -/
theorem not_hasTold (hp : s.phase ≠ .announcing) (ho : s.outcome = none) : ¬ s.HasTold := by
  rintro (hp' | hok)
  · exact hp hp'
  · cases ho.symm.trans hok

/-- A service that runs has told what its process answered. -/
theorem Consistent.hasTold (hc : s.Consistent) (hr : s.lifecycle = .running) : s.HasTold := by
  unfold Consistent Since at hc
  unfold HasTold
  split at hc <;> first
    | (split at hc <;> simp_all)
    | simp_all

/-- A start that has come to something stays with it to the end. -/
theorem Consistent.lastOutcome (hc : s.Consistent) {cause : Option Fault}
    (hp : s.phase = .exiting cause) {result : Except Abort Unit} (ho : s.outcome = some result) :
    s.lastOutcome cause = some result := by
  cases cause with
  | none => exact ho
  | some cause =>
      have hnone : s.outcome = none := (hc.of_phase hp).2
      cases hnone.symm.trans ho

/-- **A step of the owner** keeps it. -/
theorem Passage.keeps (h : s.Passage s') (hc : s.Consistent) : s.Keeps s' := by
  cases h with
  | passing child phase h =>
      refine ⟨rfl, fun h => h, fun _ => rfl, ?_, fun _ h => h, fun h => h⟩
      rintro (hp | ho)
      · exact absurd hp h.silent.1
      · exact ⟨.inr ho, rfl, rfl⟩
  | broken b hp =>
      have hnone : s.outcome = none := (hc.of_phase hp).2
      refine ⟨rfl, fun h => h, fun _ => rfl, fun ht => ?_, fun result ho => ?_, fun h => h⟩
      · exact absurd ht (not_hasTold (by rw [hp]; exact nofun) hnone)
      · cases hnone.symm.trans ho
  | stored n hp =>
      have hnone : s.outcome = none := (hc.of_phase hp).2
      refine ⟨rfl, fun h => h, fun _ => rfl, fun ht => ?_, fun _ h => h, fun h => h⟩
      exact absurd ht (not_hasTold (by rw [hp]; exact nofun) hnone)
  | announced hp =>
      have hnone : s.outcome = none := (hc.of_phase hp).2
      refine ⟨rfl, fun _ => nofun, fun _ => rfl, fun _ => ⟨.inr rfl, rfl, rfl⟩, fun result ho => ?_,
        fun h => h⟩
      cases hnone.symm.trans ho
  | exited cause hp =>
      refine ⟨rfl, fun _ => nofun, fun _ => rfl, ?_, fun _ => hc.lastOutcome hp, fun h => h⟩
      rintro (hp' | ho)
      · cases hp.symm.trans hp'
      · exact ⟨.inr (hc.lastOutcome hp ho), rfl, rfl⟩

/-- A step of the owner spares what somebody with the lock relies on, unless it is to store what
the process answered. -/
theorem Passage.spares (h : s.Passage s') (hc : s.Consistent) (hn : ∀ n, s.phase ≠ .answering n) :
    s.Spares s' := by
  cases h with
  | passing | broken => exact ⟨fun h => h, rfl, rfl⟩
  | stored n hp => exact absurd hp (hn n)
  | announced hp | exited cause hp =>
      -- only a service that was started has an owner
      refine ⟨fun hi => ?_, rfl, rfl⟩
      cases hp.symm.trans (hc.phase_of_idle hi)

/-! ## §4. What else happens by itself. -/

/-- **What everything else that happens by itself makes of a service**: its process goes on, or its
owner heeds a request to stop. -/
inductive Aside (now : Nat) (s : Service) : Service → Prop where
  | process (child : Option Host.Child) (h : s.child = none → child = none) :
      Aside now s { s with child }
  | heeded {s' : Service} (h : s.heed? now = some s') : Aside now s s'

/-- A request to stop is heeded while the process introduces itself and while it runs. -/
theorem heed?_eq_some (h : s.heed? now = some s') :
    s.stopRequested = true ∧
      ((∃ n b, s.phase = .handshaking n b ∧ s' = s.kill (.stopped s.id)) ∨
        s.phase = .supervising ∧ s' = s.release now none) := by
  unfold heed? at h
  split at h
  · next hr =>
    refine ⟨hr, ?_⟩
    split at h
    · next n b hp => exact .inl ⟨n, b, hp, (Option.some.inj h).symm⟩
    · next hp => exact .inr ⟨hp, (Option.some.inj h).symm⟩
    · cases h
  · cases h

theorem Aside.keeps (h : s.Aside now s') (hc : s.Consistent) : s.Keeps s' := by
  cases h with
  | process =>
      exact ⟨rfl, fun h => h, fun _ => rfl, fun h => ⟨h, rfl, rfl⟩, fun _ h => h, fun h => h⟩
  | heeded h => exact (passage_heed h).keeps hc

theorem Aside.spares (h : s.Aside now s') : s.Spares s' := by
  cases h with
  | process => exact ⟨fun h => h, rfl, rfl⟩
  | heeded h =>
      obtain ⟨-, ⟨n, b, -, rfl⟩ | ⟨-, rfl⟩⟩ := heed?_eq_some h <;> exact ⟨fun h => h, rfl, rfl⟩

end

namespace Fleet

variable {f f' : Fleet} {id : String} {host : Host} {s : Service}

/-- Changing another service leaves this one. -/
theorem service?_modify_of_ne {x : String} (hx : x ≠ id) (g : Service → Service) :
    (f.modify x g).service? id = f.service? id := by
  rw [service?_modify, if_neg (Ne.symm hx)]

theorem service?_deregister (f : Fleet) (x : String) :
    (f.deregister x).2.service? id = f.service? id := by
  unfold service?
  rw [services_deregister]

/-- **The owner** takes the service one passage on. -/
theorem passage_owner (h : f.step? host (.owner id) = some f') (hs : f.service? id = some s) :
    ∃ s', f'.service? id = some s' ∧ s.Passage s' := by
  unfold step? ownerStep? at h
  dsimp only at h
  rw [hs] at h
  dsimp only at h
  split at h
  · next cause hp =>
    cases h
    exact ⟨_, service?_modify_self ((service?_deregister f id).trans hs) _,
      .passing s.child _ (hp ▸ .deregistered cause)⟩
  · obtain ⟨s', hs', rfl⟩ := Option.map_eq_some_iff.1 h
    exact ⟨s', service?_modify_self hs _, Service.passage_advance hs'⟩

/-- Where it goes on by itself, the owner takes the service there. -/
theorem owner_of_advance (hs : f.service? id = some s) {s' : Service}
    (h : s.advance? host f.clock = some s') :
    f.step? host (.owner id) = some (f.modify id fun _ => s') := by
  unfold step? ownerStep?
  dsimp only
  rw [hs]
  dsimp only
  rw [h]
  split
  · -- who is to be deregistered has nothing else to do
    next cause hp =>
    unfold Service.advance? at h
    rw [hp] at h
    cases h
  · rfl

/-- Where the service is about to be launched, the owner launches it. -/
theorem owner_of_launching (hs : f.service? id = some s) (hp : s.phase = .launching) :
    f.step? host (.owner id) = some (f.modify id fun _ => s.launch host f.clock) :=
  owner_of_advance hs (Service.advance?_of_launching hp)

/-- Where it is to leave its registry, the owner takes it out. -/
theorem owner_of_deregistering (hs : f.service? id = some s) {cause : Option Fault}
    (hp : s.phase = .deregistering cause) (host : Host) :
    f.step? host (.owner id) = some ((f.deregister id).2.modify id fun s =>
      { s with phase := .exiting cause }) := by
  unfold step? ownerStep?
  dsimp only
  rw [hs]
  dsimp only
  rw [hp]

/-- Where the owner may heed a request to stop, it does. -/
theorem heed_of_heed (hs : f.service? id = some s) {s' : Service}
    (h : s.heed? f.clock = some s') (host : Host) :
    f.step? host (.heed id) = some (f.modify id fun _ => s') := by
  unfold step?
  dsimp only
  rw [hs]
  simp [h]

/-- The owner of another service leaves this one. -/
theorem service?_owner_of_ne {x : String} (hx : x ≠ id) (h : f.step? host (.owner x) = some f') :
    f'.service? id = f.service? id := by
  unfold step? ownerStep? at h
  dsimp only at h
  split at h
  · cases h
  · split at h
    · cases h
      rw [service?_modify_of_ne hx, service?_deregister]
    · obtain ⟨s', -, rfl⟩ := Option.map_eq_some_iff.1 h
      exact service?_modify_of_ne hx _

/-- **Everything else that happens by itself** goes on aside. -/
theorem aside_step {action : Action} (h : f.step? host action = some f')
    (ha : action ≠ .owner id) (hs : f.service? id = some s) :
    ∃ s', f'.service? id = some s' ∧ s.Aside f.clock s' := by
  have hsame : f'.service? id = f.service? id → ∃ s', f'.service? id = some s' ∧
      s.Aside f.clock s' := fun heq => ⟨s, heq.trans hs, .process s.child fun h => h⟩
  cases action with
  | owner x => exact hsame (service?_owner_of_ne (fun hx => ha (by rw [hx])) h)
  | elapse ms =>
      cases h
      exact hsame rfl
  | child x =>
      obtain ⟨s₀, hs₀, h⟩ := Option.bind_eq_some_iff.1 h
      obtain ⟨s₁, hs₁, h⟩ := Option.bind_eq_some_iff.1 h
      cases h
      by_cases hx : x = id
      · subst hx
        obtain rfl : s₀ = s := Option.some.inj (hs₀.symm.trans hs)
        refine ⟨s₁, service?_modify_self hs _, ?_⟩
        unfold Service.childStep? at hs₁
        split at hs₁
        · next c hc =>
          cases hs₁
          refine .process _ fun hnone => ?_
          rw [hnone] at hc
          cases hc
        · cases hs₁
      · exact hsame (service?_modify_of_ne hx _)
  | heed x =>
      obtain ⟨s₀, hs₀, h⟩ := Option.bind_eq_some_iff.1 h
      obtain ⟨s₁, hs₁, h⟩ := Option.bind_eq_some_iff.1 h
      cases h
      by_cases hx : x = id
      · subst hx
        obtain rfl : s₀ = s := Option.some.inj (hs₀.symm.trans hs)
        exact ⟨s₁, service?_modify_self hs _, .heeded hs₁⟩
      · exact hsame (service?_modify_of_ne hx _)

end Fleet

/-! ## §5. What calls do. -/

/-- **What a step of a call makes of the service.** -/
def Call.effect : Call → Service → Service
  | .setVar (.writing key value), s => { s with request := s.request.insert key value }
  | .start .publishing, s => { s with lifecycle := .starting, phase := .launching }
  | .stop .asking, s | .remove (.stopping .asking), s => s.requestStop
  | .remove .marking, s => s.requestRemoval
  | _, s => s

theorem service?_stopCall (id : String) (call : StopCall) (f : Fleet) :
    (call.step id f).2.service? id = (f.service? id).map (Call.stop call).effect := by
  cases call with
  | checking =>
      unfold StopCall.step
      dsimp only
      split <;> exact Option.map_id'.symm
  | asking => exact (Fleet.service?_modify ..).trans (if_pos rfl)
  | finished asked => exact Option.map_id'.symm

theorem service?_removeCall (id : String) (call : RemoveCall) (f : Fleet) :
    (call.step id f).2.service? id = (f.service? id).map (Call.remove call).effect := by
  cases call with
  | checking | rechecking =>
      unfold RemoveCall.step
      dsimp only
      split <;> exact Option.map_id'.symm
  | marking => exact (Fleet.service?_modify ..).trans (if_pos rfl)
  | stopping call =>
      have h := service?_stopCall id call f
      have heffect : (Call.remove (.stopping call)).effect = (Call.stop call).effect := by
        cases call <;> rfl
      rw [heffect, ← h]
      unfold RemoveCall.step
      dsimp only
      split <;> next heq => rw [heq]
  | deregistering => exact (Fleet.service?_deregister f id).trans Option.map_id'.symm
  | finished result => exact Option.map_id'.symm

theorem service?_setVarCall (id : String) (call : SetVarCall) (f : Fleet) :
    (call.step id f).2.service? id = (f.service? id).map (Call.setVar call).effect := by
  cases call with
  | entering key value | finished result => exact Option.map_id'.symm
  | checking key value =>
      unfold SetVarCall.step
      dsimp only
      split
      · exact Option.map_id'.symm
      · split <;> exact Option.map_id'.symm
  | writing key value => exact (Fleet.service?_modify ..).trans (if_pos rfl)

theorem service?_startCall (id : String) (call : StartCall) (f : Fleet) :
    (call.step id f).2.service? id = (f.service? id).map (Call.start call).effect := by
  cases call with
  | entering | refused cause | finished request result => exact Option.map_id'.symm
  | checking =>
      unfold StartCall.step
      dsimp only
      split
      · exact Option.map_id'.symm
      · split <;> exact Option.map_id'.symm
  | publishing => exact (Fleet.service?_modify ..).trans (if_pos rfl)
  | copying | awaiting request =>
      unfold StartCall.step
      dsimp only
      split <;> exact Option.map_id'.symm

/-- **A step of a call** has its effect on the service, and no other. -/
theorem service?_call (id : String) (call : Call) (f : Fleet) :
    (call.step id f).2.service? id = (f.service? id).map call.effect := by
  cases call with
  | setVar call => exact service?_setVarCall id call f
  | start call => exact service?_startCall id call f
  | stop call => exact service?_stopCall id call f
  | remove call => exact service?_removeCall id call f
  | var call | info call | wait call => exact Option.map_id'.symm

/-! ## §6. Scenes. -/

namespace Scene

/-- **What a move makes of a scene and of its service.** -/
inductive Step (id : String) (sc : Scene) (s : Service) : Scene → Service → Prop where
  | still : Step id sc s sc s
  | come (demand : Demand) :
      Step id sc s { sc with callers := sc.callers ++ [demand.call] } s
  /-- Who takes the lock finds it free. -/
  | go (caller : Nat) (call : Call) (hcall : sc.callers[caller]? = some call)
      (hfree : call.isEntering = true → sc.isFree = true) :
      Step id sc s
        { sc with
          fleet := (call.step id sc.fleet).2
          callers := sc.callers.set caller (call.step id sc.fleet).1
          written := sc.written ++ call.written (call.step id sc.fleet).1 }
        (call.effect s)
  | own (f : Fleet) (s' : Service) (hpass : s.Passage s') (hmay : sc.mayGoOn s = true)
      (hgoes : s.Consistent → s.Goes s') :
      Step id sc s
        { sc with
          fleet := f
          launches := sc.launches ++ s.launching?.toList
          answers := sc.answers ++ s'.answering?.toList }
        s'
  | aside (f : Fleet) (s' : Service) (haside : s.Aside sc.fleet.clock s')
      (hgoes : s.Consistent → s.Goes s') :
      Step id sc s { sc with fleet := f } s'

variable {id : String} {sc : Scene} {s : Service}

/-- What happens by itself lets the service go on. -/
theorem goes_of_step {f f' : Fleet} {host : Host} {action : Action} {s' : Service}
    (h : f.step? host action = some f') (hs : f.service? id = some s)
    (hs' : f'.service? id = some s') (hc : s.Consistent) : s.Goes s' := by
  obtain ⟨s'', hs'', hg⟩ := (Fleet.goes_step h).service id s hs hc
  obtain rfl : s'' = s' := Option.some.inj (hs''.symm.trans hs')
  exact hg

theorem step_go (hs : sc.fleet.service? id = some s) (caller : Nat) :
    ∃ s', (sc.go id caller).fleet.service? id = some s' ∧ sc.Step id s (sc.go id caller) s' := by
  unfold go
  cases hcall : sc.callers[caller]? with
  | none => exact ⟨s, hs, .still⟩
  | some call =>
      dsimp only
      split
      · exact ⟨s, hs, .still⟩
      · next hlock =>
        refine ⟨call.effect s, ?_, .go caller call hcall ?_⟩
        · show (call.step id sc.fleet).2.service? id = _
          rw [service?_call, hs]
          rfl
        · intro hent
          rw [hent, Bool.true_and, Bool.not_eq_true', Bool.not_eq_false] at hlock
          exact hlock

theorem step_own (hs : sc.fleet.service? id = some s) (host : Host) :
    ∃ s', (sc.own id host).fleet.service? id = some s' ∧ sc.Step id s (sc.own id host) s' := by
  unfold own
  rw [hs]
  cases hf : sc.fleet.step? host (.owner id) with
  | none => exact ⟨s, hs, .still⟩
  | some f =>
      dsimp only
      split
      · next hmay =>
        obtain ⟨s', hs', hpass⟩ := Fleet.passage_owner hf hs
        refine ⟨s', hs', ?_⟩
        rw [hs']
        exact .own f s' hpass hmay (goes_of_step hf hs hs')
      · exact ⟨s, hs, .still⟩

/-- **Every move** is such a step. -/
theorem step_move (hs : sc.fleet.service? id = some s) (mv : Move) :
    ∃ s', (sc.move id mv).fleet.service? id = some s' ∧ sc.Step id s (sc.move id mv) s' := by
  cases mv with
  | come demand => exact ⟨s, hs, .come demand⟩
  | go caller => exact step_go hs caller
  | act host action =>
      unfold move
      dsimp only
      split
      · exact step_own hs host
      · next ha =>
        cases hf : sc.fleet.step? host action with
        | none => exact ⟨s, hs, .still⟩
        | some f =>
            obtain ⟨s', hs', haside⟩ := Fleet.aside_step hf ha hs
            exact ⟨s', hs', .aside f s' haside (goes_of_step hf hs hs')⟩
  | elsewhere rest =>
      refine ⟨s, ?_, .aside _ s (.process s.child fun h => h) .refl⟩
      show (sc.fleet.among id rest).service? id = _
      unfold Fleet.among
      rw [hs]
      exact (Named.get?_insert ..).trans (if_pos rfl)

end Scene

end Failover.Service
