/-
  Failover.Proofs.Service.Stopping
  ────────────────────────────────
  **Who heeds a request to stop.**  Whoever asks for a service to be stopped
  sets a flag, and the owner of its process looks at the flag wherever it
  waits for something else:

      launching    handshaking    answering → announcing    supervising
         ╰──▶           ⚑                           ╰──▶        ⚑

  Between these places it waits for nothing and comes to the next one by
  itself, so it does not matter when the flag is set.  Where it heeds the
  flag it leaves, and from there on it only goes on to the end.  The one
  exception is a launch that breaks off because the variables of the host
  are not all text: nobody looks at the flag after that.

  Main statements: `minds_iff` — whether an owner that is asked to stop
  comes to where it heeds that — and `exists_exited`, the end is within
  reach.
-/
import Failover.Proofs.Service.Knowledge

namespace Failover.Service

open Handshake (Negotiation)

/-! ## §1. How far the owner still has to go. -/

/-- How many turns the owner still has to take at most. -/
def Phase.rank : Phase → Nat
  | .none => 10
  | .launching => 9
  | .handshaking .. => 8
  | .answering _ => 7
  | .announcing => 6
  | .supervising => 5
  | .ending .. => 4
  | .finishing _ => 3
  | .deregistering _ => 2
  | .exiting _ => 1
  | .finished | .broken => 0

/-- Whether the owner has just to go on to the next place at which it waits. -/
def Phase.isPassing : Phase → Bool
  | .launching | .answering _ | .announcing => true
  | _ => false

/-- Whether the owner is about to end the process and to settle the service. -/
def Phase.isLeaving : Phase → Bool
  | .ending .. | .finishing _ | .deregistering _ | .exiting _ => true
  | _ => false

section

variable {s s' : Service} {host : Host} {now : Nat}

/-- Whether a request to stop is being heeded: the owner may do so next, or it is leaving anyway. -/
def IsHeeding (s : Service) (now : Nat) : Prop :=
  (s.heed? now).isSome = true ∨ s.phase.isLeaving = true

/-- The next steps of the owner. -/
def advances (host : Host) (now : Nat) : Nat → Service → Option Service
  | 0, s => some s
  | n + 1, s => (s.advance? host now).bind (advances host now n)

theorem heed?_handshaking (ha : s.stopRequested = true) {n : Negotiation} {b : Bytes.LineBuffer}
    (hp : s.phase = .handshaking n b) : s.heed? now = some (s.kill (.stopped s.id)) := by
  unfold heed?
  rw [if_pos ha, hp]

theorem heed?_supervising (ha : s.stopRequested = true) (hp : s.phase = .supervising) :
    s.heed? now = some (s.release now none) := by
  unfold heed?
  rw [if_pos ha, hp]

theorem isHeeding_handshaking (ha : s.stopRequested = true) {n : Negotiation}
    {b : Bytes.LineBuffer} (hp : s.phase = .handshaking n b) : s.IsHeeding now := by
  refine .inl ?_
  rw [heed?_handshaking ha hp]
  rfl

theorem isSome_heed?_supervising (ha : s.stopRequested = true) (hp : s.phase = .supervising) :
    (s.heed? now).isSome = true := by
  rw [heed?_supervising ha hp]
  rfl

/-- Only where it waits for the process, or where it leaves, does the owner heed a request. -/
theorem not_isHeeding (hp : s.phase = .launching ∨ s.phase = .broken) : ¬ s.IsHeeding now := by
  rintro (hheed | hleave)
  · obtain ⟨s', h⟩ := Option.isSome_iff_exists.1 hheed
    obtain ⟨-, ⟨n, b, hp', -⟩ | ⟨hp', -⟩⟩ := heed?_eq_some h <;>
      rcases hp with hp | hp <;> cases hp.symm.trans hp'
  · rcases hp with hp | hp <;> rw [hp] at hleave <;> cases hleave

/-- Where the variables of the host are not all text a launch breaks off. -/
theorem launch_of_none (hhost : host.entries? = none) (s : Service) (now : Nat) :
    (s.launch host now).phase = .broken := by
  unfold launch
  rw [hhost]

/-- Where they are, it leads to the handshake or to the end. -/
theorem isHeeding_launch (hhost : host.entries?.isSome = true) (ha : s.stopRequested = true) :
    (s.launch host now).IsHeeding now := by
  obtain ⟨entries, hentries⟩ := Option.isSome_iff_exists.1 hhost
  unfold launch
  rw [hentries]
  dsimp only
  split
  · exact .inr rfl
  · exact isHeeding_handshaking ha rfl

/-- **An owner minds a request to stop** on a host: where it waits it is heeding the request, and
where it does not wait it comes to such a place within two steps of its own. -/
structure Minds (s : Service) (host : Host) : Prop where
  waiting : s.phase.isPassing = false → ∀ now, s.IsHeeding now
  passing : s.phase.isPassing = true → ∀ now, ∃ n ≤ 2, ∃ s',
    s.advances host now n = some s' ∧ s'.IsHeeding now

/-- An owner that launches its program minds a request unless the launch breaks off. -/
theorem minds_of_launching (hp : s.phase = .launching) (hhost : host.entries?.isSome = true)
    (ha : s.stopRequested = true) : s.Minds host where
  waiting hpass := by
    rw [hp] at hpass
    cases hpass
  passing _ now := by
    refine ⟨1, by omega, s.launch host now, ?_, isHeeding_launch hhost ha⟩
    simp [advances, advance?, hp]

/-- An owner that stores and announces an answer minds a request on every host. -/
theorem minds_of_answering {n : Negotiation} (hp : s.phase = .answering n)
    (ha : s.stopRequested = true) (host : Host) : s.Minds host where
  waiting hpass := by
    rw [hp] at hpass
    cases hpass
  passing _ now := by
    refine ⟨2, by omega, { s with
      response := n.response
      methods := n.methods.map (Method.ofExposed s.id)
      lifecycle := .running
      outcome := some (.ok ())
      phase := .supervising }, ?_, .inl (isSome_heed?_supervising ha rfl)⟩
    simp [advances, advance?, hp]

theorem minds_of_announcing (hp : s.phase = .announcing) (ha : s.stopRequested = true)
    (host : Host) : s.Minds host where
  waiting hpass := by
    rw [hp] at hpass
    cases hpass
  passing _ now := by
    refine ⟨1, by omega, { s with
      lifecycle := .running, outcome := some (.ok ()), phase := .supervising }, ?_,
      .inl (isSome_heed?_supervising ha rfl)⟩
    simp [advances, advance?, hp]

/-- An owner that is heeding a request where it waits minds it. -/
theorem minds_of_waiting (hp : s.phase.isPassing = false) (h : ∀ now, s.IsHeeding now)
    (host : Host) : s.Minds host :=
  ⟨fun _ => h, fun hpass => by rw [hp] at hpass; cases hpass⟩

/-- An owner that broke off does not mind it, -/
theorem not_minds_of_broken (hp : s.phase = .broken) : ¬ s.Minds host := fun h =>
  not_isHeeding (.inr hp) (h.waiting (by rw [hp]; rfl) 0)

/-- nor does one whose launch will break off. -/
theorem not_minds_of_launching (hp : s.phase = .launching) (hhost : host.entries? = none) :
    ¬ s.Minds host := by
  intro h
  obtain ⟨n, hn, s', hadv, hheed⟩ := h.passing (by rw [hp]; rfl) 0
  have hlaunch := launch_of_none hhost s 0
  match n with
  | 0 =>
      cases hadv
      exact not_isHeeding (.inl hp) hheed
  | 1 =>
      simp only [advances, advance?, hp, Option.bind_some, Option.some.injEq] at hadv
      exact not_isHeeding (.inr (hadv ▸ hlaunch)) hheed
  | 2 =>
      simp [advances, advance?, hp, hlaunch] at hadv

/-- **When the owner of an active service minds that it was asked to stop**: on every host if it has
launched its program, and else where the variables are all text; never if it broke off. -/
theorem minds_iff (hc : s.Consistent) (hactive : s.isActive = true)
    (ha : s.stopRequested = true) :
    s.Minds host ↔
      s.phase ≠ .broken ∧ (s.phase = .launching → host.entries?.isSome = true) := by
  constructor
  · refine fun h => ⟨fun hp => not_minds_of_broken hp h, fun hp => ?_⟩
    exact Option.isSome_iff_ne_none.2 fun hnone => not_minds_of_launching hp hnone h
  · rintro ⟨hbroken, hhost⟩
    obtain ⟨hidle, hexited⟩ := isActive_iff.1 hactive
    cases hphase : s.phase with
    | none => exact absurd (hc.of_phase hphase).1 hidle
    | finished => exact absurd (hc.of_phase hphase).1 hexited
    | broken => exact absurd hphase hbroken
    | launching => exact minds_of_launching hphase (hhost hphase) ha
    | answering n => exact minds_of_answering hphase ha host
    | announcing => exact minds_of_announcing hphase ha host
    | handshaking n b =>
        exact minds_of_waiting (by rw [hphase]; rfl) (fun _ => isHeeding_handshaking ha hphase) host
    | supervising =>
        exact minds_of_waiting (by rw [hphase]; rfl)
          (fun _ => .inl (isSome_heed?_supervising ha hphase)) host
    | ending | finishing | deregistering | exiting =>
        exact minds_of_waiting (by rw [hphase]; rfl) (fun _ => .inr (by rw [hphase]; rfl)) host

/-! ## §2. Starts that lose. -/

/-- Whether the start of a service has lost to a request to stop it. -/
def IsLost (s : Service) : Prop :=
  match s.phase with
  | .finishing cause | .deregistering cause | .exiting cause =>
      cause = some (.stopped s.id) ∧ s.outcome = none
  | .finished => s.outcome = some (.error (.fault (.stopped s.id)))
  | _ => False

/-- A start that is heeding a request to stop has lost. -/
theorem isLost_of_heed {n : Negotiation} {b : Bytes.LineBuffer} (hc : s.Consistent)
    (hp : s.phase = .handshaking n b) (h : s.heed? now = some s') : s'.IsLost := by
  obtain ⟨-, ⟨n', b', -, rfl⟩ | ⟨hp', -⟩⟩ := heed?_eq_some h
  · exact ⟨rfl, (hc.of_phase hp).2⟩
  · cases hp.symm.trans hp'

/-- A start that has lost has come to nothing yet, or to having been stopped. -/
theorem IsLost.outcome (h : s.IsLost) :
    s.outcome = none ∨ s.outcome = some (.error (.fault (.stopped s.id))) := by
  unfold IsLost at h
  split at h
  · exact .inl h.2
  · exact .inl h.2
  · exact .inl h.2
  · exact .inr h
  · exact h.elim

/-- The service never runs. -/
theorem IsLost.not_running (h : s.IsLost) (hc : s.Consistent) : s.lifecycle ≠ .running := by
  intro hr
  rcases hc.hasTold hr with hp | hok
  · unfold IsLost at h
    rw [hp] at h
    exact h
  · rcases h.outcome with hnone | hstopped
    · cases hok.symm.trans hnone
    · cases hok.symm.trans hstopped

/-- A start that has lost stays so as its owner goes on. -/
theorem IsLost.passage (h : s.IsLost) (hp : s.Passage s') : s'.IsLost := by
  unfold IsLost at h
  cases hp with
  | passing child phase hpass =>
      generalize s.phase = p at h hpass
      cases hpass <;> first | exact h | exact h.elim
  | broken b hp | stored n hp | announced hp =>
      rw [hp] at h
      exact h.elim
  | exited cause hp =>
      rw [hp] at h
      obtain ⟨rfl, -⟩ := h
      exact rfl

/-- So it does whatever else happens by itself, -/
theorem IsLost.aside (h : s.IsLost) (ha : s.Aside now s') : s'.IsLost := by
  cases ha with
  | process => exact h
  | heeded hheed => exact h.passage (passage_heed hheed)

end

/-- and whoever calls. -/
theorem IsLost.effect {s : Service} {call : Call} (h : s.IsLost) (hc : s.Consistent)
    (hk : call.Knows s) : (call.effect s).IsLost := by
  unfold Call.effect
  split
  · exact h
  · -- nobody starts a service that was started
    unfold Service.IsLost at h
    rw [hc.phase_of_idle hk] at h
    exact h.elim
  all_goals exact h

/-- The request to stop that a call makes, be it to have the service removed. -/
def Call.stopping? : Call → Option StopCall
  | .stop call => some call
  | .remove (.stopping call) => some call
  | _ => none

/-- Who is about to ask for the service to be stopped knows that it was started. -/
theorem Call.Knows.not_idle_of_asking {call : Call} {s : Service} (h : call.Knows s)
    (hstop : call.stopping? = some .asking) : s.lifecycle ≠ .idle := by
  unfold Call.stopping? at hstop
  split at hstop
  · cases hstop
    exact h
  · cases hstop
    exact h
  · cases hstop

/-- Asking again changes nothing. -/
theorem requestStop_of_asked {s : Service} (ha : s.stopRequested = true) :
    s.requestStop = s := by
  cases s
  cases ha
  rfl

namespace Scene

variable {id : String} {sc sc' : Scene} {s s' : Service} {host : Host}

theorem IsLost.step (h : s.IsLost) (ho : sc.Ordered id s) (hstep : sc.Step id s sc' s') :
    s'.IsLost := by
  cases hstep with
  | still | come => exact h
  | go caller call hcall =>
      exact h.effect ho.consistent (ho.knows call (List.mem_of_getElem? hcall))
  | own f _ hpass => exact h.passage hpass
  | aside f _ haside => exact h.aside haside

/-- **A start that has lost** does not come to anything else, whatever happens later. -/
theorem IsLost.run (h : s.IsLost) (ho : sc.Ordered id s) (later : List Move) :
    ∃ s', (sc.run id later).Ordered id s' ∧ s'.IsLost := by
  induction later generalizing sc s with
  | nil => exact ⟨s, ho, h⟩
  | cons mv rest ih =>
      obtain ⟨s', hs', hstep⟩ := step_move ho.here mv
      exact ih (IsLost.step h ho hstep) (ho.step hstep hs')

/-- What its caller is told. -/
theorem Ordered.result_of_isLost (ho : sc.Ordered id s) (h : s.IsLost) {request : Variables}
    {result : Except Abort Unit} (hmem : .start (.finished request result) ∈ sc.callers) :
    result = .error (.fault (.stopped id)) := by
  obtain ⟨-, -, hresult⟩ : s.lifecycle ≠ .idle ∧ request = s.request ∧ s.outcome = some result :=
    ho.knows _ hmem
  rcases h.outcome with hnone | hstopped
  · rw [hnone] at hresult
    cases hresult
  · rw [hstopped, ho.named] at hresult
    exact (Option.some.inj hresult).symm

/-! ## §3. What one move may change. -/

/-- Passing on never leads back. -/
theorem rank_passes {p p' : Phase} (h : p.Passes p') : p'.rank ≤ p.rank := by
  cases h <;> simp [Phase.rank]

theorem rank_passage (h : s.Passage s') : s'.phase.rank ≤ s.phase.rank := by
  cases h with
  | passing child phase h => exact rank_passes h
  | broken b hp | stored n hp | announced hp | exited cause hp =>
      rw [hp]
      simp [Phase.rank]

/-- **What a request to stop has to do with a move**: it is not taken back, the owner never goes
back, and a service that was asked to stop goes on only to its end, or to where the request can be
heeded at once. -/
structure Persists (sc : Scene) (s s' : Service) : Prop where
  asked : s.stopRequested = true → s'.stopRequested = true
  onward : s'.phase.rank ≤ s.phase.rank
  lifecycle : s.stopRequested = true → s'.lifecycle ≠ s.lifecycle →
    s'.lifecycle = .exited ∨
      s'.lifecycle = .running ∧ s.phase = .announcing ∧ ∀ now, (s'.heed? now).isSome = true

theorem persists_of_eq (hl : s'.lifecycle = s.lifecycle) (hrank : s'.phase.rank ≤ s.phase.rank)
    (ha : s.stopRequested = true → s'.stopRequested = true) : sc.Persists s s' :=
  ⟨ha, hrank, fun _ hne => absurd hl hne⟩

theorem Ordered.persists (h : sc.Ordered id s) (hstep : sc.Step id s sc' s') :
    sc.Persists s s' := by
  have hc := h.consistent
  cases hstep with
  | still | come => exact persists_of_eq rfl (Nat.le_refl _) fun h => h
  | go caller call hcall =>
      have hk := h.knows call (List.mem_of_getElem? hcall)
      have hkeeps := hk.keeps_effect hc
      refine ⟨hkeeps.asked, ?_, ?_⟩
      · unfold Call.effect
        split
        · exact Nat.le_refl _
        · rw [hc.phase_of_idle hk]
          simp [Phase.rank]
        all_goals exact Nat.le_refl _
      · intro ha hne
        revert hne
        unfold Call.effect
        split <;> intro hne
        · exact absurd rfl hne
        · rw [h.unasked hk] at ha
          cases ha
        all_goals exact absurd rfl hne
  | own f _ hpass =>
      refine ⟨fun ha => hpass.stopRequested.trans ha, rank_passage hpass, fun ha hne => ?_⟩
      cases hpass with
      | passing | broken | stored => exact absurd rfl hne
      | announced hp =>
          exact .inr ⟨rfl, hp, fun now => Service.isSome_heed?_supervising ha rfl⟩
      | exited cause hp => exact .inl rfl
  | aside f _ haside =>
      refine persists_of_eq ?_ ?_ fun ha => haside.stopRequested.trans ha
      · cases haside with
        | process => rfl
        | heeded hheed =>
            obtain ⟨-, ⟨n, b, -, rfl⟩ | ⟨-, rfl⟩⟩ := Service.heed?_eq_some hheed <;> rfl
      · cases haside with
        | process => exact Nat.le_refl _
        | heeded hheed => exact rank_passage (Service.passage_heed hheed)

/-! ## §4. What becomes of those who ask. -/

/-- A call that does not wait for the lock goes on. -/
theorem go_eq {i : Nat} {call : Call} (hcall : sc.callers[i]? = some call)
    (hent : call.isEntering = false) :
    sc.go id i =
      { sc with
        fleet := (call.step id sc.fleet).2
        callers := sc.callers.set i (call.step id sc.fleet).1
        written := sc.written ++ call.written (call.step id sc.fleet).1 } := by
  unfold go
  rw [hcall]
  dsimp only
  rw [hent, Bool.false_and, if_neg Bool.false_ne_true]

/-- Where it stands then. -/
theorem getElem?_go {i : Nat} {call : Call} (hcall : sc.callers[i]? = some call)
    (hent : call.isEntering = false) :
    (sc.go id i).callers[i]? = some (call.step id sc.fleet).1 := by
  rw [go_eq hcall hent]
  exact List.getElem?_set_self (List.getElem?_eq_some_iff.1 hcall).1

/-- **What becomes of requests to stop a service**, and of those who wait for its end. -/
structure Heeds (id : String) (sc : Scene) (s : Service) : Prop where
  /-- Looking whether there is anything to stop changes nothing, and decides. -/
  check : ∀ i call, sc.callers[i]? = some call → call.stopping? = some .checking →
    (sc.go id i).fleet = sc.fleet ∧ ∃ call', (sc.go id i).callers[i]? = some call' ∧
      (call'.stopping? = some .asking ↔ s.isActive = true)
  /-- Asking sets the flag, -/
  ask : ∀ i call, sc.callers[i]? = some call → call.stopping? = some .asking →
    (sc.go id i).fleet.service? id = some s.requestStop
  /-- and asking again changes nothing. -/
  again : s.stopRequested = true → ∀ i call, sc.callers[i]? = some call →
    call.stopping? = some .asking → ∀ x, (sc.go id i).fleet.service? x = sc.fleet.service? x
  /-- Waiting ends just when the service is idle or has exited. -/
  wait : ∀ i, sc.callers[i]? = some (.wait .waiting) → sc.go id i =
    { sc with callers := sc.callers.set i
                (.wait (if s.isSettled then .finished s.lifecycle else .waiting)) }

/-- Both ways to ask are the same. -/
theorem step_asking {call : Call} (hstop : call.stopping? = some .asking) (f : Fleet) :
    (call.step id f).2 = f.modify id Service.requestStop := by
  unfold Call.stopping? at hstop
  split at hstop
  · cases hstop
    rfl
  · cases hstop
    rfl
  · cases hstop

/-- Both ways to look are the same. -/
theorem step_checking {call : Call} (hstop : call.stopping? = some .checking) (id : String)
    (f : Fleet) :
    (call.step id f).2 = f ∧
      ((call.step id f).1.stopping? = some .asking ↔ f.isActive id = true) := by
  unfold Call.stopping? at hstop
  split at hstop
  · cases hstop
    unfold Call.step StopCall.step
    by_cases ha : f.isActive id = true
    · simp [ha, Call.stopping?]
    · simp [ha, Call.stopping?]
  · cases hstop
    unfold Call.step RemoveCall.step StopCall.step
    by_cases ha : f.isActive id = true
    · simp [ha, Call.stopping?]
    · simp [ha, Call.stopping?]
  · cases hstop

/-- Nobody needs the lock to ask. -/
theorem not_isEntering_of_stopping {call : Call} {stop : StopCall}
    (hstop : call.stopping? = some stop) : call.isEntering = false := by
  unfold Call.stopping? at hstop
  split at hstop
  · rfl
  · rfl
  · cases hstop

theorem Ordered.heeds (h : sc.Ordered id s) : sc.Heeds id s where
  check i call hcall hstop := by
    have hent := not_isEntering_of_stopping hstop
    obtain ⟨hfleet, hasking⟩ := step_checking hstop id sc.fleet
    refine ⟨?_, _, getElem?_go hcall hent, ?_⟩
    · rw [go_eq hcall hent]
      exact hfleet
    · rw [hasking]
      unfold Fleet.isActive
      rw [h.here]
      exact .rfl
  ask i call hcall hstop := by
    rw [go_eq hcall (not_isEntering_of_stopping hstop)]
    show (call.step id sc.fleet).2.service? id = _
    rw [step_asking hstop, Fleet.service?_modify_self h.here]
  again ha i call hcall hstop x := by
    rw [go_eq hcall (not_isEntering_of_stopping hstop)]
    show (call.step id sc.fleet).2.service? x = _
    rw [step_asking hstop, Fleet.service?_modify]
    split
    · next hx =>
      rw [hx, h.here, Option.map_some, Service.requestStop_of_asked ha]
    · rfl
  wait i hcall := by
    rw [go_eq hcall rfl]
    simp [Call.step, WaitCall.step, h.here, Call.written]

/-! ## §5. What is so at any time. -/

/-- **What is so of requests to stop a service at any time.** -/
structure Alert (id : String) (sc : Scene) (s : Service) : Prop where
  here : sc.fleet.service? id = some s
  /-- Who was told that the service is asked to stop can rely on it. -/
  asked : .stop (.finished true) ∈ sc.callers → s.stopRequested = true
  /-- An idle service was not asked to stop, and nobody is about to ask it. -/
  idle : s.lifecycle = .idle →
    s.stopRequested = false ∧ ∀ call ∈ sc.callers, call.stopping? ≠ some .asking
  /-- The owner minds the request, unless it broke off or its launch will. -/
  minds : s.isActive = true → s.stopRequested = true → ∀ host : Host, s.Minds host ↔
    s.phase ≠ .broken ∧ (s.phase = .launching → host.entries?.isSome = true)
  /-- Waiting has ended only when the service was idle or had exited. -/
  waited : ∀ seen, .wait (.finished seen) ∈ sc.callers → seen = .idle ∨ seen = .exited

theorem Ordered.alert (h : sc.Ordered id s) : sc.Alert id s where
  here := h.here
  asked hmem := h.knows _ hmem
  idle hi :=
    ⟨h.unasked hi, fun call hmem hstop =>
      Call.Knows.not_idle_of_asking (h.knows call hmem) hstop hi⟩
  minds hactive ha _ := Service.minds_iff h.consistent hactive ha
  waited _ hmem := h.knows _ hmem

end Scene

/-! ## §6. The end is within reach. -/

/-- How many steps a call has still to take until it leaves the lock. -/
def Call.stepsInside : Call → Nat
  | .setVar (.writing ..) | .var (.copying _) | .info (.copyingMethods ..) | .start .copying => 1
  | .setVar (.checking ..) | .info (.copyingResponse ..) | .start .publishing => 2
  | .info (.copyingRequest _) | .start .checking => 3
  | .info .looking => 4
  | _ => 0

theorem Call.stepsInside_pos {call : Call} : 0 < call.stepsInside ↔ call.isInside = true := by
  cases call with
  | setVar call | var call | info call | start call =>
      cases call <;> simp [Call.stepsInside, Call.isInside]
  | stop call | remove call | wait call => simp [Call.stepsInside, Call.isInside]

/-- Who has the lock comes closer to leaving it with every step. -/
theorem Call.stepsInside_step {call : Call} {id : String} {f : Fleet} {s : Service}
    (hs : f.service? id = some s) (hin : call.isInside = true) :
    (call.step id f).1.stepsInside < call.stepsInside := by
  cases call with
  | stop call | remove call | wait call => cases hin
  | var call =>
      cases call with
      | copying key => simp [Call.step, VarCall.step, Call.stepsInside]
      | entering | finished => cases hin
  | setVar call =>
      cases call with
      | entering | finished => cases hin
      | writing key value => simp [Call.step, SetVarCall.step, Call.stepsInside]
      | checking key value =>
          unfold Call.step SetVarCall.step
          dsimp only
          rw [hs]
          dsimp only
          split <;> simp [Call.stepsInside]
  | info call =>
      cases call with
      | entering | finished => cases hin
      | looking | copyingRequest | copyingResponse | copyingMethods =>
          simp [Call.step, InfoCall.step, hs, Call.stepsInside]
  | start call =>
      cases call with
      | entering | awaiting | refused | finished => cases hin
      | publishing => simp [Call.step, StartCall.step, Call.stepsInside]
      | copying => simp [Call.step, StartCall.step, hs, Call.stepsInside]
      | checking =>
          unfold Call.step StartCall.step
          dsimp only
          rw [hs]
          dsimp only
          split <;> simp [Call.stepsInside]

/-- Who has the lock does not wait for it. -/
theorem Call.isEntering_of_isInside {call : Call} (hin : call.isInside = true) :
    call.isEntering = false := by
  unfold Call.isEntering
  split <;> first | rfl | cases hin

/-- Who has the lock of a service that was started only looks at it. -/
theorem Call.Knows.effect_eq {call : Call} {s : Service} (h : call.Knows s)
    (hin : call.isInside = true) (hi : s.lifecycle ≠ .idle) : call.effect s = s := by
  unfold Call.effect
  split
  · exact absurd h hi
  · exact absurd h hi
  · cases hin
  · cases hin
  · cases hin
  · rfl

/-- Whether the owner has begun and has not broken off. -/
def Phase.isUnderWay : Phase → Bool
  | .none | .broken => false
  | _ => true

/-- So it is for every active service whose owner has not broken off. -/
theorem Consistent.underWay {s : Service} (hc : s.Consistent) (hactive : s.isActive = true)
    (hbroken : s.phase ≠ .broken) : s.phase.isUnderWay = true := by
  obtain ⟨hidle, -⟩ := isActive_iff.1 hactive
  cases hp : s.phase with
  | none => exact absurd (hc.of_phase hp).1 hidle
  | broken => exact absurd hp hbroken
  | _ => rfl

section

variable {s s' : Service} {host : Host} {now : Nat} {cause : Option Fault} {deadline : Nat}

/-- A launch on a host whose variables are text leads on. -/
theorem launch_underWay (hhost : host.entries?.isSome = true) (s : Service) (now : Nat) :
    (s.launch host now).phase.isUnderWay = true ∧ (s.launch host now).phase.rank < 9 ∧
      (s.launch host now).stopRequested = s.stopRequested := by
  obtain ⟨entries, hentries⟩ := Option.isSome_iff_exists.1 hhost
  unfold launch
  rw [hentries]
  dsimp only
  split <;> exact ⟨rfl, by simp [Phase.rank], rfl⟩

/-- **A turn of the owner brings a service closer to its end**: it goes on, or it heeds a request to
stop. -/
structure Nearer (host : Host) (now : Nat) (s s' : Service) : Prop where
  turn : s.advance? host now = some s' ∨ s.heed? now = some s'
  asked : s'.stopRequested = s.stopRequested
  underWay : s'.phase.isUnderWay = true
  rank : s'.phase.rank < s.phase.rank

/-- Where the process that is to leave is gone, the owner goes on. -/
theorem nearer_of_gone (hp : s.phase = .ending cause deadline) (hgone : s.childGone = true)
    (host : Host) (now : Nat) : Nearer host now s { s with phase := .finishing cause } where
  turn := by
    refine .inl ?_
    unfold advance?
    rw [hp]
    dsimp only
    rw [if_pos hgone]
  asked := rfl
  underWay := rfl
  rank := by
    rw [hp]
    simp [Phase.rank]

/-- A process that is to leave is terminated when its time is over, -/
theorem advance?_of_due (hp : s.phase = .ending cause deadline) (hstays : s.childGone = false)
    (hdue : deadline ≤ now) : s.advance? host now = some (s.withChild Host.Child.exited) := by
  unfold advance?
  rw [hp]
  dsimp only
  rw [hstays, if_neg Bool.false_ne_true, if_pos hdue]

/-- and it is gone then. -/
theorem childGone_exited (s : Service) : (s.withChild Host.Child.exited).childGone = true := by
  unfold childGone withChild
  cases s.child <;> rfl

/-- **Wherever the owner of a service stands that was asked to stop**, there is such a turn, unless
the service is to leave its registry or the process has time left to leave. -/
theorem exists_nearer_or (ha : s.stopRequested = true) (hway : s.phase.isUnderWay = true)
    (hfin : s.phase ≠ .finished) (hhost : host.entries?.isSome = true) (now : Nat) :
    (∃ s', Nearer host now s s') ∨ (∃ cause, s.phase = .deregistering cause) ∨
      ∃ cause deadline, s.phase = .ending cause deadline ∧ s.childGone = false := by
  cases hp : s.phase with
  | none | broken =>
      rw [hp] at hway
      cases hway
  | finished => exact absurd hp hfin
  | deregistering cause => exact .inr (.inl ⟨cause, rfl⟩)
  | ending cause deadline =>
      cases hg : s.childGone with
      | true => exact .inl ⟨_, nearer_of_gone hp hg host now⟩
      | false => exact .inr (.inr ⟨cause, deadline, rfl, rfl⟩)
  | launching =>
      obtain ⟨hway', hlt, hasked⟩ := launch_underWay hhost s now
      exact .inl ⟨_, .inl (advance?_of_launching hp), hasked, hway', by rw [hp]; exact hlt⟩
  | handshaking n b =>
      exact .inl ⟨_, .inr (heed?_handshaking ha hp), rfl, rfl,
        by rw [hp]; simp [Phase.rank, kill]⟩
  | supervising =>
      exact .inl ⟨_, .inr (heed?_supervising ha hp), rfl, rfl,
        by rw [hp]; simp [Phase.rank, release]⟩
  | answering n =>
      have hadv : s.advance? host now = some { s with
          response := n.response
          methods := n.methods.map (Method.ofExposed s.id)
          phase := .announcing } := by
        unfold advance?
        rw [hp]
      exact .inl ⟨_, .inl hadv, rfl, rfl, by rw [hp]; simp [Phase.rank]⟩
  | announcing =>
      have hadv : s.advance? host now = some { s with
          lifecycle := .running, outcome := some (.ok ()), phase := .supervising } := by
        unfold advance?
        rw [hp]
      exact .inl ⟨_, .inl hadv, rfl, rfl, by rw [hp]; simp [Phase.rank]⟩
  | finishing cause =>
      have hadv : s.advance? host now = some { s with
          phase := if s.removeOnStop then .deregistering cause else .exiting cause } := by
        unfold advance?
        rw [hp]
      refine .inl ⟨_, .inl hadv, rfl, ?_, ?_⟩
      · cases s.removeOnStop <;> rfl
      · rw [hp]
        cases s.removeOnStop <;> simp [Phase.rank]
  | exiting cause =>
      obtain ⟨result, hadv⟩ : ∃ result, s.advance? host now =
          some { s with lifecycle := .exited, outcome := result, phase := .finished } := by
        unfold advance?
        rw [hp]
        exact ⟨_, rfl⟩
      exact .inl ⟨_, .inl hadv, rfl, rfl, by rw [hp]; simp [Phase.rank]⟩

end

namespace Scene

/-- What goes on by itself in a scene: the calls that are there, and the owner, as time passes. -/
inductive Inward (id : String) (host : Host) : Move → Prop where
  | go (caller : Nat) : Inward id host (.go caller)
  | owner : Inward id host (.act host (.owner id))
  | heed : Inward id host (.act host (.heed id))
  | elapse (ms : Nat) : Inward id host (.act host (.elapse ms))

/-- Whether a scene may become another one by itself. -/
def Leads (id : String) (host : Host) (sc sc' : Scene) : Prop :=
  ∃ moves, (∀ mv ∈ moves, Inward id host mv) ∧ sc' = sc.run id moves

variable {id : String} {sc sc' sc'' : Scene} {s s' : Service} {host : Host}

theorem Leads.refl (sc : Scene) : Leads id host sc sc := ⟨[], nofun, rfl⟩

theorem Leads.single {mv : Move} (h : Inward id host mv) : Leads id host sc (sc.move id mv) :=
  ⟨[mv], fun _ hmem => List.mem_singleton.1 hmem ▸ h, rfl⟩

theorem Leads.trans (h : Leads id host sc sc') (h' : Leads id host sc' sc'') :
    Leads id host sc sc'' := by
  obtain ⟨moves, hall, rfl⟩ := h
  obtain ⟨moves', hall', rfl⟩ := h'
  refine ⟨moves ++ moves', fun mv hmem => ?_, ?_⟩
  · rcases List.mem_append.1 hmem with hmem | hmem
    · exact hall mv hmem
    · exact hall' mv hmem
  · unfold run
    rw [List.foldl_append]

/-- Who has the lock of a service that was started goes on and leaves it as it is. -/
theorem Ordered.go_inside (h : sc.Ordered id s) (hi : s.lifecycle ≠ .idle) {i : Nat} {call : Call}
    (hcall : sc.callers[i]? = some call) (hin : call.isInside = true) :
    (sc.go id i).Ordered id s := by
  have hent := Call.isEntering_of_isInside hin
  have heffect := (h.knows call (List.mem_of_getElem? hcall)).effect_eq hin hi
  have hstep : sc.Step id s _ (call.effect s) :=
    .go i call hcall fun h => by rw [hent] at h; cases h
  rw [heffect] at hstep
  rw [go_eq hcall hent]
  refine h.step hstep ?_
  show (call.step id sc.fleet).2.service? id = some s
  rw [service?_call, h.here, Option.map_some, heffect]

/-- It comes closer to leaving the lock, and nobody else has it. -/
theorem Ordered.stepsInside_go (h : sc.Ordered id s) {n i : Nat} {call : Call}
    (hn : ∀ c ∈ sc.callers, c.stepsInside ≤ n + 1) (hcall : sc.callers[i]? = some call)
    (hin : call.isInside = true) : ∀ c ∈ (sc.go id i).callers, c.stepsInside ≤ n := by
  rw [go_eq hcall (Call.isEntering_of_isInside hin)]
  intro c hc
  obtain ⟨j, hj⟩ := List.mem_iff_getElem?.1 hc
  rw [List.getElem?_set] at hj
  by_cases hij : i = j
  · rw [if_pos hij, if_pos (List.getElem?_eq_some_iff.1 hcall).1] at hj
    cases hj
    have hlt := Call.stepsInside_step h.here hin
    have hle := hn call (List.mem_of_getElem? hcall)
    omega
  · rw [if_neg hij] at hj
    have hout : ¬ c.isInside = true := fun hin' => hij (h.alone i j call c hcall hj hin hin')
    have hzero := mt Call.stepsInside_pos.1 hout
    omega

/-- **The lock becomes free**: whoever has it goes on and leaves it. -/
theorem Ordered.exists_free (h : sc.Ordered id s) (hi : s.lifecycle ≠ .idle) (host : Host) :
    ∃ sc', Leads id host sc sc' ∧ sc'.Ordered id s ∧ sc'.isFree = true := by
  have hbound : ∃ n, ∀ call ∈ sc.callers, call.stepsInside ≤ n :=
    ⟨4, fun call _ => by unfold Call.stepsInside; split <;> omega⟩
  obtain ⟨n, hn⟩ := hbound
  induction n generalizing sc with
  | zero =>
      refine ⟨sc, .refl sc, h, List.all_eq_true.2 fun call hmem => ?_⟩
      have hnot := mt Call.stepsInside_pos.2 (Nat.not_lt.2 (hn call hmem))
      simpa using hnot
  | succ n ih =>
      cases hfree : sc.isFree with
      | true => exact ⟨sc, .refl sc, h, hfree⟩
      | false =>
          obtain ⟨call, hmem, hin⟩ : ∃ call ∈ sc.callers, call.isInside = true := by
            unfold isFree at hfree
            simpa using hfree
          obtain ⟨i, hcall⟩ := List.mem_iff_getElem?.1 hmem
          obtain ⟨sc', hleads, ho, hfree'⟩ :=
            ih (h.go_inside hi hcall hin) (h.stepsInside_go hn hcall hin)
          exact ⟨sc', (Leads.single (.go i)).trans hleads, ho, hfree'⟩

/-- Where the lock is free the owner may go on. -/
theorem mayGoOn_of_isFree (hfree : sc.isFree = true) (s : Service) : sc.mayGoOn s = true := by
  unfold mayGoOn
  split
  · refine List.all_eq_true.2 fun call hmem => ?_
    have hout := isInside_of_isFree hfree hmem
    unfold Call.isHandingOver
    split
    · cases hout
    · rfl
  · exact hfree
  · rfl

/-- Past the answer the owner may go on whoever has the lock. -/
theorem mayGoOn_of_rank (h : s.phase.rank ≤ 6) : sc.mayGoOn s = true := by
  unfold mayGoOn
  split
  · next hp => simp [hp, Phase.rank] at h
  · next n hp => simp [hp, Phase.rank] at h
  · rfl

/-- The owner goes on to what its step makes of the service. -/
theorem Ordered.own (h : sc.Ordered id s) (hmay : sc.mayGoOn s = true) {f : Fleet}
    (hf : sc.fleet.step? host (.owner id) = some f) (hs' : f.service? id = some s') :
    (sc.move id (.act host (.owner id))).Ordered id s' := by
  have hmove : sc.move id (.act host (.owner id)) = sc.own id host := if_pos rfl
  obtain ⟨s'', hs'', hstep⟩ := step_own h.here host
  have ho := h.step hstep hs''
  unfold Scene.own at hs''
  rw [h.here, hf] at hs''
  dsimp only at hs''
  rw [if_pos hmay] at hs''
  obtain rfl : s' = s'' := Option.some.inj (hs'.symm.trans hs'')
  rw [hmove]
  exact ho

theorem Ordered.advance (h : sc.Ordered id s) (hmay : sc.mayGoOn s = true)
    (hadv : s.advance? host sc.fleet.clock = some s') :
    (sc.move id (.act host (.owner id))).Ordered id s' :=
  h.own hmay (Fleet.owner_of_advance h.here hadv) (Fleet.service?_modify_self h.here _)

theorem Ordered.deregister (h : sc.Ordered id s) {cause : Option Fault}
    (hp : s.phase = .deregistering cause) (host : Host) :
    (sc.move id (.act host (.owner id))).Ordered id { s with phase := .exiting cause } := by
  have hhere := (Fleet.service?_deregister sc.fleet id).trans h.here
  exact h.own (mayGoOn_of_rank (by simp [hp, Phase.rank]))
    (Fleet.owner_of_deregistering h.here hp host) (Fleet.service?_modify_self hhere _)

/-- What else happens by itself happens. -/
theorem Ordered.aside (h : sc.Ordered id s) {action : Action} (ha : action ≠ .owner id) {f : Fleet}
    (hf : sc.fleet.step? host action = some f) (hs' : f.service? id = some s') :
    (sc.move id (.act host action)).Ordered id s' ∧
      (sc.move id (.act host action)).fleet = f := by
  have hmove : sc.move id (.act host action) =
      { sc with fleet := (sc.fleet.step? host action).getD sc.fleet } := if_neg ha
  rw [hf] at hmove
  obtain ⟨s'', hs'', hstep⟩ := step_move h.here (.act host action)
  have ho := h.step hstep hs''
  rw [hmove] at hs'' ho ⊢
  obtain rfl : s' = s'' := Option.some.inj (hs'.symm.trans hs'')
  exact ⟨ho, rfl⟩

theorem Ordered.heed (h : sc.Ordered id s) (hheed : s.heed? sc.fleet.clock = some s')
    (host : Host) : (sc.move id (.act host (.heed id))).Ordered id s' := by
  have hne : Action.heed id ≠ .owner id := nofun
  exact (h.aside hne (Fleet.heed_of_heed h.here hheed host)
    (Fleet.service?_modify_self h.here _)).1

theorem Ordered.elapse (h : sc.Ordered id s) (host : Host) (ms : Nat) :
    (sc.move id (.act host (.elapse ms))).Ordered id s ∧
      (sc.move id (.act host (.elapse ms))).fleet.clock = sc.fleet.clock + ms := by
  have hne : Action.elapse ms ≠ .owner id := nofun
  have hf : sc.fleet.step? host (.elapse ms) =
      some { sc.fleet with clock := sc.fleet.clock + ms } := rfl
  obtain ⟨ho, hfleet⟩ := h.aside hne hf h.here
  exact ⟨ho, by rw [hfleet]⟩

/-- **A scene comes closer to the end** of its service: it may become another one by itself, in
which the owner has less to go, and the request to stop still stands. -/
def Nears (id : String) (host : Host) (sc : Scene) (s : Service) : Prop :=
  ∃ sc' s', Leads id host sc sc' ∧ sc'.Ordered id s' ∧ s'.stopRequested = s.stopRequested ∧
    s'.phase.isUnderWay = true ∧ s'.phase.rank < s.phase.rank

/-- A turn of the owner brings it closer. -/
theorem Ordered.nears (h : sc.Ordered id s) (hmay : sc.mayGoOn s = true)
    (hn : Service.Nearer host sc.fleet.clock s s') : Nears id host sc s := by
  rcases hn.turn with hadv | hheed
  · exact ⟨_, s', .single .owner, h.advance hmay hadv, hn.asked, hn.underWay, hn.rank⟩
  · exact ⟨_, s', .single .heed, h.heed hheed host, hn.asked, hn.underWay, hn.rank⟩

/-- So does what leads to it. -/
theorem Nears.of_leads (hl : Leads id host sc sc') (hn : Nears id host sc' s) :
    Nears id host sc s := by
  obtain ⟨sc'', s'', hl', ho, hrest⟩ := hn
  exact ⟨sc'', s'', hl.trans hl', ho, hrest⟩

/-- A process that is to leave is gone when its time is over. -/
theorem Ordered.nears_ending (h : sc.Ordered id s) {cause : Option Fault} {deadline : Nat}
    (hp : s.phase = .ending cause deadline) (hstays : s.childGone = false) (host : Host) :
    Nears id host sc s := by
  have hmay : ∀ {sc' : Scene} {s' : Service}, s'.phase = .ending cause deadline →
      sc'.mayGoOn s' = true := fun hp' => mayGoOn_of_rank (by simp [hp', Phase.rank])
  -- time passes until it is terminated
  obtain ⟨ho, hclock⟩ := h.elapse host deadline
  have hadv : s.advance? host _ = some (s.withChild Host.Child.exited) :=
    Service.advance?_of_due hp hstays (hclock ▸ Nat.le_add_left deadline _)
  have hterminated := ho.advance (hmay hp) hadv
  have hp' : (s.withChild Host.Child.exited).phase = .ending cause deadline := hp
  have hnears : Nears id host _ (s.withChild Host.Child.exited) :=
    hterminated.nears (hmay hp') (Service.nearer_of_gone hp' (Service.childGone_exited s) host _)
  exact .of_leads ((Leads.single (.elapse deadline)).trans (.single .owner)) hnears

/-- **Wherever the owner of a service stands that was asked to stop, it may come closer to the
end.** -/
theorem Ordered.exists_nearer (h : sc.Ordered id s) (ha : s.stopRequested = true)
    (hway : s.phase.isUnderWay = true) (hfin : s.phase ≠ .finished)
    (hhost : host.entries?.isSome = true) : Nears id host sc s := by
  have hidle : s.lifecycle ≠ .idle := by
    intro hi
    rw [h.consistent.phase_of_idle hi] at hway
    cases hway
  -- whoever has the lock leaves it first, for the owner may need it
  obtain ⟨sc', hl, ho, hfree⟩ := h.exists_free hidle host
  refine .of_leads hl ?_
  obtain ⟨s', hn⟩ | ⟨cause, hp⟩ | ⟨cause, deadline, hp, hstays⟩ :=
    Service.exists_nearer_or ha hway hfin hhost sc'.fleet.clock
  · exact ho.nears (mayGoOn_of_isFree hfree s) hn
  · exact ⟨_, _, .single .owner, ho.deregister hp host, rfl, rfl,
      by rw [hp]; simp [Phase.rank]⟩
  · exact ho.nears_ending hp hstays host

/-- **A service that was asked to stop may come to its end** by itself. -/
theorem Ordered.exists_exited (h : sc.Ordered id s) (hactive : s.isActive = true)
    (ha : s.stopRequested = true) (hbroken : s.phase ≠ .broken)
    (hhost : host.entries?.isSome = true) :
    ∃ sc' s', Leads id host sc sc' ∧ sc'.Ordered id s' ∧ s'.lifecycle = .exited := by
  -- by induction on how far the owner still has to go
  have hrun : ∀ n, ∀ sc : Scene, ∀ s : Service, sc.Ordered id s → s.stopRequested = true →
      s.phase.isUnderWay = true → s.phase.rank < n →
      ∃ sc' s', Leads id host sc sc' ∧ sc'.Ordered id s' ∧ s'.lifecycle = .exited := by
    intro n
    induction n with
    | zero => exact fun sc s _ _ _ hlt => absurd hlt (Nat.not_lt_zero _)
    | succ n ih =>
        intro sc s h ha hway hlt
        cases hp : s.phase with
        | finished => exact ⟨sc, s, .refl sc, h, (h.consistent.of_phase hp).1⟩
        | _ =>
            obtain ⟨sc', s', hl, ho, hasked, hway', hlt'⟩ :=
              h.exists_nearer ha hway (by rw [hp]; exact nofun) hhost
            obtain ⟨sc'', s'', hl', hrest⟩ :=
              ih sc' s' ho (hasked.trans ha) hway' (by omega)
            exact ⟨sc'', s'', hl.trans hl', hrest⟩
  exact hrun _ sc s h ha (h.consistent.underWay hactive hbroken) (Nat.lt_succ_self _)

/-! ## §7. What a start comes to that heeds a request. -/

/-- **What comes of a start that heeds a request to stop** before its handshake is over: whatever
happens later, the service never runs, and who has waited for the start is told that it was
stopped. -/
theorem Ordered.loses (h : sc.Ordered id s) (ha : s.stopRequested = true) {n : Negotiation}
    {b : Bytes.LineBuffer} (hp : s.phase = .handshaking n b) (host : Host) (later : List Move) :
    ∃ s', ((sc.move id (.act host (.heed id))).run id later).fleet.service? id = some s' ∧
      s'.lifecycle ≠ .running ∧ ∀ request result,
        .start (.finished request result) ∈
          ((sc.move id (.act host (.heed id))).run id later).callers →
        result = .error (.fault (.stopped id)) := by
  have hheed : s.heed? sc.fleet.clock = some (s.kill (.stopped s.id)) :=
    Service.heed?_handshaking ha hp
  have hlost := Service.isLost_of_heed h.consistent hp hheed
  obtain ⟨s', ho, hlost'⟩ := IsLost.run hlost (h.heed hheed host) later
  exact ⟨s', ho.here, hlost'.not_running ho.consistent,
    fun request result hmem => ho.result_of_isLost hlost' hmem⟩

end Scene

end Failover.Service
