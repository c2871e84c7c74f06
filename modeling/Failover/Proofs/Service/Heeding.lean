/-
  Failover.Proofs.Service.Heeding
  ───────────────────────────────
  **Where requests to stop are heeded, and where one is lost.**  A request
  sets a flag that is never cleared, and what becomes of it is decided by
  the owner of the process:

      launching ─┬─ the variables are text ──▶  ⚑ ──▶ … ──▶ exited
                 └─ they are not ──▶ broken off, starting for ever

  Past the launch every owner heeds the request wherever it waits.  But a
  request that was made between the begin of the start and a launch that
  breaks off is heeded by nobody, although the service counts as starting
  and the flag is set.

  Main statement: `stop_heeded_iff`.
-/
import Failover.Proofs.Service.Settlement

namespace Failover.Service.Scene

open Handshake (Negotiation)

variable {id : String} {sc : Scene} {s : Service} {host : Host}

/-! ## §1. Where requests are heeded. -/

/-- **A request to stop is heeded** on a host, if there is one: the owner of the active service minds
it, and the service may come to its end by itself. -/
def Heedful (id : String) (host : Host) (sc : Scene) : Prop :=
  ∀ s, sc.fleet.service? id = some s → s.isActive = true → s.stopRequested = true →
    s.Minds host ∧ ∃ later, (∀ mv ∈ later, Inward id host mv) ∧
      ∃ s', (sc.run id later).fleet.service? id = some s' ∧ s'.lifecycle = .exited

/-- So it is where the owner has not broken off and the variables are text. -/
theorem Ordered.heedful (h : sc.Ordered id s) (hb : s.phase ≠ .broken)
    (hhost : host.entries?.isSome = true) : sc.Heedful id host := by
  intro s' hs' hactive ha
  obtain rfl : s = s' := Option.some.inj (h.here.symm.trans hs')
  refine ⟨(Service.minds_iff h.consistent hactive ha).2 ⟨hb, fun _ => hhost⟩, ?_⟩
  obtain ⟨_, s', ⟨later, hall, rfl⟩, ho, hexited⟩ := h.exists_exited hactive ha hb hhost
  exact ⟨later, hall, s', ho.here, hexited⟩

/-! ## §2. A request that is lost. -/

/-- Somebody asks for a service to be stopped as soon as it counts as starting, and before its
program is launched. -/
def stoppedEarly (id : String) (host : Host) : List Move :=
  .come .start :: List.replicate 4 (.go 0) ++ [.come .stop, .go 1, .go 1] ++
    [.act host (.owner id)]

/-- **Where the variables are not all text** the launch breaks off, and the service counts as
starting and was asked to stop. -/
theorem broken_of_stoppedEarly {f : Fleet} {name home : String} {program : Program}
    {options : Options} (hs : f.service? id = some (.create id name program options home))
    (hnone : host.entries? = none) :
    ∃ s, ((opening f).run id (stoppedEarly id host)).fleet.service? id = some s ∧
      s.isActive = true ∧ s.stopRequested = true ∧ s.phase = .broken := by
  simp [stoppedEarly, opening, run, move, go, own, Demand.call, Call.isEntering, Call.step,
    StartCall.step, StopCall.step, isFree, Call.isInside, Call.written, hs, Service.begin,
    Service.create, Service.requestStop, Service.isActive, Lifecycle.isActive, Fleet.isActive,
    Fleet.service?_modify, Fleet.step?, Fleet.ownerStep?, Service.advance?, Service.launch, hnone,
    mayGoOn, Call.isHandingOver, List.replicate]

/-! ## §3. All requests. -/

/-- **Requests to stop are heeded** in every run on a host exactly if the variables of that host are
all text.  In every run at all a request is there as soon as somebody has asked who found the service
active, and it is never taken back; asking changes nothing for a service that is not active, or was
asked before; the service goes on only to its end, or to where the request is heeded at once; a start
that heeds it has been stopped; and who waits is answered just when the service is idle or has exited.
The owner minds the request unless it broke off or its launch will; it broke off only if it went on
where the variables are not all text, and then the service is starting for ever. -/
theorem stop_heeded_iff {f : Fleet} {name home : String} {program : Program} {options : Options}
    (hs : f.service? id = some (.create id name program options home)) (host : Host) :
    (host.entries?.isSome = true ↔ ∀ moves, (∀ mv ∈ moves, mv.IsOn host) →
      ((opening f).run id moves).Heedful id host) ∧
    ∀ moves,
      let sc := (opening f).run id moves
      ∃ s, sc.Alert id s ∧ sc.Heeds id s ∧
        (∀ mv, ∃ s', (sc.move id mv).Alert id s' ∧ sc.Persists s s') ∧
        (∀ host n b, s.stopRequested = true → s.phase = .handshaking n b → ∀ later,
          ∃ s', ((sc.move id (.act host (.heed id))).run id later).fleet.service? id = some s' ∧
            s'.lifecycle ≠ .running ∧ ∀ request result,
              .start (.finished request result) ∈
                ((sc.move id (.act host (.heed id))).run id later).callers →
              result = .error (.fault (.stopped id))) ∧
        (s.phase ≠ .broken → ∀ host : Host, host.entries?.isSome = true → sc.Heedful id host) ∧
        (s.phase = .broken → sc.Hung id ∧
          ∃ host, .act host (.owner id) ∈ moves ∧ host.entries? = none) := by
  have hopening := ordered_opening hs
  refine ⟨⟨fun hhost moves hmoves => ?_, fun hall => ?_⟩, fun moves => ?_⟩
  · obtain ⟨s, h⟩ := ordered_run hs moves
    exact h.heedful (hopening.unbroken_run nofun hhost hmoves h.here) hhost
  · refine Option.isSome_iff_ne_none.2 fun hnone => ?_
    obtain ⟨s, hs', hactive, ha, hp⟩ := broken_of_stoppedEarly hs hnone
    have hheedful := hall (stoppedEarly id host) (by simp [stoppedEarly, Move.IsOn])
    exact Service.not_minds_of_broken hp (hheedful s hs' hactive ha).1
  · obtain ⟨s, h⟩ := ordered_run hs moves
    refine ⟨s, h.alert, h.heeds, fun mv => ?_, fun host n b ha hp later => h.loses ha hp host later,
      fun hb host hhost => h.heedful hb hhost,
      fun hp => ⟨h.hung hp, hopening.exists_host_of_run nofun h.here hp⟩⟩
    obtain ⟨s', hs', hstep⟩ := step_move h.here mv
    exact ⟨s', (h.step hstep hs').alert, h.persists hstep⟩

/-- On a host of text the program is launched, and the request is heeded. -/
theorem stop_heeded_iff_stoppedEarly :
    lone.service? "svc" = some (.create "svc" "x" .self .standard "home") ∧
      promptHost.entries?.isSome = true ∧
      ((opening lone).run "svc" (stoppedEarly "svc" promptHost)).Heedful "svc" promptHost ∧
      ∃ s, ((opening lone).run "svc" (stoppedEarly "svc" promptHost)).fleet.service? "svc" =
          some s ∧
        s.isActive = true ∧ s.stopRequested = true ∧ ∀ now, s.IsHeeding now := by
  have hs : lone.service? "svc" = some (.create "svc" "x" .self .standard "home") := rfl
  have hhost : promptHost.entries?.isSome = true := rfl
  obtain ⟨hiff, hruns⟩ := stop_heeded_iff hs promptHost
  have hheedful := hiff.1 hhost (stoppedEarly "svc" promptHost) (by simp [stoppedEarly, Move.IsOn])
  obtain ⟨s, halert, -⟩ := hruns (stoppedEarly "svc" promptHost)
  have hasked : ((((opening lone).run "svc" (stoppedEarly "svc" promptHost)).fleet.service?
      "svc").any fun s => s.isActive && s.stopRequested && !s.phase.isPassing) = true := by
    decide +kernel
  rw [halert.here] at hasked
  obtain ⟨⟨hactive, ha⟩, hp⟩ : (s.isActive = true ∧ s.stopRequested = true) ∧
      s.phase.isPassing = false := by simpa using hasked
  exact ⟨hs, hhost, hheedful, s, halert.here, hactive, ha,
    (hheedful s halert.here hactive ha).1.waiting hp⟩

/-- On a host with a variable that is no text nobody heeds it. -/
theorem not_stop_heeded :
    ¬((opening lone).run "svc" (stoppedEarly "svc" raggedHost)).Heedful "svc" raggedHost := by
  intro hheedful
  have hs : lone.service? "svc" = some (.create "svc" "x" .self .standard "home") := rfl
  have hnone : raggedHost.entries? = none := rfl
  obtain ⟨s, hs', hactive, ha, hp⟩ := broken_of_stoppedEarly hs hnone
  exact Service.not_minds_of_broken hp (hheedful s hs' hactive ha).1

end Failover.Service.Scene
