/-
  Failover.Proofs.Service.Lifecycle
  ─────────────────────────────────
  **The life of a service among its callers.**

      idle ──▶ starting ──▶ running ──▶ exited
                   ╰───────────────────────↗

  It goes this way whoever calls, and however the steps of the calls, of
  the owner and of the process come between each other.  Only while it is
  idle is a variable set or a start accepted, so one start at most is, and
  the program is launched once at most, with what the calls have set that
  succeeded.  What the process answered is there once the service runs,
  and it is never changed.

  Main statement: `lifecycle_law`.
-/
import Failover.Proofs.Service.Knowledge

namespace Failover.Service

open Handshake (Negotiation)

/-- How a lifecycle goes on. -/
inductive Lifecycle.Follows : Lifecycle → Lifecycle → Prop where
  | started : Follows .idle .starting
  | ran : Follows .starting .running
  | failed : Follows .starting .exited
  | left : Follows .running .exited

/-- Whether somebody was told just what was answered in a handshake. -/
def Info.Tells (i : Info) (n : Negotiation) : Prop :=
  i.response = n.response ∧ i.methods = n.methods.map (Method.ofExposed i.id)

/-- What a call has told its caller of the service. -/
def Call.told? : Call → Option Info
  | .info (.finished i) => some i
  | _ => none

theorem Call.told?_eq_some {call : Call} {i : Info} :
    call.told? = some i ↔ call = .info (.finished i) := by
  unfold Call.told?
  split <;> simp_all

namespace Scene

variable {id : String} {sc sc' : Scene} {s s' : Service} {host : Host}

/-! ## §1. What is so at any time. -/

/-- Whether somebody was told all that the process answered in the one handshake that succeeded. -/
def Answered (sc : Scene) (i : Info) : Prop :=
  ∃ n, sc.answers = [n] ∧ n.done = true ∧ i.Tells n

/-- **What is so of a service and its callers at any time.** -/
structure Sound (id : String) (sc : Scene) (s : Service) : Prop where
  here : sc.fleet.service? id = some s
  oneStart : AtMostOne Call.isAccepted sc.callers
  refused : ∀ cause, .start (.refused cause) ∈ sc.callers →
    cause = .alreadyRunning .start ∨ cause = .process (.exited id)
  /-- The program is launched once at most, and there is no process before. -/
  oneLaunch : sc.launches = [] ∧ s.child = none ∨ sc.launches = [s.request]
  /-- The request is what the calls have set that succeeded, -/
  request : s.request = .ofList sc.written
  /-- and it is what an accepted start has copied. -/
  copied : ∀ request, .start (.awaiting request) ∈ sc.callers ∨
    (∃ result, .start (.finished request result) ∈ sc.callers) → request = s.request
  /-- Nothing is told before a handshake has succeeded, -/
  blank : sc.answers = [] → s.info.IsBlank
  /-- nor if the start has failed. -/
  failed : ∀ cause, s.outcome = some (.error cause) → s.info.IsBlank
  told : s.info.IsBlank ∨ sc.Answered s.info
  running : s.lifecycle = .running → sc.Answered s.info
  /-- What the callers were told is no less right. -/
  informed : ∀ i, .info (.finished i) ∈ sc.callers → i.IsBlank ∨ sc.Answered i
  informedRunning : ∀ i, .info (.finished i) ∈ sc.callers → i.running = true →
    i.request = s.request ∧ sc.Answered i

/-- A service that tells something tells what was answered. -/
theorem Records.answered (h : sc.Records s) (ht : s.HasTold) : sc.Answered s.info := by
  obtain ⟨n, hn, htells⟩ := h.told ht
  exact ⟨n, hn, h.done n (by rw [hn]; exact List.mem_singleton_self n), htells⟩

/-- So does everybody who was told the same. -/
theorem Answered.congr {i j : Info} (h : sc.Answered j) (hid : i.id = j.id)
    (hresponse : i.response = j.response) (hmethods : i.methods = j.methods) : sc.Answered i := by
  obtain ⟨n, hn, hdone, htells⟩ := h
  refine ⟨n, hn, hdone, ?_⟩
  unfold Info.Tells
  rw [hid, hresponse, hmethods]
  exact htells

/-- A start that has failed has nothing to tell. -/
theorem not_hasTold_of_error (hc : s.Consistent) {cause : Abort}
    (ho : s.outcome = some (.error cause)) : ¬ s.HasTold := by
  rintro (hp | hok)
  · have hnone : s.outcome = none := (hc.of_phase hp).2
    cases hnone.symm.trans ho
  · cases hok.symm.trans ho

/-- **A scene in order is sound.** -/
theorem Ordered.sound (h : sc.Ordered id s) : sc.Sound id s where
  here := h.here
  oneStart := h.first
  refused cause hmem := by
    have hk : cause = .alreadyRunning .start ∨ cause = .process (.exited s.id) := h.knows _ hmem
    rw [h.named] at hk
    exact hk
  oneLaunch := by
    rw [h.records.launches]
    cases hl : s.isLaunched with
    | false => exact .inl ⟨if_neg (by decide), h.childless (.inl hl)⟩
    | true => exact .inr (if_pos rfl)
  request := h.records.request
  copied := by
    rintro request (hmem | ⟨result, hmem⟩)
    · exact (h.knows _ hmem).2
    · exact (h.knows _ hmem).2.1
  blank hnone := by
    refine h.records.reticent fun ht => ?_
    obtain ⟨n, hn, -⟩ := h.records.told ht
    rw [hnone] at hn
    cases hn
  failed cause ho := h.records.reticent (not_hasTold_of_error h.consistent ho)
  told := by
    by_cases ht : s.HasTold
    · exact .inr (h.records.answered ht)
    · exact .inl (h.records.reticent ht)
  running hr := h.records.answered (h.consistent.hasTold hr)
  informed i hmem := by
    have hshows : i.Shows s := h.knows _ hmem
    rcases hshows.whole with ⟨hresponse, hmethods⟩ | hblank
    · by_cases ht : s.HasTold
      · exact .inr ((h.records.answered ht).congr hshows.about hresponse hmethods)
      · obtain ⟨hresponse', hmethods'⟩ := h.records.reticent ht
        exact .inl ⟨hresponse.trans hresponse', hmethods.trans hmethods'⟩
    · exact .inl hblank
  informedRunning i hmem hrun := by
    have hshows : i.Shows s := h.knows _ hmem
    obtain ⟨ht, hrequest, hresponse, hmethods⟩ := hshows.running hrun
    exact ⟨hrequest, (h.records.answered ht).congr hshows.about hresponse hmethods⟩

/-! ## §2. What one move may change. -/

/-- **What one move may change.** -/
structure Lawful (sc sc' : Scene) (s s' : Service) : Prop where
  lifecycle : s'.lifecycle = s.lifecycle ∨ s.lifecycle.Follows s'.lifecycle
  /-- Nothing is set any more once the service was started. -/
  frozen : s.lifecycle ≠ .idle → s'.request = s.request ∧ sc'.written = sc.written
  outcome : ∀ result, s.outcome = some result → s'.outcome = some result
  /-- What was answered is stored as a whole, before the service runs, -/
  once : s'.response = s.response ∧ s'.methods = s.methods ∨
    s.info.IsBlank ∧ s.lifecycle = .starting ∧ s'.lifecycle = .starting ∧ sc'.Answered s'.info
  /-- and from then on it stays. -/
  kept : s.HasTold → s'.HasTold ∧ s'.response = s.response ∧ s'.methods = s.methods

/-- The owner takes the lifecycle on. -/
theorem follows_passage (h : s.Passage s') (hc : s.Consistent) :
    s'.lifecycle = s.lifecycle ∨ s.lifecycle.Follows s'.lifecycle := by
  cases h with
  | passing | broken | stored => exact .inl rfl
  | announced hp =>
      have hl : s.lifecycle = .starting := (hc.of_phase hp).1
      rw [hl]
      exact .inr .ran
  | exited cause hp =>
      cases cause with
      | none =>
          have hl : s.lifecycle = .running := (hc.of_phase hp).1
          rw [hl]
          exact .inr .left
      | some cause =>
          have hl : s.lifecycle = .starting := (hc.of_phase hp).1
          rw [hl]
          exact .inr .failed

/-- A call takes it on only if it starts the service. -/
theorem follows_effect {call : Call} (h : call.Knows s) :
    (call.effect s).lifecycle = s.lifecycle ∨ s.lifecycle.Follows (call.effect s).lifecycle := by
  unfold Call.effect
  split
  · exact .inl rfl
  · have hi : s.lifecycle = .idle := h
    rw [hi]
    exact .inr .started
  all_goals exact .inl rfl

/-- Calls leave alone what was answered. -/
theorem effect_answers (call : Call) (s : Service) :
    (call.effect s).response = s.response ∧ (call.effect s).methods = s.methods := by
  unfold Call.effect
  split <;> exact ⟨rfl, rfl⟩

/-- Only an idle service has variables set. -/
theorem written_of_not_idle {call : Call} (h : call.Knows s) (hi : s.lifecycle ≠ .idle)
    (call' : Call) : call.written call' = [] := by
  refine Call.written_of_ne ?_ call'
  rintro key value rfl
  exact hi h

/-- The owner stores what was answered, and changes nothing else of it. -/
theorem once_passage (h : sc.Ordered id s) (hp : s.Passage s') (h' : sc'.Records s') :
    s'.response = s.response ∧ s'.methods = s.methods ∨
      s.info.IsBlank ∧ s.lifecycle = .starting ∧ s'.lifecycle = .starting ∧
        sc'.Answered s'.info := by
  cases hp with
  | stored n hp =>
      obtain ⟨hl, hnone⟩ : s.lifecycle = .starting ∧ s.outcome = none := h.consistent.of_phase hp
      have ht : ¬ s.HasTold := Service.not_hasTold (by rw [hp]; exact nofun) hnone
      exact .inr ⟨h.records.reticent ht, hl, hl, h'.answered (.inl rfl)⟩
  | _ => exact .inl ⟨rfl, rfl⟩

/-- **Every move is lawful.** -/
theorem Ordered.lawful (h : sc.Ordered id s) (hstep : sc.Step id s sc' s')
    (h' : sc'.Ordered id s') : sc.Lawful sc' s s' := by
  have hc := h.consistent
  cases hstep with
  | still | come =>
      exact ⟨.inl rfl, fun _ => ⟨rfl, rfl⟩, fun _ h => h, .inl ⟨rfl, rfl⟩, fun ht => ⟨ht, rfl, rfl⟩⟩
  | go caller call hcall hfree =>
      have hk := h.knows call (List.mem_of_getElem? hcall)
      have hkeeps := hk.keeps_effect hc
      refine ⟨follows_effect hk, fun hi => ⟨hkeeps.frozen hi, ?_⟩, hkeeps.outcome,
        .inl (effect_answers call s), hkeeps.told⟩
      dsimp only
      rw [written_of_not_idle hk hi, List.append_nil]
  | own f _ hpass hmay hgoes =>
      have hkeeps := hpass.keeps hc
      exact ⟨follows_passage hpass hc, fun hi => ⟨hkeeps.frozen hi, rfl⟩, hkeeps.outcome,
        once_passage h hpass h'.records, hkeeps.told⟩
  | aside f _ haside hgoes =>
      have hkeeps := haside.keeps hc
      refine ⟨.inl ?_, fun hi => ⟨hkeeps.frozen hi, rfl⟩, hkeeps.outcome,
        .inl ⟨haside.spares.response, haside.spares.methods⟩, hkeeps.told⟩
      cases haside with
      | process => rfl
      | heeded hheed =>
          obtain ⟨-, ⟨n, b, -, rfl⟩ | ⟨-, rfl⟩⟩ := Service.heed?_eq_some hheed <;> rfl

/-! ## §3. What becomes of those who come late. -/

/-- Why a start of a service that is not idle is refused. -/
def refusal (s : Service) : Fault :=
  if s.lifecycle = .exited then .process (.exited s.id) else .alreadyRunning .start

/-- **What becomes of calls on a service that was started**, and of the start itself. -/
structure Decides (id : String) (sc : Scene) (s : Service) : Prop where
  /-- A variable that comes late is refused, and nothing else happens. -/
  late : ∀ i key value, sc.callers[i]? = some (.setVar (.checking key value)) →
    s.lifecycle ≠ .idle → sc.go id i =
      { sc with callers := sc.callers.set i
                  (.setVar (.finished (.error (.alreadyRunning .setVariable)))) }
  /-- So is a start. -/
  second : ∀ i, sc.callers[i]? = some (.start .checking) → s.lifecycle ≠ .idle →
    sc.go id i = { sc with callers := sc.callers.set i (.start (.refused (refusal s))) }
  /-- The program is launched with the request of the service. -/
  launch : ∀ host, s.phase = .launching → sc.mayGoOn s = true → sc.own id host =
    { sc with
      fleet := sc.fleet.modify id fun _ => s.launch host sc.fleet.clock
      launches := sc.launches ++ [s.request] }

theorem begin_of_not_idle (hi : s.lifecycle ≠ .idle) : s.begin = .error (refusal s) := by
  unfold Service.begin refusal
  cases hl : s.lifecycle with
  | idle => exact absurd hl hi
  | starting | running | exited => rfl

theorem setVar_of_not_idle (hi : s.lifecycle ≠ .idle) (key value : String) :
    s.setVar key value = .error (.alreadyRunning .setVariable) := by
  unfold Service.setVar
  exact if_pos hi

/-- A launch receives no answer. -/
theorem answering?_launch (host : Host) (now : Nat) : (s.launch host now).answering? = none := by
  unfold Service.launch
  split
  · rfl
  · dsimp only
    split <;> rfl

theorem Ordered.decides (h : sc.Ordered id s) : sc.Decides id s where
  late i key value hcall hi := by
    unfold go
    rw [hcall]
    simp [Call.isEntering, Call.step, SetVarCall.step, h.here, setVar_of_not_idle hi, Call.written]
  second i hcall hi := by
    unfold go
    rw [hcall]
    simp [Call.isEntering, Call.step, StartCall.step, h.here, begin_of_not_idle hi, Call.written]
  launch host hp hmay := by
    have hnone : ((sc.fleet.modify id fun _ => s.launch host sc.fleet.clock).service? id).bind
        (·.answering?) = none := by
      rw [Fleet.service?_modify_self h.here]
      exact answering?_launch host sc.fleet.clock
    have hlaunching : s.launching? = some s.request := by
      unfold Service.launching?
      rw [hp]
    unfold own
    rw [h.here, Fleet.owner_of_launching h.here hp]
    dsimp only
    rw [if_pos hmay, hnone, hlaunching, Option.toList_none, List.append_nil]
    rfl

/-! ## §4. All lives. -/

/-- **The life of a service.**  Whoever calls a new service, whatever happens meanwhile, and however
all of it comes between each other: what is to be so is so at any time, calls that come late are
refused, and every move is lawful. -/
theorem lifecycle_law {f : Fleet} {name home : String} {program : Program} {options : Options}
    (hs : f.service? id = some (.create id name program options home)) (moves : List Move) :
    ∃ s, ((opening f).run id moves).Sound id s ∧ ((opening f).run id moves).Decides id s ∧
      ∀ mv, ∃ s', (((opening f).run id moves).move id mv).Sound id s' ∧
        ((opening f).run id moves).Lawful (((opening f).run id moves).move id mv) s s' := by
  obtain ⟨s, h⟩ := ordered_run hs moves
  refine ⟨s, h.sound, h.decides, fun mv => ?_⟩
  obtain ⟨s', hs', hstep⟩ := step_move h.here mv
  have h' := h.step hstep hs'
  exact ⟨s', h'.sound, h.lawful hstep h'⟩

/-- A variable is set, two callers start the service side by side, its process introduces itself
there, and somebody asks what is known of it. -/
def sideBySide : List Move :=
  let acts (actions : List Action) : List Move := actions.map (.act promptHost)
  .come (.setVar "k" "v") :: .come .start :: .come .start :: List.replicate 3 (.go 0) ++
    [.go 1, .go 2, .go 1, .go 1, .go 2, .go 1, .go 2, .go 2] ++
    acts [.owner "svc", .child "svc", .owner "svc", .owner "svc", .owner "svc"] ++
    .come .info :: List.replicate 5 (.go 3) ++ [.go 1]

/-- What is told in the end. -/
def promptInfo : Info :=
  ⟨"svc", "x", .self, true, .ofList [("k", "v")],
    .ofList [("version", "1.0"), ("bindaddr", "127.0.0.1:3"), ("protocol", "socks5")],
    [⟨"svc/m", "m", "socks5", "127.0.0.1:3", "svc"⟩]⟩

theorem lifecycle_law_sideBySide :
    lone.service? "svc" = some (.create "svc" "x" .self .standard "home") ∧
      ((opening lone).run "svc" sideBySide).callers.filterMap Call.told? = [promptInfo] ∧
      ((opening lone).run "svc" sideBySide).Answered promptInfo ∧
      ∃ s, ((opening lone).run "svc" sideBySide).fleet.service? "svc" = some s ∧
        promptInfo.request = s.request ∧ s.request = .ofList [("k", "v")] := by
  have hs : lone.service? "svc" = some (.create "svc" "x" .self .standard "home") := rfl
  have hwritten : ((opening lone).run "svc" sideBySide).written = [("k", "v")] := by
    decide +kernel
  have htold : ((opening lone).run "svc" sideBySide).callers.filterMap Call.told? =
      [promptInfo] := by
    decide +kernel
  obtain ⟨call, hcall, hi⟩ := List.mem_filterMap.1
    (show promptInfo ∈ _ from htold ▸ List.mem_singleton_self promptInfo)
  rw [Call.told?_eq_some.1 hi] at hcall
  obtain ⟨s, hsound, -⟩ := lifecycle_law hs sideBySide
  obtain ⟨hrequest, hanswered⟩ := hsound.informedRunning promptInfo hcall rfl
  exact ⟨hs, htold, hanswered, s, hsound.here, hrequest, hwritten ▸ hsound.request⟩

end Scene

end Failover.Service
