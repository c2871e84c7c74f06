/-
  Failover.Proofs.Service.Knowledge
  ─────────────────────────────────
  **What the callers of a service know of it.**  A caller acts on what it
  has seen some steps ago, and meanwhile others act, too.  What it has seen
  still holds: some of it for ever (a service that was started is never
  idle again), and some of it as long as it has the lock (a service that
  is idle stays so, and what it tells stays).

  Besides, the records of a scene say how the service has come to be what
  it is: its request is what the calls that succeeded have set, its program
  was launched at most once, and it tells what its process answered.

  Main statements: `Ordered.step` — all of this is kept by every move —
  and `ordered_run` — so it holds in every scene that a new service can
  come to.
-/
import Failover.Proofs.Service.Passage

namespace Failover.Service

open Handshake (Negotiation)

/-! ## §1. One of many. -/

/-- Of all calls at most one is such. -/
def AtMostOne (p : Call → Bool) (callers : List Call) : Prop :=
  ∀ (i j : Nat) (a b : Call), callers[i]? = some a → callers[j]? = some b →
    p a = true → p b = true → i = j

namespace AtMostOne

variable {p : Call → Bool} {callers : List Call} {call : Call} {i : Nat}

theorem nil : AtMostOne p [] := by
  intro i j a b ha
  cases ha

/-- A call that comes and is not such makes no difference. -/
theorem concat (h : AtMostOne p callers) (hcall : p call = false) :
    AtMostOne p (callers ++ [call]) := by
  have hold : ∀ (k : Nat) (a : Call), (callers ++ [call])[k]? = some a → p a = true →
      callers[k]? = some a := by
    intro k a ha hpa
    rw [List.getElem?_append] at ha
    split at ha
    · exact ha
    · obtain rfl : a = call := by simpa using List.mem_of_getElem? ha
      rw [hcall] at hpa
      cases hpa
  intro i j a b ha hb hpa hpb
  exact h i j a b (hold i a ha hpa) (hold j b hb hpb) hpa hpb

/-- A call that goes on may become such if it was the one or if there was none. -/
theorem set {old : Call} (h : AtMostOne p callers) (hi : callers[i]? = some old)
    (hcall : p call = true → p old = true ∨ ∀ c ∈ callers, p c = false) :
    AtMostOne p (callers.set i call) := by
  have hi' : i < callers.length := (List.getElem?_eq_some_iff.1 hi).1
  -- any other such call leaves no room for it
  have hother : ∀ (k : Nat) (b : Call), k ≠ i → callers[k]? = some b → p b = true →
      p call = true → False := by
    intro k b hk hb hpb hpc
    rcases hcall hpc with hpo | hnone
    · exact hk (h k i b old hb hi hpb hpo)
    · rw [hnone b (List.mem_of_getElem? hb)] at hpb
      cases hpb
  intro j k a b ha hb hpa hpb
  rw [List.getElem?_set] at ha hb
  by_cases hj : i = j
  · rw [if_pos hj, if_pos hi'] at ha
    cases ha
    by_cases hk : i = k
    · rw [← hj, hk]
    · rw [if_neg hk] at hb
      exact (hother k b (Ne.symm hk) hb hpb hpa).elim
  · rw [if_neg hj] at ha
    by_cases hk : i = k
    · rw [if_pos hk, if_pos hi'] at hb
      cases hb
      exact (hother j a (Ne.symm hj) ha hpa hpb).elim
    · rw [if_neg hk] at hb
      exact h j k a b ha hb hpa hpb

end AtMostOne

/-! ## §2. Knowledge. -/

/-- Whether a call is a start that has found the service idle. -/
def Call.isAccepted : Call → Bool
  | .start call => call.isAccepted
  | _ => false

/-- Whether somebody was told nothing that a process answered. -/
def Info.IsBlank (i : Info) : Prop := i.response = .empty ∧ i.methods = []

/-- What somebody was told of a service: its request and what its process answered, if it is said
to run, and in any case either all that it tells or nothing. -/
structure Info.Shows (i : Info) (s : Service) : Prop where
  about : i.id = s.id
  whole : i.response = s.response ∧ i.methods = s.methods ∨ i.IsBlank
  running : i.running = true →
    s.HasTold ∧ i.request = s.request ∧ i.response = s.response ∧ i.methods = s.methods

/-- **What a caller knows** of the service from what it has seen. -/
def Call.Knows (s : Service) : Call → Prop
  | .setVar (.writing ..) | .start .publishing => s.lifecycle = .idle
  | .start .copying => s.phase = .launching
  | .start (.awaiting request) => s.lifecycle ≠ .idle ∧ request = s.request
  | .start (.finished request result) =>
      s.lifecycle ≠ .idle ∧ request = s.request ∧ s.outcome = some result
  | .start (.refused cause) =>
      cause = .alreadyRunning .start ∨ cause = .process (.exited s.id)
  | .info (.copyingRequest running) => running = true → s.HasTold
  | .info (.copyingResponse running request) => running = true → s.HasTold ∧ request = s.request
  | .info (.copyingMethods running request response) =>
      response = s.response ∧ (running = true → s.HasTold ∧ request = s.request)
  | .info (.finished i) => i.Shows s
  | .stop .asking | .remove .marking | .remove (.stopping .asking) => s.lifecycle ≠ .idle
  | .stop (.finished true) => s.stopRequested = true
  | .wait (.finished seen) => seen = .idle ∨ seen = .exited
  | _ => True

/-- Before a service tells what its process answered, it tells nothing. -/
def IsReticent (s : Service) : Prop := ¬ s.HasTold → s.info.IsBlank

section Knowledge

variable {id : String} {f : Fleet} {s s' : Service} {call : Call}

/-- What was told is still right after a step of somebody. -/
theorem Info.Shows.keeps {i : Info} (h : i.Shows s) (hc : s.Consistent) (hr : s.IsReticent)
    (hk : s.Keeps s') : i.Shows s' := by
  refine ⟨h.about.trans hk.id.symm, ?_, ?_⟩
  · by_cases ht : s.HasTold
    · obtain ⟨-, hresponse, hmethods⟩ := hk.told ht
      rw [hresponse, hmethods]
      exact h.whole
    · rcases h.whole with ⟨hresponse, hmethods⟩ | hblank
      · exact .inr ⟨hresponse.trans (hr ht).1, hmethods.trans (hr ht).2⟩
      · exact .inr hblank
  · intro hrun
    obtain ⟨ht, hrequest, hresponse, hmethods⟩ := h.running hrun
    obtain ⟨ht', hresponse', hmethods'⟩ := hk.told ht
    exact ⟨ht', hrequest.trans (hk.frozen (ht.not_idle hc)).symm, hresponse.trans hresponse'.symm,
      hmethods.trans hmethods'.symm⟩

/-- **What a caller knows stays** when somebody else acts: some of it always, and the rest as long
as the caller has the lock. -/
theorem Call.Knows.keeps (h : call.Knows s) (hc : s.Consistent) (hr : s.IsReticent)
    (hk : s.Keeps s') (hin : call.isInside = true → s.Spares s')
    (hover : call.isHandingOver = true → s.phase = .launching → s'.phase = .launching) :
    call.Knows s' := by
  -- who has seen it running knows that it has told everything, and its request
  have hseen : ∀ {running : Bool} {request : Variables},
      (running = true → s.HasTold ∧ request = s.request) →
      running = true → s'.HasTold ∧ request = s'.request := by
    intro running request hknown hrun
    obtain ⟨ht, hrequest⟩ := hknown hrun
    exact ⟨(hk.told ht).1, hrequest.trans (hk.frozen (ht.not_idle hc)).symm⟩
  cases call with
  | setVar call =>
      cases call with
      | writing key value => exact (hin rfl).idle h
      | entering | checking | finished => exact trivial
  | var call => exact trivial
  | wait call => cases call <;> exact h
  | info call =>
      cases call with
      | entering | looking => exact trivial
      | copyingRequest running => exact fun hrun => (hk.told (h hrun)).1
      | copyingResponse running request => exact hseen h
      | copyingMethods running request response =>
          exact ⟨h.1.trans (hin rfl).response.symm, hseen h.2⟩
      | finished i => exact Info.Shows.keeps h hc hr hk
  | start call =>
      cases call with
      | entering | checking => exact trivial
      | publishing => exact (hin rfl).idle h
      | copying => exact hover rfl h
      | awaiting request => exact ⟨hk.started h.1, h.2.trans (hk.frozen h.1).symm⟩
      | finished request result =>
          obtain ⟨hi, hrequest, ho⟩ := h
          exact ⟨hk.started hi, hrequest.trans (hk.frozen hi).symm, hk.outcome result ho⟩
      | refused cause =>
          show _ ∨ cause = .process (.exited s'.id)
          rw [hk.id]
          exact h
  | stop call =>
      cases call with
      | checking => exact trivial
      | asking => exact hk.started h
      | finished asked =>
          cases asked with
          | false => exact trivial
          | true => exact hk.asked h
  | remove call =>
      cases call with
      | marking => exact hk.started h
      | stopping call =>
          cases call with
          | asking => exact hk.started h
          | checking | finished => exact trivial
      | checking | rechecking | deregistering | finished => exact trivial

/-- Who finds a service active knows that it was started. -/
theorem not_idle_of_isActive (hs : f.service? id = some s) (ha : f.isActive id = true) :
    s.lifecycle ≠ .idle := by
  unfold Fleet.isActive at ha
  rw [hs] at ha
  exact (Service.isActive_iff.1 ha).1

/-- **What a caller learns** from a step of its own. -/
theorem Call.Knows.learns (h : call.Knows s) (hs : f.service? id = some s) (hc : s.Consistent) :
    (call.step id f).1.Knows (call.effect s) := by
  cases call with
  | var call => exact trivial
  | wait call =>
      cases call with
      | finished seen => exact h
      | waiting =>
          unfold Call.step WaitCall.step
          dsimp only
          rw [hs]
          dsimp only
          split
          · next hsettled =>
            unfold Service.isSettled at hsettled
            simpa [Call.Knows] using hsettled
          · exact trivial
  | setVar call =>
      cases call with
      | entering | writing | finished => exact trivial
      | checking key value =>
          unfold Call.step SetVarCall.step
          dsimp only
          rw [hs]
          dsimp only
          cases hset : s.setVar key value with
          | ok s' => exact (Service.setVar_eq_ok hset).1
          | error cause => exact trivial
  | info call =>
      unfold Call.step InfoCall.step
      dsimp only
      rw [hs]
      cases call with
      | entering => exact trivial
      | looking => exact fun hrun => hc.hasTold (by simpa [Service.running] using hrun)
      | copyingRequest running => exact fun hrun => ⟨h hrun, rfl⟩
      | copyingResponse running request => exact ⟨rfl, h⟩
      | copyingMethods running request response =>
          obtain ⟨hresponse, hknown⟩ := h
          refine ⟨rfl, .inl ⟨hresponse, rfl⟩, fun hrun => ?_⟩
          obtain ⟨ht, hrequest⟩ := hknown hrun
          exact ⟨ht, hrequest, hresponse, rfl⟩
      | finished i => exact h
  | start call =>
      cases call with
      | entering => exact trivial
      | checking =>
          unfold Call.step StartCall.step
          dsimp only
          rw [hs]
          dsimp only
          cases hb : s.begin with
          | ok s' => exact (Service.begin_eq_ok hb).1
          | error cause =>
              unfold Service.begin at hb
              split at hb
              · cases hb
              · cases hb
                exact .inr rfl
              · cases hb
                exact .inl rfl
      | publishing => exact rfl
      | copying =>
          unfold Call.step StartCall.step
          dsimp only
          rw [hs]
          have hp : s.phase = .launching := h
          refine ⟨fun hi => ?_, rfl⟩
          cases hp.symm.trans (hc.phase_of_idle hi)
      | awaiting request =>
          unfold Call.step StartCall.step Fleet.outcome?
          dsimp only
          rw [hs]
          dsimp only [Option.bind_some]
          cases ho : s.outcome with
          | none => exact h
          | some result => exact ⟨h.1, h.2, ho⟩
      | refused cause => exact h
      | finished request result => exact h
  | stop call =>
      cases call with
      | checking =>
          unfold Call.step StopCall.step
          dsimp only
          split
          · next ha => exact not_idle_of_isActive hs ha
          · exact trivial
      | asking => exact rfl
      | finished asked => exact h
  | remove call =>
      cases call with
      | checking =>
          unfold Call.step RemoveCall.step
          dsimp only
          split
          · next ha => exact not_idle_of_isActive hs ha
          · exact trivial
      | marking => exact trivial
      | stopping call =>
          cases call with
          | checking =>
              unfold Call.step RemoveCall.step StopCall.step
              dsimp only
              by_cases ha : f.isActive id = true
              · rw [if_pos ha]
                exact not_idle_of_isActive hs ha
              · rw [if_neg ha]
                exact trivial
          | asking | finished => exact trivial
      | rechecking =>
          unfold Call.step RemoveCall.step
          dsimp only
          split <;> exact trivial
      | deregistering | finished => exact trivial

/-- A call acts on what it knows, and keeps what is to be kept. -/
theorem Call.Knows.keeps_effect (h : call.Knows s) (hc : s.Consistent) :
    s.Keeps (call.effect s) := by
  unfold Call.effect
  split
  -- a variable is set and a start published only while it is idle
  · have hi : s.lifecycle = .idle := h
    exact ⟨rfl, fun h => h, fun hn => absurd hi hn, fun ht => ⟨ht, rfl, rfl⟩, fun _ h => h,
      fun h => h⟩
  · have hi : s.lifecycle = .idle := h
    refine ⟨rfl, fun hn => absurd hi hn, fun hn => absurd hi hn, fun ht => ?_, fun _ h => h,
      fun h => h⟩
    exact absurd hi (ht.not_idle hc)
  · exact ⟨rfl, fun h => h, fun _ => rfl, fun ht => ⟨ht, rfl, rfl⟩, fun _ h => h, fun _ => rfl⟩
  · exact ⟨rfl, fun h => h, fun _ => rfl, fun ht => ⟨ht, rfl, rfl⟩, fun _ h => h, fun _ => rfl⟩
  · exact ⟨rfl, fun h => h, fun _ => rfl, fun ht => ⟨ht, rfl, rfl⟩, fun _ h => h, fun h => h⟩
  · exact .refl s

/-- Whoever does not have the lock spares those who have. -/
theorem Call.spares_effect (h : call.isInside = false) (s : Service) :
    s.Spares (call.effect s) := by
  unfold Call.effect
  split
  · cases h
  · cases h
  all_goals exact ⟨fun h => h, rfl, rfl⟩

/-- The effect of a call leaves the phase fitting. -/
theorem Call.Knows.consistent_effect (h : call.Knows s) (hc : s.Consistent) :
    (call.effect s).Consistent := by
  unfold Call.effect
  split
  · exact hc
  · exact hc.begin h
  all_goals exact hc

/-- Who has the lock after a step had it before or has just taken it. -/
theorem Call.isInside_step (h : (call.step id f).1.isInside = true) :
    call.isInside = true ∨ call.isEntering = true := by
  cases call with
  | setVar call => cases call <;> first | exact .inl rfl | exact .inr rfl | exact .inl h
  | var call => cases call <;> first | exact .inl rfl | exact .inr rfl | exact .inl h
  | info call =>
      cases call with
      | entering => exact .inr rfl
      | looking | copyingRequest | copyingResponse | copyingMethods => exact .inl rfl
      | finished i =>
          unfold Call.step InfoCall.step at h
          dsimp only at h
          split at h <;> cases h
  | start call =>
      cases call with
      | entering => exact .inr rfl
      | checking | publishing | copying => exact .inl rfl
      | awaiting request =>
          unfold Call.step StartCall.step at h
          dsimp only at h
          split at h <;> cases h
      | refused | finished => cases h
  | stop call | remove call | wait call => cases h

/-- A call that has just come neither has the lock nor is it accepted. -/
theorem Demand.isInside_call (demand : Demand) : demand.call.isInside = false := by
  cases demand <;> rfl

theorem Demand.isAccepted_call (demand : Demand) : demand.call.isAccepted = false := by
  cases demand <;> rfl

theorem Demand.knows_call (demand : Demand) (s : Service) : demand.call.Knows s := by
  cases demand <;> exact trivial

end Knowledge

/-! ## §3. Records. -/

/-- Whether the program of a service has been launched, or at least been tried. -/
def isLaunched (s : Service) : Bool :=
  match s.phase with
  | .none | .launching => false
  | _ => true

/-- **What the records of a scene say** about its service. -/
structure Scene.Records (sc : Scene) (s : Service) : Prop where
  request : s.request = .ofList sc.written
  launches : sc.launches = if s.isLaunched then [s.request] else []
  reticent : s.IsReticent
  /-- What was answered and is not told yet is still to be stored. -/
  unanswered : ¬ s.HasTold → sc.answers = s.answering?.toList
  told : s.HasTold → ∃ n, sc.answers = [n] ∧ s.response = n.response ∧
    s.methods = n.methods.map (Method.ofExposed s.id)
  done : ∀ n ∈ sc.answers, n.done = true

section Records

variable {sc sc' : Scene} {s s' : Service} {host : Host} {now : Nat}

/-- The owner leaves the request as it is, -/
theorem Passage.request (h : s.Passage s') : s'.request = s.request := by
  cases h <;> rfl

/-- and whatever it has done, the program was launched or tried. -/
theorem Passage.isLaunched (h : s.Passage s') : s'.isLaunched = true := by
  cases h with
  | passing child phase h =>
      generalize s.phase = p at h
      cases h <;> rfl
  | _ => rfl

/-- It has launched the program in this step or before. -/
theorem Passage.launching (h : s.Passage s') (hl : s.isLaunched = false) :
    s.launching? = some s.request := by
  cases h with
  | passing child phase h =>
      unfold Service.isLaunched at hl
      unfold Service.launching?
      generalize s.phase = p at h hl
      cases h <;> first | rfl | cases hl
  | broken b h =>
      unfold Service.launching?
      rw [h]
  | stored n h | announced h | exited cause h =>
      unfold Service.isLaunched at hl
      rw [h] at hl
      cases hl

/-- A program that was launched is not launched any more. -/
theorem launching?_of_isLaunched (h : s.isLaunched = true) : s.launching? = none := by
  unfold Service.isLaunched at h
  unfold Service.launching?
  split <;> simp_all

/-- A service that tells what was answered has nothing left to store. -/
theorem answering?_of_hasTold (hc : s.Consistent) (h : s.HasTold) :
    s.answering? = none := by
  unfold Service.answering?
  split
  · next n hp =>
    have hnone : s.outcome = none := (hc.of_phase hp).2
    exact absurd h (Service.not_hasTold (by rw [hp]; exact nofun) hnone)
  · rfl

/-- What is to be stored is the answer of a handshake that succeeded. -/
theorem Passage.done (h : s.Passage s') {n : Negotiation} (hn : s'.answering? = some n) :
    n.done = true := by
  unfold Service.answering? at hn
  cases h with
  | passing child phase h =>
      generalize s.phase = p at h
      cases h with
      | answered n₀ n' b hdone =>
          cases hn
          exact hdone
      | _ => cases hn
  | _ => cases hn

/-- A service starts telling when an answer is stored. -/
theorem Passage.hasTold (h : s.Passage s') (ht : s'.HasTold) :
    s.HasTold ∨ ∃ n, s.phase = .answering n ∧ s'.response = n.response ∧
      s'.methods = n.methods.map (Method.ofExposed s.id) := by
  cases h with
  | passing child phase h =>
      rcases ht with hp | ho
      · exact absurd hp h.silent.2.1
      · exact .inl (.inr ho)
  | stored n hp => exact .inr ⟨n, hp, rfl, rfl⟩
  | announced hp => exact .inl (.inl hp)
  | broken b hp =>
      rcases ht with hp | ho
      · cases hp
      · cases ho
  | exited cause hp =>
      rcases ht with hp | ho
      · cases hp
      · cases cause with
        | none => exact .inl (.inr ho)
        | some cause => cases ho

/-- **A step of the owner** is recorded. -/
theorem Scene.Records.own (h : sc.Records s) (hc : s.Consistent) (hc' : s'.Consistent)
    (hp : s.Passage s') (f : Fleet) :
    Scene.Records
      { sc with
        fleet := f
        launches := sc.launches ++ s.launching?.toList
        answers := sc.answers ++ s'.answering?.toList } s' where
  request := hp.request.trans h.request
  launches := by
    dsimp only
    rw [hp.isLaunched, h.launches, hp.request]
    cases hl : s.isLaunched with
    | true => simp [Service.launching?_of_isLaunched hl]
    | false => simp [hp.launching hl]
  reticent := by
    intro ht
    have hk := hp.keeps hc
    have hblank := h.reticent fun hold => ht (hk.told hold).1
    cases hp with
    | passing | broken | announced | exited => exact hblank
    | stored n hp => exact absurd (.inl rfl) ht
  unanswered := by
    intro ht
    have hold := h.unanswered fun hold => ht ((hp.keeps hc).told hold).1
    dsimp only
    cases hp with
    | passing child phase hpass =>
        have hnone : s.answering? = none := by
          unfold Service.answering?
          split
          · next n hn => exact absurd hn (hpass.silent.2.2 n)
          · rfl
        rw [hold, hnone]
        rfl
    | stored n hp => exact absurd (.inl rfl) ht
    | announced hp => exact absurd (.inr rfl) ht
    | broken b hp | exited cause hp =>
        have hnone : s.answering? = none := by
          unfold Service.answering?
          rw [hp]
        rw [hold, hnone]
        rfl
  told := by
    intro ht
    have hnone := Service.answering?_of_hasTold hc' ht
    have hk := hp.keeps hc
    dsimp only
    rw [hnone, Option.toList_none, List.append_nil, hk.id]
    by_cases hold : s.HasTold
    · obtain ⟨n, hn, hresponse, hmethods⟩ := h.told hold
      obtain ⟨-, hresponse', hmethods'⟩ := hk.told hold
      exact ⟨n, hn, hresponse'.trans hresponse, hmethods'.trans hmethods⟩
    · obtain ⟨n, hn, hresponse, hmethods⟩ := (hp.hasTold ht).resolve_left hold
      refine ⟨n, ?_, hresponse, hmethods⟩
      rw [h.unanswered hold]
      unfold Service.answering?
      rw [hn]
      rfl
  done := by
    intro n hn
    rcases List.mem_append.1 hn with hn | hn
    · exact h.done n hn
    · exact hp.done (Option.mem_toList.1 hn)

/-- What else happens by itself leaves the records right. -/
theorem Scene.Records.aside (h : sc.Records s) (hc : s.Consistent) (hc' : s'.Consistent)
    (ha : s.Aside now s') (f : Fleet) : Scene.Records { sc with fleet := f } s' := by
  cases ha with
  | process => exact ⟨h.request, h.launches, h.reticent, h.unanswered, h.told, h.done⟩
  | heeded hheed =>
      -- heeding is a step of the owner that neither launches nor receives an answer
      have hown := h.own hc hc' (Service.passage_heed hheed) f
      have hquiet : s.launching? = none ∧ s'.answering? = none := by
        obtain ⟨-, ⟨n, b, hp, rfl⟩ | ⟨hp, rfl⟩⟩ := Service.heed?_eq_some hheed <;>
          exact ⟨by unfold Service.launching?; rw [hp], rfl⟩
      rw [hquiet.1, hquiet.2, Option.toList_none, Option.toList_none, List.append_nil,
        List.append_nil] at hown
      exact hown

/-- Only a call that is about to write has set a variable after its step. -/
theorem Call.written_of_ne {call : Call} (h : ∀ key value, call ≠ .setVar (.writing key value))
    (call' : Call) : call.written call' = [] := by
  unfold Call.written
  split
  · next key value => exact absurd rfl (h key value)
  · rfl

/-- The records do not tell who wants a service to be stopped or removed. -/
theorem Scene.Records.wanted (h : sc.Records s) (stop remove : Bool) :
    sc.Records { s with stopRequested := stop, removeOnStop := remove } :=
  ⟨h.request, h.launches, h.reticent, h.unanswered, h.told, h.done⟩

/-- A call that is about to write sets a variable of a service that is idle. -/
theorem Scene.Records.write (h : sc.Records s) (hc : s.Consistent) (hi : s.lifecycle = .idle)
    (key value : String) :
    Scene.Records { sc with written := sc.written ++ [(key, value)] }
      { s with request := s.request.insert key value } where
  request := by
    dsimp only
    rw [h.request, Named.ofList, Named.ofList, List.foldl_append]
    rfl
  launches := by
    have hl := h.launches
    unfold Service.isLaunched at hl ⊢
    rw [hc.phase_of_idle hi] at hl ⊢
    exact hl
  reticent := h.reticent
  unanswered := h.unanswered
  told := h.told
  done := h.done

/-- An accepted start finds a service that tells nothing, and leaves it so. -/
theorem Scene.Records.publish (h : sc.Records s) (hc : s.Consistent) (hi : s.lifecycle = .idle) :
    sc.Records { s with lifecycle := .starting, phase := .launching } := by
  have ht : ¬ s.HasTold := fun ht => ht.not_idle hc hi
  have hlaunches := h.launches
  have hanswers := h.unanswered ht
  unfold Service.isLaunched at hlaunches
  unfold Service.answering? at hanswers
  rw [hc.phase_of_idle hi] at hlaunches hanswers
  refine ⟨h.request, hlaunches, fun _ => h.reticent ht, fun _ => hanswers, ?_, h.done⟩
  rintro (hp | ho)
  · cases hp
  · exact absurd (.inr ho) ht

/-- **A step of a call** is recorded. -/
theorem Scene.Records.call (h : sc.Records s) (hc : s.Consistent) {call call' : Call}
    (hk : call.Knows s) (hw : ∀ key value, call = .setVar (.writing key value) →
      call' = .setVar (.finished (.ok ()))) (f : Fleet) (callers : List Call) :
    Scene.Records { sc with fleet := f, callers, written := sc.written ++ call.written call' }
      (call.effect s) := by
  -- where the call stands and what the fleet is are not recorded
  have hscene : ∀ {written : List (String × String)} {s' : Service},
      Scene.Records { sc with written } s' →
      Scene.Records { sc with fleet := f, callers, written } s' :=
    fun h => ⟨h.request, h.launches, h.reticent, h.unanswered, h.told, h.done⟩
  have hsame : (∀ key value, call ≠ .setVar (.writing key value)) → ∀ {s' : Service},
      sc.Records s' →
      Scene.Records { sc with fleet := f, callers, written := sc.written ++ call.written call' }
        s' := by
    intro hne s' h
    rw [Call.written_of_ne hne, List.append_nil]
    exact hscene h
  unfold Call.effect
  split
  · next key value =>
    rw [hw key value rfl]
    exact hscene (h.write hc hk key value)
  · exact hsame nofun (h.publish hc hk)
  · exact hsame nofun (h.wanted true s.removeOnStop)
  · exact hsame nofun (h.wanted true s.removeOnStop)
  · exact hsame nofun (h.wanted s.stopRequested true)
  · next hne _ _ _ _ => exact hsame (fun key value heq => hne key value heq) h

end Records

/-! ## §4. Order. -/

section Effects

variable {call : Call} {s s' : Service} {id : String} {f : Fleet} {now : Nat}

/-- Whoever does not have the lock leaves the phase as it is. -/
theorem Call.phase_effect (h : call.isInside = false) : (call.effect s).phase = s.phase := by
  unfold Call.effect
  split <;> first | rfl | cases h

/-- Nobody asks an idle service to stop. -/
theorem Call.Knows.unasked (h : call.Knows s)
    (hu : s.lifecycle = .idle → s.stopRequested = false)
    (hi : (call.effect s).lifecycle = .idle) : (call.effect s).stopRequested = false := by
  revert hi
  unfold Call.effect
  split <;> intro hi
  · exact hu hi
  · cases hi
  · exact absurd hi h
  · exact absurd hi h
  · exact hu hi
  · exact hu hi

/-- The owner leaves a request to stop as it is. -/
theorem Passage.stopRequested (h : s.Passage s') :
    s'.stopRequested = s.stopRequested := by
  cases h <;> rfl

theorem Aside.stopRequested (h : s.Aside now s') : s'.stopRequested = s.stopRequested := by
  cases h with
  | process => rfl
  | heeded h => exact (Service.passage_heed h).stopRequested

/-- A service that is about to be launched stays so until its owner goes on. -/
theorem Aside.launching (h : s.Aside now s') (hp : s.phase = .launching) :
    s'.phase = .launching := by
  cases h with
  | process => exact hp
  | heeded h =>
      obtain ⟨-, ⟨n, b, hp', -⟩ | ⟨hp', -⟩⟩ := Service.heed?_eq_some h <;>
        (rw [hp] at hp'; cases hp')

/-- A start that is accepted by a step of its own has found the service idle. -/
theorem Call.isAccepted_step (hs : f.service? id = some s)
    (h : (call.step id f).1.isAccepted = true) :
    call.isAccepted = true ∨ call = .start .checking ∧ s.lifecycle = .idle := by
  cases call with
  | setVar call | var call | info call | stop call | remove call | wait call => cases h
  | start call =>
      cases call with
      | publishing | copying | awaiting | finished => exact .inl rfl
      | entering | refused => cases h
      | checking =>
          unfold Call.step StartCall.step at h
          dsimp only at h
          rw [hs] at h
          dsimp only at h
          cases hb : s.begin with
          | ok s' => exact .inr ⟨rfl, (Service.begin_eq_ok hb).1⟩
          | error cause =>
              rw [hb] at h
              cases h

/-- While the service is idle, a start that is accepted still has the lock. -/
theorem Call.Knows.isInside_of_idle (h : call.Knows s) (hi : s.lifecycle = .idle)
    (ha : call.isAccepted = true) : call.isInside = true := by
  cases call with
  | setVar call | var call | info call | stop call | remove call | wait call => cases ha
  | start call =>
      cases call with
      | publishing | copying => rfl
      | entering | checking | refused => cases ha
      | awaiting request => exact absurd hi h.1
      | finished request result => exact absurd hi h.1

/-- There is no process before the launch, nor if nothing came of it. -/
def Childless (s : Service) : Prop :=
  s.isLaunched = false ∨ s.phase = .broken → s.child = none

/-- Calls do not launch anything. -/
theorem Call.Knows.childless (h : call.Knows s) (hc : s.Consistent) (hnone : s.Childless) :
    (call.effect s).Childless := by
  unfold Call.effect
  split
  · exact hnone
  · intro _
    refine hnone (.inl ?_)
    unfold Service.isLaunched
    rw [hc.phase_of_idle h]
  all_goals exact hnone

/-- The owner has a process unless its launch has broken off. -/
theorem Passage.childless (h : s.Passage s') (hnone : s.Childless) : s'.Childless := by
  rintro (hl | hp)
  · rw [h.isLaunched] at hl
    cases hl
  · cases h with
    | passing child phase h =>
        obtain rfl : phase = .broken := hp
        generalize s.phase = p at h
        cases h
    | broken b h =>
        refine hnone (.inl ?_)
        unfold Service.isLaunched
        rw [h]
    | stored | announced | exited => cases hp

theorem Aside.childless (h : s.Aside now s') (hnone : s.Childless) : s'.Childless := by
  cases h with
  | process child h => exact fun hp => h (hnone hp)
  | heeded h => exact (Service.passage_heed h).childless hnone

end Effects

namespace Scene

/-- **A scene is in order**: its records are right, what the callers know is so, one of them at most
has the lock, and one start at most is accepted. -/
structure Ordered (id : String) (sc : Scene) (s : Service) : Prop where
  here : sc.fleet.service? id = some s
  named : s.id = id
  consistent : s.Consistent
  records : sc.Records s
  childless : s.Childless
  unasked : s.lifecycle = .idle → s.stopRequested = false
  knows : ∀ call ∈ sc.callers, call.Knows s
  alone : AtMostOne Call.isInside sc.callers
  first : AtMostOne Call.isAccepted sc.callers

variable {id : String} {sc sc' : Scene} {s s' : Service}

theorem isInside_of_isFree (h : sc.isFree = true) {call : Call} (hcall : call ∈ sc.callers) :
    call.isInside = false := by
  unfold isFree at h
  simpa using List.all_eq_true.1 h call hcall

/-- Whoever has the lock is spared by the owner. -/
theorem Ordered.spares_own (h : sc.Ordered id s) (hp : s.Passage s') (hmay : sc.mayGoOn s = true)
    {call : Call} (hcall : call ∈ sc.callers) (hin : call.isInside = true) : s.Spares s' := by
  refine hp.spares h.consistent fun n hn => ?_
  unfold mayGoOn at hmay
  rw [hn] at hmay
  rw [isInside_of_isFree hmay hcall] at hin
  cases hin

/-- The owner does not launch anything before a start is handed over. -/
theorem not_launching_of_mayGoOn (hmay : sc.mayGoOn s = true) {call : Call}
    (hcall : call ∈ sc.callers) (hover : call.isHandingOver = true) : s.phase ≠ .launching := by
  intro hp
  unfold mayGoOn at hmay
  rw [hp] at hmay
  have hnot : call.isHandingOver = false := by simpa using List.all_eq_true.1 hmay call hcall
  rw [hnot] at hover
  cases hover

/-- A step of one call leaves what all others know. -/
theorem Ordered.knows_go (h : sc.Ordered id s) {i : Nat} {call : Call}
    (hcall : sc.callers[i]? = some call) :
    ∀ c ∈ sc.callers.set i (call.step id sc.fleet).1, c.Knows (call.effect s) := by
  have hk := h.knows call (List.mem_of_getElem? hcall)
  intro c hc
  obtain ⟨j, hj⟩ := List.mem_iff_getElem?.1 hc
  rw [List.getElem?_set] at hj
  by_cases hij : i = j
  · rw [if_pos hij, if_pos (List.getElem?_eq_some_iff.1 hcall).1] at hj
    cases hj
    exact hk.learns h.here h.consistent
  · rw [if_neg hij] at hj
    -- who acts does not have the lock if somebody else has it
    have hout : c.isInside = true → call.isInside = false := by
      intro hin
      rw [Bool.eq_false_iff]
      exact fun hin' => hij (h.alone i j call c hcall hj hin' hin)
    refine (h.knows c (List.mem_of_getElem? hj)).keeps h.consistent h.records.reticent
      (hk.keeps_effect h.consistent) ?_ ?_
    · exact fun hin => Call.spares_effect (hout hin) s
    · intro hover hp
      have hin : c.isInside = true := by
        unfold Call.isHandingOver at hover
        split at hover
        · rfl
        · cases hover
      rw [Call.phase_effect (hout hin)]
      exact hp

/-- Who takes the lock is the only one who has it. -/
theorem Ordered.alone_go (h : sc.Ordered id s) {i : Nat} {call : Call}
    (hcall : sc.callers[i]? = some call) (hfree : call.isEntering = true → sc.isFree = true) :
    AtMostOne Call.isInside (sc.callers.set i (call.step id sc.fleet).1) := by
  refine h.alone.set hcall fun hin => ?_
  rcases Call.isInside_step hin with hin | hent
  · exact .inl hin
  · exact .inr fun c hc => isInside_of_isFree (hfree hent) hc

/-- **A start that is accepted is the only one.** -/
theorem Ordered.first_go (h : sc.Ordered id s) {i : Nat} {call : Call}
    (hcall : sc.callers[i]? = some call) :
    AtMostOne Call.isAccepted (sc.callers.set i (call.step id sc.fleet).1) := by
  refine h.first.set hcall fun ha => ?_
  rcases Call.isAccepted_step h.here ha with ha | ⟨rfl, hi⟩
  · exact .inl ha
  · refine .inr fun c hc => ?_
    obtain ⟨j, hj⟩ := List.mem_iff_getElem?.1 hc
    rw [Bool.eq_false_iff]
    intro ha'
    -- it would have the lock, which this one has
    have hin := (h.knows c hc).isInside_of_idle hi ha'
    obtain rfl := h.alone i j _ c hcall hj rfl hin
    cases hcall.symm.trans hj
    cases ha'

/-- **Every move keeps the order.** -/
theorem Ordered.step (h : sc.Ordered id s) (hstep : sc.Step id s sc' s')
    (hs' : sc'.fleet.service? id = some s') : sc'.Ordered id s' := by
  have hc := h.consistent
  cases hstep with
  | still => exact h
  | come demand =>
      obtain ⟨hhere, hnamed, -, hrec, hnone, hun, hknows, halone, hfirst⟩ := h
      refine ⟨hhere, hnamed, hc, ?_, hnone, hun, ?_, halone.concat demand.isInside_call,
        hfirst.concat demand.isAccepted_call⟩
      · exact ⟨hrec.request, hrec.launches, hrec.reticent, hrec.unanswered, hrec.told, hrec.done⟩
      · intro c hmem
        rcases List.mem_append.1 hmem with hmem | hmem
        · exact hknows c hmem
        · rw [List.mem_singleton.1 hmem]
          exact demand.knows_call s
  | go caller call hcall hfree =>
      have hk := h.knows call (List.mem_of_getElem? hcall)
      refine ⟨hs', (hk.keeps_effect hc).id.trans h.named, hk.consistent_effect hc, ?_,
        hk.childless hc h.childless, hk.unasked h.unasked, h.knows_go hcall,
        h.alone_go hcall hfree, h.first_go hcall⟩
      refine h.records.call hc hk ?_ _ _
      rintro key value rfl
      rfl
  | own f _ hpass hmay hgoes =>
      have hc' := (hgoes hc).consistent
      have hkeeps := hpass.keeps hc
      refine ⟨hs', hkeeps.id.trans h.named, hc', h.records.own hc hc' hpass f,
        hpass.childless h.childless, ?_, ?_, h.alone, h.first⟩
      · intro hi
        rw [hpass.stopRequested]
        exact h.unasked (Decidable.byContradiction fun hn => hkeeps.started hn hi)
      · intro c hmem
        refine (h.knows c hmem).keeps hc h.records.reticent hkeeps
          (h.spares_own hpass hmay hmem) ?_
        exact fun hover hp => absurd hp (not_launching_of_mayGoOn hmay hmem hover)
  | aside f _ haside hgoes =>
      have hc' := (hgoes hc).consistent
      have hkeeps := haside.keeps hc
      refine ⟨hs', hkeeps.id.trans h.named, hc', h.records.aside hc hc' haside f,
        haside.childless h.childless, ?_, ?_, h.alone, h.first⟩
      · intro hi
        rw [haside.stopRequested]
        exact h.unasked (Decidable.byContradiction fun hn => hkeeps.started hn hi)
      · intro c hmem
        exact (h.knows c hmem).keeps hc h.records.reticent hkeeps (fun _ => haside.spares)
          fun _ => haside.launching

/-- A new service among no callers is in order. -/
theorem ordered_opening {f : Fleet} {name home : String} {program : Program} {options : Options}
    (hs : f.service? id = some (.create id name program options home)) :
    (opening f).Ordered id (.create id name program options home) where
  here := hs
  named := rfl
  consistent := Service.consistent_create id name program options home
  records :=
    ⟨rfl, rfl, fun _ => ⟨rfl, rfl⟩, fun _ => rfl,
      fun ht => absurd rfl (ht.not_idle (Service.consistent_create id name program options home)),
      nofun⟩
  childless _ := rfl
  unasked _ := rfl
  knows _ hmem := absurd hmem List.not_mem_nil
  alone := .nil
  first := .nil

/-- **Every scene that a new service comes to is in order.** -/
theorem ordered_run {f : Fleet} {name home : String} {program : Program} {options : Options}
    (hs : f.service? id = some (.create id name program options home)) (moves : List Move) :
    ∃ s, ((opening f).run id moves).Ordered id s := by
  have hrun : ∀ (moves : List Move) (sc : Scene) (s : Service), sc.Ordered id s →
      ∃ s', (sc.run id moves).Ordered id s' := by
    intro moves
    induction moves with
    | nil => exact fun sc s h => ⟨s, h⟩
    | cons mv rest ih =>
        intro sc s h
        obtain ⟨s', hs', hstep⟩ := step_move h.here mv
        exact ih (sc.move id mv) s' (h.step hstep hs')
  exact hrun moves (opening f) _ (ordered_opening hs)

/-- A host on which every program names one endpoint and stays until its input ends. -/
def promptHost : Host :=
  ⟨[], fun _ _ _ => .ok
    [.write (Text.Utf8.bytesOf "VERSION 1.0\nEXPOSE m socks5 127.0.0.1:3\nDONE\n"),
      .untilInputEnds]⟩

/-- A fleet of one new service. -/
def lone : Fleet := Fleet.empty.create "home" "svc" "x" .self .standard

end Scene

end Failover.Service
