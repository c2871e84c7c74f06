/-
  Failover.Proofs.Service.Progress
  ────────────────────────────────
  **How a service goes on.** The phase of the task that owns a process
  fixes how far the service has come and what its start has come to.  From
  there it only goes forward: an idle service stays idle until it is
  started, one that is not active does not become so by itself, what a
  successful start told stays, and a request to stop is not taken back.

  Main statements: `Fleet.goes_step` and `Fleet.goes_call` — all services
  of a fleet go on like that, whatever happens in it and whoever stops or
  removes them — and `RemoveCall.Ensures.step` — what a call to remove a
  service has made sure of when it comes to its end.
-/
import Failover.Transport.Carrier
import Std.Data.String.ToNat

namespace Failover.Service

/-! ## §1. Phases. -/

section

/-- A start that has failed for a cause has come to nothing yet; one without a cause succeeded. -/
def Since (lifecycle : Lifecycle) (outcome : Option (Except Abort Unit)) : Option Fault → Prop
  | none => lifecycle = .running ∧ outcome = some (.ok ())
  | some _ => lifecycle = .starting ∧ outcome = none

/-- A service is active from its start until it has exited. -/
theorem isActive_iff {s : Service} :
    s.isActive = true ↔ s.lifecycle ≠ .idle ∧ s.lifecycle ≠ .exited := by
  unfold isActive
  cases s.lifecycle <;> decide

/-- **What the phase of a service says about it.** -/
def Consistent (s : Service) : Prop :=
  match s.phase with
  | .none => s.lifecycle = .idle ∧ s.outcome = none
  | .launching | .handshaking .. | .answering _ | .announcing =>
      s.lifecycle = .starting ∧ s.outcome = none
  | .supervising => s.lifecycle = .running ∧ s.outcome = some (.ok ())
  | .ending cause _ | .finishing cause | .deregistering cause | .exiting cause =>
      Since s.lifecycle s.outcome cause
  | .finished => s.lifecycle = .exited ∧ s.outcome ≠ none
  | .broken => s.lifecycle = .starting ∧ ∃ b, s.outcome = some (.error (.breach b))

/-- **A service goes on.** -/
structure Goes (s s' : Service) : Prop where
  consistent : s'.Consistent
  idle : s.lifecycle = .idle → s'.lifecycle = .idle
  active : s'.isActive = true → s.isActive = true
  /-- What a successful start told stays. -/
  ok : s.outcome = some (.ok ()) → s'.outcome = some (.ok ()) ∧ s'.response = s.response
  asked : s.stopRequested = true → s'.stopRequested = true

variable {s s' s'' : Service}

theorem Goes.refl (h : s.Consistent) : s.Goes s :=
  ⟨h, fun h => h, fun h => h, fun ho => ⟨ho, rfl⟩, fun h => h⟩

theorem Goes.trans (h : s.Goes s') (h' : s'.Goes s'') : s.Goes s'' where
  consistent := h'.consistent
  idle hi := h'.idle (h.idle hi)
  active ha := h.active (h'.active ha)
  ok ho := ⟨(h'.ok (h.ok ho).1).1, (h'.ok (h.ok ho).1).2.trans (h.ok ho).2⟩
  asked hs := h'.asked (h.asked hs)

theorem consistent_create (id name : String) (program : Program) (options : Options)
    (home : String) : (create id name program options home).Consistent := ⟨rfl, rfl⟩

/-- What the phase of a service says, where the phase is known. -/
theorem Consistent.of_phase {p : Phase} (h : s.Consistent) (hp : s.phase = p) :
    Consistent { s with phase := p } := by
  subst hp
  exact h

/-- An idle service has no owner. -/
theorem Consistent.phase_of_idle (h : s.Consistent) (hi : s.lifecycle = .idle) :
    s.phase = .none := by
  unfold Consistent Since at h
  split at h <;> first
    | assumption
    | (split at h <;> simp_all)
    | simp_all

/-- The start of a service that is idle has come to nothing. -/
theorem Consistent.outcome_of_idle (h : s.Consistent) (hi : s.lifecycle = .idle) :
    s.outcome = none := by
  unfold Consistent Since at h
  split at h <;> first
    | exact h.2
    | (split at h <;> simp_all)
    | simp_all

/-- A start that failed for a fault has its service exited. -/
theorem Consistent.exited_of_fault (h : s.Consistent) {cause : Fault}
    (ho : s.outcome = some (.error (.fault cause))) : s.lifecycle = .exited := by
  unfold Consistent Since at h
  split at h <;> first
    | exact h.1
    | (split at h <;> simp_all)
    | simp_all

/-- A service that is idle may be started. -/
theorem Consistent.begin (h : s.Consistent) (hi : s.lifecycle = .idle) :
    Consistent { s with lifecycle := .starting, phase := .launching } :=
  ⟨rfl, h.outcome_of_idle hi⟩

/-- While a start has come to nothing yet, what it told does not count. -/
theorem Goes.of_pending (hc : s'.Consistent) (ho : s.outcome = none)
    (hl : s.lifecycle = .starting) (hs : s'.stopRequested = s.stopRequested) : s.Goes s' where
  consistent := hc
  idle hi := by rw [hl] at hi; cases hi
  active _ := by unfold isActive; rw [hl]; rfl
  ok hok := by rw [ho] at hok; cases hok
  asked h := by rw [hs]; exact h

/-- What is kept when nothing of the start and the request to stop changes. -/
theorem Goes.of_eq (hc : s'.Consistent) (hl : s'.lifecycle = s.lifecycle)
    (ho : s'.outcome = s.outcome) (hr : s'.response = s.response)
    (hs : s.stopRequested = true → s'.stopRequested = true) : s.Goes s' where
  consistent := hc
  idle hi := by rw [hl]; exact hi
  active ha := by unfold isActive at ha ⊢; rw [← hl]; exact ha
  ok hok := ⟨by rw [ho]; exact hok, hr⟩
  asked := hs

/-! ## §2. Steps of the owner. -/

/-- A handshake that goes on leaves the start pending. -/
theorem goes_proceed (child : Option Host.Child) (now : Nat) (p : Handshake.Progress)
    (hl : s.lifecycle = .starting) (ho : s.outcome = none) :
    s.Goes ({ s with child }.proceed now p) := by
  unfold proceed
  split
  · exact .of_pending ⟨hl, ho⟩ ho hl rfl
  · exact .of_pending ⟨hl, ho⟩ ho hl rfl
  · unfold fail
    split
    · exact .of_pending ⟨hl, ho⟩ ho hl rfl
    · exact .of_pending ⟨hl, ho⟩ ho hl rfl

/-- A launch leaves the start pending, unless the host breaks it off. -/
theorem goes_launch (host : Host) (now : Nat) (hl : s.lifecycle = .starting)
    (ho : s.outcome = none) : s.Goes (s.launch host now) := by
  unfold launch
  split
  · exact .of_pending ⟨hl, _, rfl⟩ ho hl rfl
  · dsimp only
    split
    · exact .of_pending ⟨hl, ho⟩ ho hl rfl
    · exact .of_pending ⟨hl, ho⟩ ho hl rfl

/-- **Every step of the owner lets the service go on.** -/
theorem goes_advance {host : Host} {now : Nat} (hc : s.Consistent)
    (h : s.advance? host now = some s') : s.Goes s' := by
  have hc' := hc
  unfold Consistent at hc
  unfold advance? at h
  cases hp : s.phase with
  | none => rw [hp] at h; cases h
  -- up to the announcement the start has come to nothing
  | launching =>
      rw [hp] at h hc
      cases h
      exact goes_launch host now hc.1 hc.2
  | handshaking n b =>
      rw [hp] at h hc
      dsimp only at h
      unfold listen? at h
      split at h
      · cases h
      · next c hchild =>
        split at h
        · cases h
          exact goes_proceed _ _ _ hc.1 hc.2
        · split at h
          · cases h
          · cases h
            exact goes_proceed s.child _ _ hc.1 hc.2
  | answering n =>
      rw [hp] at h hc
      cases h
      exact .of_pending ⟨hc.1, hc.2⟩ hc.2 hc.1 rfl
  | announcing =>
      rw [hp] at h hc
      cases h
      exact .of_pending ⟨rfl, rfl⟩ hc.2 hc.1 rfl
  -- from there to the end nothing of it changes
  | supervising =>
      rw [hp] at h hc
      dsimp only at h
      split at h
      · cases h
        exact .of_eq ⟨hc.1, hc.2⟩ rfl rfl rfl fun h => h
      · cases h
  | ending cause deadline =>
      rw [hp] at h hc
      dsimp only at h
      split at h
      · cases h
        exact .of_eq hc rfl rfl rfl fun h => h
      · split at h
        · cases h
          exact .of_eq hc' rfl rfl rfl fun h => h
        · cases h
  | finishing cause =>
      rw [hp] at h hc
      cases h
      refine .of_eq ?_ rfl rfl rfl fun h => h
      -- it is removed first if that was asked for
      cases hr : s.removeOnStop with
      | true =>
          rw [if_pos rfl]
          exact hc
      | false =>
          rw [if_neg (by decide)]
          exact hc
  | deregistering cause => rw [hp] at h; cases h
  | exiting cause =>
      rw [hp] at h hc
      cases h
      cases cause with
      | none =>
          obtain ⟨hl, ho⟩ := hc
          refine ⟨⟨rfl, ?_⟩, ?_, ?_, ?_, fun h => h⟩
          · rw [ho]
            simp
          · intro hi
            rw [hl] at hi
            cases hi
          · intro ha
            cases ha
          · exact fun hok => ⟨hok, rfl⟩
      | some cause =>
          -- only now the failed start comes to something
          refine ⟨⟨rfl, by simp⟩, ?_, ?_, ?_, fun h => h⟩
          · intro hi
            rw [hc.1] at hi
            cases hi
          · intro ha
            cases ha
          · intro hok
            rw [hc.2] at hok
            cases hok
  | finished => rw [hp] at h; cases h
  | broken => rw [hp] at h; cases h

/-- Heeding a request to stop lets the service go on. -/
theorem goes_heed {now : Nat} (hc : s.Consistent) (h : s.heed? now = some s') : s.Goes s' := by
  unfold Consistent at hc
  unfold heed? at h
  split at h
  · split at h
    · next hp =>
      rw [hp] at hc
      cases h
      exact .of_pending ⟨hc.1, hc.2⟩ hc.2 hc.1 rfl
    · next hp =>
      rw [hp] at hc
      cases h
      exact .of_eq ⟨hc.1, hc.2⟩ rfl rfl rfl fun h => h
    · cases h
  · cases h

/-- What the process does by itself lets the service go on. -/
theorem goes_childStep {now : Nat} (hc : s.Consistent) (h : s.childStep? now = some s') :
    s.Goes s' := by
  unfold childStep? at h
  split at h
  · cases h
    exact .of_eq hc rfl rfl rfl fun h => h
  · cases h

/-- A request to stop lets the service go on. -/
theorem goes_requestStop (hc : s.Consistent) : s.Goes s.requestStop :=
  .of_eq hc rfl rfl rfl fun _ => rfl

/-- A request to remove it lets the service go on. -/
theorem goes_requestRemoval (hc : s.Consistent) : s.Goes s.requestRemoval :=
  .of_eq hc rfl rfl rfl fun h => h

/-! ## §3. Dismissal. -/

/-- **A service that was dismissed**: its start succeeded, it speaks another protocol than the
expected one, and it was asked to stop. -/
structure IsDismissed (s : Service) (expected : String) : Prop where
  started : s.outcome = some (.ok ())
  protocol : (s.response.get? "protocol").getD "" ≠ expected
  asked : s.stopRequested = true

/-- A service that was dismissed stays so. -/
theorem IsDismissed.goes {s s' : Service} {expected : String} (h : s.IsDismissed expected)
    (hg : s.Goes s') : s'.IsDismissed expected := by
  obtain ⟨ho, hr⟩ := hg.ok h.started
  refine ⟨ho, ?_, hg.asked h.asked⟩
  rw [hr]
  exact h.protocol

end

/-! ## §4. Fleets. -/

namespace Fleet

/-- **The services of a fleet go on**: those whose phase fits them, and no others come. -/
structure Goes (f f' : Fleet) : Prop where
  service : ∀ id s, f.service? id = some s → s.Consistent →
    ∃ s', f'.service? id = some s' ∧ s.Goes s'
  only : ∀ id, f.service? id = none ↔ f'.service? id = none

variable {f f' f'' : Fleet}

theorem Goes.refl (f : Fleet) : f.Goes f := ⟨fun _ s hs hc => ⟨s, hs, .refl hc⟩, fun _ => .rfl⟩

/-- Only the services count. -/
theorem Goes.of_services_eq (h : f'.services = f.services) : f.Goes f' := by
  have hs : ∀ id, f'.service? id = f.service? id := by
    intro id
    unfold service?
    rw [h]
  refine ⟨fun id s hid hc => ⟨s, (hs id).trans hid, .refl hc⟩, fun id => by rw [hs]⟩

theorem service?_modify (f : Fleet) (id : String) (g : Service → Service) (x : String) :
    (f.modify id g).service? x = if x = id then (f.service? id).map g else f.service? x := by
  unfold modify
  cases hs : f.service? id with
  | none =>
      by_cases hx : x = id
      · rw [if_pos hx, hx]
        exact hs
      · rw [if_neg hx]
  | some s =>
      show (f.services.insert id (g s)).get? x = _
      rw [Named.get?_insert]
      rfl

/-- A service that is there is changed. -/
theorem service?_modify_self {id : String} {s : Service} (hs : f.service? id = some s)
    (g : Service → Service) : (f.modify id g).service? id = some (g s) := by
  rw [service?_modify, if_pos rfl, hs]
  rfl

/-- Changing one service that goes on lets the fleet go on. -/
theorem goes_modify {id : String} {g : Service → Service}
    (h : ∀ s, f.service? id = some s → s.Consistent → s.Goes (g s)) : f.Goes (f.modify id g) := by
  constructor
  · intro x s hs hc
    rw [service?_modify]
    by_cases hx : x = id
    · subst hx
      rw [if_pos rfl, hs]
      exact ⟨g s, rfl, h s hs hc⟩
    · rw [if_neg hx]
      exact ⟨s, hs, .refl hc⟩
  · intro x
    rw [service?_modify]
    by_cases hx : x = id
    · rw [if_pos hx, hx, Option.map_eq_none_iff]
    · rw [if_neg hx]

/-- Putting another one in its place that goes on from it lets the fleet go on. -/
theorem goes_replace {id : String} {s s' : Service} (hs : f.service? id = some s)
    (h : s.Consistent → s.Goes s') : f.Goes (f.modify id fun _ => s') := by
  refine goes_modify fun x hx hc => ?_
  obtain rfl : s = x := Option.some.inj (hs.symm.trans hx)
  exact h hc

theorem Goes.trans (h : f.Goes f') (h' : f'.Goes f'') : f.Goes f'' where
  service id s hs hc := by
    obtain ⟨s', hs', hg⟩ := h.service id s hs hc
    obtain ⟨s'', hs'', hg'⟩ := h'.service id s' hs' hg.consistent
    exact ⟨s'', hs'', hg.trans hg'⟩
  only id := (h.only id).trans (h'.only id)

theorem services_deregister (f : Fleet) (id : String) :
    (f.deregister id).2.services = f.services := by
  unfold deregister
  split
  · rfl
  · split <;> rfl

/-- A step of a call to stop a service lets the fleet go on. -/
theorem goes_stopCall (f : Fleet) (id : String) (call : StopCall) : f.Goes (call.step id f).2 := by
  cases call with
  | checking =>
      unfold StopCall.step
      dsimp only
      split <;> exact .refl f
  | asking => exact goes_modify fun _ _ hc => Service.goes_requestStop hc
  | finished asked => exact .refl f

/-- **Every step of a call to remove a service** lets the fleet go on. -/
theorem goes_call (f : Fleet) (id : String) (call : RemoveCall) : f.Goes (call.step id f).2 := by
  cases call with
  | checking | rechecking =>
      unfold RemoveCall.step
      dsimp only
      split <;> exact .refl f
  | marking => exact goes_modify fun _ _ hc => Service.goes_requestRemoval hc
  | stopping call =>
      have h := goes_stopCall f id call
      unfold RemoveCall.step
      dsimp only
      split
      · next heq =>
        rw [heq] at h
        exact h
      · next heq =>
        rw [heq] at h
        exact h
  | deregistering => exact .of_services_eq (services_deregister f id)
  | finished result => exact .refl f

/-- **Whatever happens in a fleet** lets it go on. -/
theorem goes_step {host : Host} {action : Action} (h : f.step? host action = some f') :
    f.Goes f' := by
  cases action with
  | child id =>
      obtain ⟨s, hs, h⟩ := Option.bind_eq_some_iff.1 h
      obtain ⟨s', hs', h⟩ := Option.bind_eq_some_iff.1 h
      cases h
      exact goes_replace hs fun hc => Service.goes_childStep hc hs'
  | owner id =>
      unfold step? ownerStep? at h
      dsimp only at h
      split at h
      · cases h
      · next s hs =>
        split at h
        · next cause hp =>
          cases h
          have heq := services_deregister f id
          have hs' : (f.deregister id).2.service? id = some s := by
            unfold service?
            rw [heq]
            exact hs
          refine (Goes.of_services_eq heq).trans (goes_modify fun x hx hc => ?_)
          obtain rfl : s = x := Option.some.inj (hs'.symm.trans hx)
          unfold Service.Consistent at hc
          rw [hp] at hc
          exact .of_eq hc rfl rfl rfl fun h => h
        · obtain ⟨s', hs', h⟩ := Option.map_eq_some_iff.1 h
          cases h
          exact goes_replace hs fun hc => Service.goes_advance hc hs'
  | heed id =>
      obtain ⟨s, hs, h⟩ := Option.bind_eq_some_iff.1 h
      obtain ⟨s', hs', h⟩ := Option.bind_eq_some_iff.1 h
      cases h
      exact goes_replace hs fun hc => Service.goes_heed hc hs'
  | elapse ms =>
      cases h
      exact .of_services_eq rfl

/-! ## §5. New services. -/

theorem numbered_injective {i j : Nat} (h : numbered i = numbered j) : i = j := by
  unfold numbered at h
  exact Nat.repr_injective (String.append_right_inj _ |>.1 h)

/-- An id that has a service is one of the names. -/
theorem mem_keys_of_service? {id : String} {s : Service} (h : f.service? id = some s) :
    id ∈ f.services.keys := by
  obtain ⟨before, after, heq, -⟩ := List.lookup_eq_some_iff.1 h
  unfold Named.keys
  rw [heq]
  simp

/-- **No service has the id that is taken for a new one**: there are more numbers to choose from
than services. -/
theorem service?_freshId (f : Fleet) : f.service? f.freshId = none := by
  unfold freshId
  dsimp only
  cases hfind : (List.range' f.services.size (f.services.size + 1)).find?
      fun i => (f.service? (numbered i)).isNone with
  | some i => simpa using List.find?_some hfind
  | none =>
      have hall := List.find?_eq_none.1 hfind
      have hsub : (List.range' f.services.size (f.services.size + 1)).map numbered ⊆
          f.services.keys := by
        intro id hid
        obtain ⟨i, hi, rfl⟩ := List.mem_map.1 hid
        cases hs : f.service? (numbered i) with
        | none => exact absurd (by rw [hs]; rfl) (hall i hi)
        | some s => exact mem_keys_of_service? hs
      have hnodup : ((List.range' f.services.size (f.services.size + 1)).map numbered).Nodup := by
        rw [List.Nodup, List.pairwise_map]
        refine List.Pairwise.imp ?_ List.nodup_range'
        exact fun hne h => hne (numbered_injective h)
      have hle := hnodup.length_le_of_subset hsub
      rw [List.length_map, List.length_range', Named.keys, List.length_map] at hle
      exact absurd hle (Nat.not_succ_le_self _)

/-- **A service is added** that is idle; all others stay as they are. -/
structure Adds (f : Fleet) (id : String) (f' : Fleet) : Prop where
  others : ∀ x, x ≠ id → f'.service? x = f.service? x
  idle : ∃ s, f'.service? id = some s ∧ s.lifecycle = .idle ∧ s.Consistent

theorem adds_create (f : Fleet) (registry id name : String) (program : Program)
    (options : Options) : f.Adds id (f.create registry id name program options) := by
  have hs : ∀ x, (f.create registry id name program options).service? x =
      if x = id then some (.create id name program options registry) else f.service? x := by
    intro x
    unfold create register
    split <;> exact Named.get?_insert ..
  constructor
  · intro x hx
    rw [hs, if_neg hx]
  · refine ⟨_, (hs id).trans (if_pos rfl), rfl, ?_⟩
    exact Service.consistent_create id name program options registry

/-- Variables of a new service may be set. -/
theorem Adds.setVar {id : String} (h : f.Adds id f') (key value : String) :
    f.Adds id (f'.setVar id key value).2 := by
  obtain ⟨hothers, s, hs, hi, hc⟩ := h
  unfold Fleet.setVar
  rw [hs]
  dsimp only
  split
  · next s' hset =>
    have hs' : s'.lifecycle = .idle ∧ s'.Consistent := by
      unfold Service.setVar at hset
      split at hset
      · cases hset
      · split at hset
        · cases hset
        · cases hset
          exact ⟨hi, hc⟩
    constructor
    · intro x hx
      rw [service?_modify, if_neg hx]
      exact hothers x hx
    · exact ⟨s', service?_modify_self hs _, hs'⟩
  · exact ⟨hothers, s, hs, hi, hc⟩

/-- Variables of a new carrier may be set. -/
theorem Adds.setIdle {k : Carrier} (h : f.Adds k.service f') (action : IdleAction)
    (key value : String) : f.Adds k.service (k.setIdle f' action key value).2 := by
  unfold Carrier.setIdle
  split
  · exact h.setVar key value
  · exact h

/-- All of its request may be set. -/
theorem Adds.setAll {id : String} (h : f.Adds id f') (vars : List (String × String)) :
    f.Adds id (Carrier.setAll id vars f').2 := by
  induction vars generalizing f' with
  | nil => exact h
  | cons p rest ih =>
      have hset := h.setVar p.1 p.2
      unfold Carrier.setAll
      split
      · next f₁ heq =>
        rw [heq] at hset
        exact ih hset
      · exact hset

/-! ## §6. Starts. -/

/-- A start begins at a service that is idle. -/
theorem begin_eq_ok {id : String} (h : f.begin id = (.ok (), f')) :
    ∃ s, f.service? id = some s ∧ s.lifecycle = .idle ∧
      f' = f.modify id fun _ => { s with lifecycle := .starting, phase := .launching } := by
  unfold Fleet.begin at h
  split at h
  · cases h
  · next s hs =>
    cases hi : s.lifecycle with
    | idle =>
        rw [Service.begin, hi] at h
        cases h
        exact ⟨s, hs, hi, rfl⟩
    | starting | running | exited =>
        rw [Service.begin, hi] at h
        cases h

/-- An idle service can be begun. -/
theorem begin_of_idle {id : String} {s : Service} (hs : f.service? id = some s)
    (hi : s.lifecycle = .idle) : ∃ f', f.begin id = (.ok (), f') := by
  unfold Fleet.begin Service.begin
  rw [hs]
  dsimp only
  rw [hi]
  exact ⟨_, rfl⟩

/-- A start that is refused changes nothing, and the service is not idle. -/
theorem begin_eq_error {id : String} {cause : Fault} (h : f.begin id = (.error cause, f')) :
    f' = f ∧ ∀ s, f.service? id = some s → s.lifecycle ≠ .idle := by
  unfold Fleet.begin at h
  split at h
  · next hs =>
    cases h
    refine ⟨rfl, fun s hs' => ?_⟩
    rw [hs] at hs'
    cases hs'
  · next s hs =>
    split at h
    · cases h
    · next cause' hb =>
      cases h
      refine ⟨rfl, fun s' hs' hi => ?_⟩
      obtain rfl : s = s' := Option.some.inj (hs.symm.trans hs')
      rw [Service.begin, hi] at hb
      cases hb

/-! ## §7. Requests to stop. -/

/-- Whatever is still active was asked to stop. -/
def Asked (f : Fleet) (id : String) : Prop :=
  ∀ s, f.service? id = some s → s.isActive = true → s.stopRequested = true

theorem isActive_eq_true {id : String} :
    f.isActive id = true ↔ ∃ s, f.service? id = some s ∧ s.isActive = true :=
  Option.any_eq_true ..

/-- Who is not active need not be asked. -/
theorem Asked.of_inactive {id : String} (h : f.isActive id = false) : f.Asked id := by
  intro s hs ha
  have hact := isActive_eq_true.2 ⟨s, hs, ha⟩
  rw [h] at hact
  cases hact

/-- Asking for it. -/
theorem asked_modify (f : Fleet) (id : String) : (f.modify id Service.requestStop).Asked id := by
  intro s' hs' _
  rw [service?_modify, if_pos rfl] at hs'
  obtain ⟨s, -, rfl⟩ := Option.map_eq_some_iff.1 hs'
  rfl

/-- A service after the fleet went on is one that was there before. -/
theorem Goes.back (hf : f.Goes f') {id : String} {s' : Service}
    (hc : ∀ s, f.service? id = some s → s.Consistent) (hs' : f'.service? id = some s') :
    ∃ s, f.service? id = some s ∧ s.Goes s' := by
  cases hs : f.service? id with
  | none =>
      rw [(hf.only id).1 hs] at hs'
      cases hs'
  | some s =>
      obtain ⟨s'', hs'', hg⟩ := hf.service id s hs (hc s hs)
      obtain rfl : s'' = s' := Option.some.inj (hs''.symm.trans hs')
      exact ⟨s, rfl, hg⟩

/-- A service that is not active stays so as the fleet goes on. -/
theorem Goes.inactive (hf : f.Goes f') {id : String}
    (hc : ∀ s, f.service? id = some s → s.Consistent) (h : f.isActive id = false) :
    f'.isActive id = false := by
  rw [Bool.eq_false_iff]
  intro ha
  obtain ⟨s', hs', hact⟩ := isActive_eq_true.1 ha
  obtain ⟨s, hs, hg⟩ := hf.back hc hs'
  rw [isActive_eq_true.2 ⟨s, hs, hg.active hact⟩] at h
  cases h

/-- A request to stop stays as the fleet goes on. -/
theorem Asked.goes {id : String} (h : f.Asked id) (hf : f.Goes f')
    (hc : ∀ s, f.service? id = some s → s.Consistent) : f'.Asked id := by
  intro s' hs' ha
  obtain ⟨s, hs, hg⟩ := hf.back hc hs'
  exact hg.asked (h s hs (hg.active ha))

/-! ## §8. Growth. -/

/-- **A fleet has grown** out of another one: the phases of what has come since fit, and nothing
has gone. -/
structure Grows (fleet f : Fleet) : Prop where
  consistent : ∀ id s, fleet.service? id = none → f.service? id = some s → s.Consistent
  kept : ∀ id, f.service? id = none → fleet.service? id = none

namespace Grows

variable {fleet f f' : Fleet}

theorem refl (fleet : Fleet) : fleet.Grows fleet where
  consistent id s hid hs := by rw [hid] at hs; cases hs
  kept _ h := h

theorem goes (h : fleet.Grows f) (hf : f.Goes f') : fleet.Grows f' where
  consistent id s hid hs := by
    obtain ⟨s₀, hs₀, hg⟩ := hf.back (fun s => h.consistent id s hid) hs
    exact hg.consistent
  kept id hs := h.kept id ((hf.only id).2 hs)

theorem adds (h : fleet.Grows f) {id : String} (ha : f.Adds id f') : fleet.Grows f' := by
  obtain ⟨hothers, s, hs, -, hc⟩ := ha
  constructor
  · intro x s' hx hs'
    by_cases hid : x = id
    · subst hid
      obtain rfl : s = s' := Option.some.inj (hs.symm.trans hs')
      exact hc
    · exact h.consistent x s' hx (by rw [← hothers x hid]; exact hs')
  · intro x hx
    by_cases hid : x = id
    · rw [hid, hs] at hx
      cases hx
    · exact h.kept x (by rw [← hothers x hid]; exact hx)

/-- A service that is idle is started. -/
theorem begin (h : fleet.Grows f) {id : String} {s : Service} (hs : f.service? id = some s)
    (hi : s.lifecycle = .idle) :
    fleet.Grows (f.modify id fun _ => { s with lifecycle := .starting, phase := .launching }) := by
  constructor
  · intro x s' hx hs'
    rw [service?_modify] at hs'
    split at hs'
    · next heq =>
      rw [hs] at hs'
      cases hs'
      exact (h.consistent x s hx (by rw [heq]; exact hs)).begin hi
    · exact h.consistent x s' hx hs'
  · intro x hx
    rw [service?_modify] at hx
    split at hx
    · rw [hs] at hx
      cases hx
    · exact h.kept x hx

end Grows

end Fleet

/-! ## §9. Calls to remove a service. -/

namespace RemoveCall

/-- **What a call to remove a service has made sure of**: whatever is active when it looks again
was asked to stop, and what it takes out of its registry is not active. -/
def Ensures (id : String) (f : Fleet) : RemoveCall → Prop
  | .stopping (.finished _) | .rechecking | .finished _ => f.Asked id
  | .deregistering => f.isActive id = false
  | _ => True

variable {f f' : Fleet} {id : String} {call : RemoveCall}

/-- What was made sure of stays as the fleet goes on. -/
theorem Ensures.goes (h : call.Ensures id f) (hf : f.Goes f')
    (hc : ∀ s, f.service? id = some s → s.Consistent) : call.Ensures id f' := by
  cases call with
  | checking | marking => exact trivial
  | stopping call =>
      cases call with
      | checking | asking => exact trivial
      | finished asked => exact Fleet.Asked.goes h hf hc
  | rechecking | finished result => exact Fleet.Asked.goes h hf hc
  | deregistering => exact hf.inactive hc h

/-- **Every step of the call** makes sure of what is to be made sure of. -/
theorem Ensures.step (h : call.Ensures id f) :
    (call.step id f).1.Ensures id (call.step id f).2 := by
  cases call with
  | checking =>
      unfold RemoveCall.step
      dsimp only
      split
      · exact trivial
      · next ha => exact Bool.eq_false_iff.2 ha
  | marking => exact trivial
  | stopping call =>
      cases call with
      | checking =>
          unfold RemoveCall.step StopCall.step
          dsimp only
          by_cases ha : f.isActive id = true
          · rw [if_pos ha]
            exact trivial
          · rw [if_neg ha]
            exact Fleet.Asked.of_inactive (Bool.eq_false_iff.2 ha)
      | asking => exact Fleet.asked_modify f id
      | finished asked => exact h
  | rechecking =>
      unfold RemoveCall.step
      dsimp only
      split
      · exact h
      · next ha => exact Bool.eq_false_iff.2 ha
  | deregistering =>
      refine Fleet.Asked.of_inactive ?_
      have hs : (f.deregister id).2.isActive id = f.isActive id := by
        unfold Fleet.isActive Fleet.service?
        rw [Fleet.services_deregister]
      exact hs.trans h
  | finished result => exact h

/-- A call that has come to something leaves nothing active that was not asked to stop. -/
theorem Ensures.asked {result : Except Fault Unit} (h : call.Ensures id f)
    (hr : call.result? = some result) : f.Asked id := by
  cases call with
  | finished => exact h
  | _ => cases hr

end RemoveCall

end Failover.Service
