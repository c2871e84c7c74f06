/-
  Failover.Proofs.Supervisor.Closing
  ──────────────────────────────────
  **Shutting down, step by step.** A shutdown has the event loop stop.  Then
  it takes hold of the services that are registered at that time, asks each
  of them to stop, and waits for each of them:

      stopping ──▶ asking ──▶ waiting ──▶ returned
                ▲
                └─ what is registered here is what is stopped

  Between any two of its steps everything else goes on, the attempts that
  are under way too.

  Main statement: `Emptying.run` — when no attempt may start a service any
  more, and every active service was registered, then nothing is active
  when the shutdown has returned.
-/
import Failover.Proofs.Manager.Changes
import Failover.Proofs.Service.Ending
import Failover.Proofs.Transport.Setup
import Failover.Supervisor

namespace Failover.Manager

open Service

/-! ## §1. Shutting down. -/

/-- Where a shutdown stands. -/
inductive ClosingPhase where
  /-- The event loop is to stop. -/
  | stopping
  /-- Services are to be asked to stop, and the call for the first of them stands there; all that
  the shutdown has taken hold of are to be waited for. -/
  | asking (handles todo : List String) (call : StopCall)
  /-- These services are still to be waited for. -/
  | waiting (left : List String)
  | returned
  deriving DecidableEq, Repr

/-- The services that a shutdown has taken hold of and not seen settled. -/
def ClosingPhase.left : ClosingPhase → List String
  | .asking handles _ _ => handles
  | .waiting left => left
  | .stopping | .returned => []

/-- A manager that is shut down. -/
structure Closing where
  manager : Manager
  phase : ClosingPhase

namespace Closing

/-- The event loop has stopped: the shutdown takes hold of what is registered. -/
def seize (c : Closing) : Closing :=
  let ids := c.manager.fleet.members c.manager.registry
  { c with phase := .asking ids ids .checking }

/-- The shutdown goes on, if it can. -/
def go (c : Closing) : Closing :=
  match c.phase with
  | .stopping => if c.manager.loop.stage = .stopped then c.seize else c
  | .asking handles [] _ => { c with phase := .waiting handles }
  | .asking handles (id :: rest) call =>
      let (call, f) := call.step id c.manager.fleet
      let m := { c.manager with fleet := f }
      match call with
      | .finished _ => ⟨m, .asking handles rest .checking⟩
      | call => ⟨m, .asking handles (id :: rest) call⟩
  | .waiting [] => { c with phase := .returned }
  | .waiting (_ :: _) | .returned => c

/-- The shutdown hears of a service that has settled. -/
def hear (c : Closing) (id : String) : Closing :=
  match c.phase with
  | .waiting left =>
      if c.manager.fleet.isSettled id then { c with phase := .waiting (left.erase id) } else c
  | _ => c

/-- Something that happens during a shutdown. -/
inductive Move where
  | go
  | hear (id : String)
  | other (mv : Manager.Move)

/-- What happens. -/
def move (c : Closing) : Move → Closing
  | .go => c.go
  | .hear id => c.hear id
  | .other mv => { c with manager := c.manager.make mv }

/-- What happens, one after the other. -/
def run (c : Closing) (moves : List Move) : Closing := moves.foldl move c

end Closing

end Failover.Manager

namespace Failover

/-- A shutdown of a supervisor to which something has happened before. -/
def Supervisor.closing (s : Supervisor) (before : List Manager.Move) : Manager.Closing :=
  ⟨(before.foldl Manager.make s.manager).send .stop, .stopping⟩

namespace Manager

open Service

variable {c c' : Closing} {m m' : Manager}

/-! ## §2. What a shutdown does to the manager. -/

/-- Asking for a service to be stopped is what others may ask as well. -/
theorem make_stopCall (m : Manager) (id : String) (call : StopCall) :
    { m with fleet := (call.step id m.fleet).2 } = m.make (.ask (.call id (.stopping call))) := by
  show _ = { m with fleet := ((RemoveCall.stopping call).step id m.fleet).2 }
  congr 1
  unfold RemoveCall.step
  dsimp only
  split <;> next h => rw [h]

/-- **A step of a shutdown** leaves the manager as it is, or is a move of it. -/
theorem Closing.manager_move (c : Closing) (mv : Closing.Move) :
    (c.move mv).manager = c.manager ∨ ∃ mv', (c.move mv).manager = c.manager.make mv' := by
  cases mv with
  | other mv => exact .inr ⟨mv, rfl⟩
  | hear id =>
      left
      unfold move hear
      dsimp only
      split
      · split <;> rfl
      · rfl
  | go =>
      unfold move go
      dsimp only
      split
      · left
        split <;> rfl
      · exact .inl rfl
      · next handles id rest call _ =>
        refine .inr ⟨.ask (.call id (.stopping call)), ?_⟩
        rw [← make_stopCall c.manager id call]
        split <;> rfl
      · exact .inl rfl
      · exact .inl rfl
      · exact .inl rfl

/-- The manager is one that a run of a new one leads to. -/
def Closing.Traced (c : Closing) : Prop :=
  ∃ ch : Chronicle, ch.ReachedFrom .empty ∧ ch.manager = c.manager

/-- It stays so. -/
theorem Closing.Traced.move (h : c.Traced) (mv : Closing.Move) : (c.move mv).Traced := by
  obtain ⟨ch, hreached, hm⟩ := h
  rcases c.manager_move mv with hsame | ⟨mv', hmake⟩
  · exact ⟨ch, hreached, hm.trans hsame.symm⟩
  · refine ⟨ch.move mv', hreached.move mv', ?_⟩
    rw [Chronicle.manager_move, hm, hmake]

theorem Closing.Traced.run (h : c.Traced) (moves : List Closing.Move) : (c.run moves).Traced := by
  induction moves generalizing c with
  | nil => exact h
  | cons mv rest ih => exact ih (h.move mv)

/-- **So it is from the beginning of a shutdown**, whatever has happened before. -/
theorem traced_closing {shuffle : Shuffle} {config : Config} {s : Supervisor}
    (hs : Supervisor.create shuffle config = .ok s) (before : List Manager.Move) :
    (s.closing before).Traced := by
  have hmanager : s.manager = create config.managerSettings .empty Supervisor.registry
      config.transports shuffle config.connections := by
    unfold Supervisor.create at hs
    split at hs
    · cases hs
    · cases hs
      rfl
  refine ⟨(chronicle s.manager).run (before ++ [.ask .stop]), ?_, ?_⟩
  · rw [hmanager]
    exact ⟨_, _, _, _, _, _, rfl⟩
  · rw [Chronicle.manager_foldl, List.foldl_append]
    rfl

/-- The services fit their phases. -/
theorem Closing.Traced.consistent (h : c.Traced) {id : String} {s : Service}
    (hs : c.manager.fleet.service? id = some s) : s.Consistent := by
  obtain ⟨ch, hreached, hm⟩ := h
  exact (handover_run hreached).grows.consistent id s rfl (by rw [hm]; exact hs)

/-! ## §3. Attempts that start nothing. -/

/-- Whether an attempt has not set up its service yet. -/
def AttemptPhase.isEarly (p : AttemptPhase) : Bool :=
  match p with
  | .detaching | .clearing _ | .removing .. | .awaiting _ | .opening | .telling _ _ .building
  | .building _ => true
  | _ => false

/-- Whether it has, and has not started it. -/
def AttemptPhase.isSet (p : AttemptPhase) : Bool :=
  match p with
  | .telling _ _ (.launching _) | .launching .. => true
  | _ => false

/-- **Whether an attempt may start a service yet**: it has set one up, or it is about to and its
transport names a program. -/
def Attempt.mayStart (a : Attempt) : Bool :=
  a.phase.isSet || a.phase.isEarly && a.transport.any fun t => t.program.isOk

/-- What is so neither behind a call nor in the middle of it. -/
theorem Attempt.during_eq_false {p : AttemptPhase → Bool} {call : RemoveCall}
    {behind : AttemptPhase} {within : RemoveCall → AttemptPhase} (hbehind : p behind = false)
    (hwithin : ∀ call, p (within call) = false) : p (during call behind within) = false := by
  unfold during
  split
  · exact hbehind
  · exact hwithin call

/-- No attempt goes back to before it had set up its service. -/
theorem Attempt.Step.isEarly {probe : Probe} {a : Attempt} {p : AttemptPhase}
    (h : a.Step probe m p m') (hp : p.isEarly = true) : a.phase.isEarly = true := by
  cases h with
  | discarding | replacing =>
      rw [during_eq_false (p := AttemptPhase.isEarly) rfl fun _ => rfl] at hp
      cases hp
  | reached e goal ha =>
      rw [ha]
      cases goal with
      | building => rfl
      | _ => cases hp
  | told e e' s rest goal ha =>
      rw [ha]
      cases goal with
      | building => rfl
      | _ => cases hp
  | detached ha | cleared ha | clearing k ha | removing k call ha | awaited k ha | opened ha =>
      rw [ha]
      rfl
  | _ => cases hp

/-- A service that is set up was so before, or could be set up. -/
theorem Attempt.Step.isSet {probe : Probe} {a : Attempt} {p : AttemptPhase}
    (h : a.Step probe m p m') (hp : p.isSet = true) : a.mayStart = true := by
  unfold Attempt.mayStart
  cases h with
  | removing | discarding | replacing =>
      rw [during_eq_false (p := AttemptPhase.isSet) rfl fun _ => rfl] at hp
      cases hp
  | reached e goal ha =>
      rw [ha]
      cases goal with
      | launching k => rfl
      | _ => cases hp
  | told e e' s rest goal ha =>
      rw [ha]
      cases goal with
      | launching k => rfl
      | _ => cases hp
  | built e t k m' ha ht hb =>
      have hok : (build m a.connection t).1.isOk = true := by
        rw [hb]
        rfl
      rw [build_isOk_iff] at hok
      rw [ha, ht, Option.any_some, hok]
      rfl
  | _ => cases hp

/-- **An attempt that may start nothing may not do so later.** -/
theorem Attempt.Step.mayStart {probe : Probe} {a : Attempt} {p : AttemptPhase}
    (h : a.Step probe m p m') (hq : a.mayStart = false) :
    Attempt.mayStart { a with phase := p } = false := by
  rw [Bool.eq_false_iff]
  intro hp
  unfold Attempt.mayStart at hp
  rcases Bool.or_eq_true_iff.1 hp with hset | hearly
  · rw [h.isSet hset] at hq
    cases hq
  · obtain ⟨hphase, hprogram⟩ := Bool.and_eq_true_iff.1 hearly
    unfold Attempt.mayStart at hq
    rw [h.isEarly hphase, hprogram, Bool.true_and, Bool.or_true] at hq
    cases hq

/-- A step that starts nothing leaves inactive what is. -/
theorem Attempt.Step.isActive {probe : Probe} {a : Attempt} {p : AttemptPhase}
    (h : a.Step probe m p m') (hq : ∀ e k, a.phase ≠ .launching e k)
    (hc : ∀ id s, m.fleet.service? id = some s → s.Consistent) {id : String}
    (hi : m.fleet.isActive id = false) : m'.fleet.isActive id = false := by
  cases h with
  | removing k call hp => exact (Fleet.goes_call ..).inactive (hc id) hi
  | discarding e service call states hp => exact (Fleet.goes_call ..).inactive (hc id) hi
  | replacing e service call hp => exact (Fleet.goes_call ..).inactive (hc id) hi
  | opened | told =>
      obtain ⟨hf, -⟩ := send_frame m _
      exact hf ▸ hi
  | unbuilt e t cause m' hp ht hb | built e t k m' hp ht hb =>
      rcases adds_build hb with ⟨rfl, -⟩ | hadds
      · exact hi
      · exact hadds.inactive hi
  | launched e k f hp hb => exact absurd hp (hq e k)
  | unlaunched e k cause f hp hb => exact absurd hp (hq e k)
  | testing k k' m' hp hk =>
      obtain ⟨-, -, -, -, hf⟩ := hk.frame
      exact hf ▸ hi
  | _ => exact hi

/-- **No service may be started any more**: the event loop has stopped, so there are no new
attempts, and those that are under way may start nothing. -/
structure Quiet (m : Manager) : Prop where
  stopped : m.loop.stage = .stopped
  attempts : ∀ a ∈ m.attempts, a.mayStart = false

/-- What happens once the event loop has stopped: an attempt takes a step, or there are the same
attempts and the services go on. -/
theorem make_of_stopped (h : m.loop.stage = .stopped) (mv : Move) :
    (∃ (probe : Probe) (i : Nat) (a : Attempt) (p : AttemptPhase) (m₁ : Manager),
      m.attempts[i]? = some a ∧ a.Step probe m p m₁ ∧
      m.make mv = { m₁ with attempts := m₁.attempts.set i { a with phase := p } }) ∨
    (m.make mv).attempts = m.attempts ∧ m.fleet.Goes (m.make mv).fleet := by
  cases mv with
  | ask request =>
      right
      cases request with
      | updateConnections | updateTransports | stop =>
          obtain ⟨hf, ha, -⟩ := send_frame m _
          exact ⟨ha, .of_services_eq (congrArg _ hf)⟩
      | subscribe =>
          obtain ⟨hf, ha, -⟩ := send_frame { m with inboxes := m.inboxes ++ [Inbox.mk true []] } _
          exact ⟨ha, .of_services_eq (congrArg _ hf)⟩
      | unsubscribe | read => exact ⟨rfl, .refl _⟩
      | call service call => exact ⟨rfl, Fleet.goes_call ..⟩
  | act host probe action =>
      unfold make
      dsimp only
      cases hs : m.step? host probe action with
      | none => exact .inr ⟨rfl, .refl _⟩
      | some m' =>
          show _ ∨ m'.attempts = m.attempts ∧ m.fleet.Goes m'.fleet
          unfold step? at hs
          cases action with
          | begin | reconnect | reverify | receive =>
              -- the event loop has stopped
              simp [h] at hs
          | attempt i =>
              obtain ⟨a, p, m₁, hi, hstep, heq⟩ := attemptStep?_eq_some hs
              exact .inl ⟨probe, i, a, p, m₁, hi, hstep, heq⟩
          | check i =>
              right
              obtain ⟨k, -, ⟨-, rfl⟩ | ⟨k', m₁, hstep, rfl⟩⟩ := checkStep?_eq_some hs
              · obtain ⟨hf, ha, -⟩ := send_frame { m with checks := m.checks.eraseIdx i } .verified
                exact ⟨ha, .of_services_eq (congrArg _ hf)⟩
              · obtain ⟨-, ha, -, -, hf⟩ := hstep.frame
                exact ⟨ha, .of_services_eq (congrArg _ hf)⟩
          | fleet action =>
              obtain ⟨f, hf, rfl⟩ := Option.map_eq_some_iff.1 hs
              exact .inr ⟨rfl, Fleet.goes_step hf⟩

/-- **Whatever happens, no service is started**, and none may be later. -/
theorem Quiet.make (h : m.Quiet)
    (hc : ∀ id s, m.fleet.service? id = some s → s.Consistent) (mv : Move) :
    (m.make mv).Quiet ∧
      ∀ id, m.fleet.isActive id = false → (m.make mv).fleet.isActive id = false := by
  have hstopped := stage_make mv h.stopped
  rcases make_of_stopped h.stopped mv with ⟨probe, i, a, p, m₁, hi, hstep, heq⟩ | ⟨ha, hgoes⟩
  · have hq := h.attempts a (List.mem_of_getElem? hi)
    have hnot : ∀ e k, a.phase ≠ .launching e k := by
      intro e k hp
      unfold Attempt.mayStart at hq
      rw [hp] at hq
      cases hq
    refine ⟨⟨hstopped, fun x hx => ?_⟩, fun id hid => ?_⟩
    · rw [heq] at hx
      rcases List.mem_or_eq_of_mem_set hx with hx | rfl
      · rw [hstep.frame.2.1] at hx
        exact h.attempts x hx
      · exact hstep.mayStart hq
    · rw [heq]
      exact hstep.isActive hnot hc hid
  · exact ⟨⟨hstopped, by rw [ha]; exact h.attempts⟩, fun id hid => hgoes.inactive (hc id) hid⟩

/-! ## §4. Nothing is left. -/

/-- **A shutdown that empties the fleet**: nothing may be started any more, and it has taken hold of
whatever is active. -/
structure Closing.Emptying (c : Closing) : Prop where
  traced : c.Traced
  quiet : c.manager.Quiet
  seized : c.phase ≠ .stopping
  holds : ∀ id, id ∉ c.phase.left → c.manager.fleet.isActive id = false

/-- The shutdown goes on and still holds what it has taken hold of. -/
theorem Closing.left_go (h : c.phase ≠ .stopping) :
    c.go.phase ≠ .stopping ∧ c.go.phase.left = c.phase.left := by
  obtain ⟨m, phase⟩ := c
  cases phase with
  | stopping => exact absurd rfl h
  | returned => exact ⟨nofun, rfl⟩
  | waiting left => cases left <;> exact ⟨nofun, rfl⟩
  | asking handles todo call =>
      cases todo with
      | nil => exact ⟨nofun, rfl⟩
      | cons id rest =>
          unfold go
          dsimp only
          split <;> exact ⟨nofun, rfl⟩

/-- It lets go only of what has settled. -/
theorem Closing.left_hear (c : Closing) (id : String) :
    (c.hear id).manager = c.manager ∧ (c.phase ≠ .stopping → (c.hear id).phase ≠ .stopping) ∧
      ∀ x, x ∈ c.phase.left →
        x ∈ (c.hear id).phase.left ∨ c.manager.fleet.isActive x = false := by
  obtain ⟨m, phase⟩ := c
  cases phase with
  | stopping | asking | returned => exact ⟨rfl, fun h => h, fun x hx => .inl hx⟩
  | waiting left =>
      unfold hear
      dsimp only
      split
      · next hsettled =>
        refine ⟨rfl, fun _ => nofun, fun x hx => ?_⟩
        by_cases hid : x = id
        · subst hid
          rw [Fleet.isSettled_eq] at hsettled
          exact .inr (by simpa using hsettled)
        · exact .inl ((List.mem_erase_of_ne hid).2 hx)
      · exact ⟨rfl, fun h => h, fun x hx => .inl hx⟩

/-- **Whatever happens**, the fleet goes on being emptied. -/
theorem Closing.Emptying.move (h : c.Emptying) (mv : Closing.Move) : (c.move mv).Emptying := by
  have hkeeps := h.quiet.make fun id s => h.traced.consistent
  cases mv with
  | other mv =>
      obtain ⟨hquiet, hinactive⟩ := hkeeps mv
      exact ⟨h.traced.move (.other mv), hquiet, h.seized, fun id hid => hinactive id (h.holds id hid)⟩
  | go =>
      obtain ⟨hseized, hleft⟩ := left_go h.seized
      have hholds : ∀ id, id ∉ c.go.phase.left → c.manager.fleet.isActive id = false := by
        rw [hleft]
        exact h.holds
      rcases c.manager_move .go with hsame | ⟨mv, hmake⟩
      · refine ⟨h.traced.move .go, ?_, hseized, ?_⟩ <;> rw [hsame]
        · exact h.quiet
        · exact hholds
      · obtain ⟨hquiet, hinactive⟩ := hkeeps mv
        refine ⟨h.traced.move .go, ?_, hseized, ?_⟩ <;> rw [hmake]
        · exact hquiet
        · exact fun id hid => hinactive id (hholds id hid)
  | hear id =>
      obtain ⟨hmanager, hseized, hleft⟩ := c.left_hear id
      refine ⟨h.traced.move (.hear id), ?_, hseized h.seized, fun x hx => ?_⟩
      · show (c.hear id).manager.Quiet
        rw [hmanager]
        exact h.quiet
      · show (c.hear id).manager.fleet.isActive x = false
        rw [hmanager]
        by_cases hmem : x ∈ c.phase.left
        · exact (hleft x hmem).resolve_left hx
        · exact h.holds x hmem

theorem Closing.Emptying.run (h : c.Emptying) (moves : List Closing.Move) :
    (c.run moves).Emptying := by
  induction moves generalizing c with
  | nil => exact h
  | cons mv rest ih => exact ih (h.move mv)

/-- **When it has returned, nothing is active.** -/
theorem Closing.Emptying.inactive (h : c.Emptying) (hr : c.phase = .returned) (id : String) :
    c.manager.fleet.isActive id = false := by
  refine h.holds id ?_
  rw [hr]
  exact nofun

/-! ## §5. A shutdown that does not return. -/

/-- **A shutdown that waits for ever** for a service whose owner has broken off. -/
structure Closing.Stuck (id : String) (c : Closing) : Prop where
  traced : c.Traced
  seized : c.phase ≠ .stopping
  holds : id ∈ c.phase.left
  broken : ∃ s, c.manager.fleet.service? id = some s ∧ s.phase = .broken

/-- Such a service stays active. -/
theorem Closing.Stuck.isActive {id : String} (h : c.Stuck id) :
    c.manager.fleet.isActive id = true := by
  obtain ⟨s, hs, hp⟩ := h.broken
  refine Fleet.isActive_eq_true.2 ⟨s, hs, ?_⟩
  rw [Service.isActive, ((h.traced.consistent hs).of_phase hp).1]
  rfl

theorem Closing.Stuck.move {id : String} (h : c.Stuck id) (mv : Closing.Move) :
    (c.move mv).Stuck id := by
  have hbroken : ∃ s, (c.move mv).manager.fleet.service? id = some s ∧ s.phase = .broken := by
    obtain ⟨s, hs, hp⟩ := h.broken
    rcases c.manager_move mv with hsame | ⟨mv', hmake⟩
    · exact ⟨s, by rw [hsame]; exact hs, hp⟩
    · obtain ⟨s', hs', hturn⟩ := (change_make c.manager mv').turn hs
      exact ⟨s', by rw [hmake]; exact hs', hturn.broken (h.traced.consistent hs) hp⟩
  refine ⟨h.traced.move mv, ?_, ?_, hbroken⟩
  · cases mv with
    | other mv => exact h.seized
    | go => exact (left_go h.seized).1
    | hear x => exact (c.left_hear x).2.1 h.seized
  · cases mv with
    | other mv => exact h.holds
    | go => exact (left_go h.seized).2 ▸ h.holds
    | hear x =>
        refine ((c.left_hear x).2.2 id h.holds).resolve_right fun hinactive => ?_
        rw [h.isActive] at hinactive
        cases hinactive

/-- **It does not return.** -/
theorem Closing.Stuck.run {id : String} (h : c.Stuck id) (moves : List Closing.Move) :
    (c.run moves).phase ≠ .returned := by
  induction moves generalizing c with
  | nil =>
      intro hr
      have hholds := h.holds
      rw [show c.phase = .returned from hr] at hholds
      cases hholds
  | cons mv rest ih => exact ih (h.move mv)

end Manager

end Failover
