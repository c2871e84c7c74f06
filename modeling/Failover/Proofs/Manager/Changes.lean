/-
  Failover.Proofs.Manager.Changes
  ───────────────────────────────
  **What a move does to the services.** The event loop and the tests leave
  them alone.  An attempt creates a service, starts one or takes a step of
  a call to remove one, and the services go on by themselves.

  Main statements: `change_make` — a move of a manager changes its fleet in
  one of the ways that `Fleet.Change` lists — and `stage_make` — an event
  loop that has stopped stays so.
-/
import Failover.Proofs.Manager.Bulletin
import Failover.Proofs.Manager.Handover
import Failover.Proofs.Service.Genuine

namespace Failover.Manager

open Service (Fleet)

variable {m m' : Manager}

/-! ## §1. Services. -/

/-- **A step of an attempt** changes the fleet in one of these ways. -/
theorem Attempt.Step.change {probe : Probe} {a : Attempt} {p : AttemptPhase}
    (h : a.Step probe m p m') : m.fleet.Change m'.fleet := by
  cases h with
  | removing k call hp => exact .call k.service call rfl
  | discarding e service call states hp => exact .call service call rfl
  | replacing e service call hp => exact .call service call rfl
  | opened | told =>
      obtain ⟨hf, -⟩ := send_frame m _
      exact .still (congrArg _ hf)
  | unbuilt e t cause m' hp ht hb | built e t k m' hp ht hb =>
      rcases adds_build hb with ⟨rfl, -⟩ | hadds
      · exact .still rfl
      · exact .added _ (Fleet.service?_freshId m.fleet) hadds
  | launched e k f hp hb =>
      obtain ⟨s, hs, hi, heq⟩ := Fleet.begin_eq_ok hb
      exact .begun k.service s hs hi heq
  | unlaunched e k cause f hp hb =>
      obtain ⟨rfl, -⟩ := Fleet.begin_eq_error hb
      exact .still rfl
  | testing k k' m' hp hk =>
      obtain ⟨-, -, -, -, hf⟩ := hk.frame
      exact .still (congrArg _ hf)
  | _ => exact .still rfl

theorem connectCurrent_fleet (m : Manager) : m.connectCurrent.fleet = m.fleet := by
  unfold connectCurrent
  split <;> rfl

theorem reverify_fleet (m : Manager) : m.reverify.fleet = m.fleet := by
  unfold reverify
  dsimp only
  split
  · rfl
  · split <;> rfl

/-- **Whatever happens to a manager** changes its fleet in one of these ways. -/
theorem change_step {host : Host} {probe : Probe} {action : Action}
    (h : m.step? host probe action = some m') : m.fleet.Change m'.fleet := by
  cases action with
  | begin =>
      obtain ⟨-, h⟩ := Option.ite_none_right_eq_some.1 h
      cases h
      exact .still (congrArg _ (connectCurrent_fleet _))
  | receive shuffle =>
      unfold step? at h
      dsimp only at h
      split at h
      · next message rest hst hq =>
        cases h
        obtain ⟨hf, -⟩ := handle_frame shuffle { m with queue := rest } message
        exact .still (congrArg _ hf)
      · cases h
  | reconnect =>
      obtain ⟨-, h⟩ := Option.ite_none_right_eq_some.1 h
      cases h
      exact .still (congrArg _ (connectCurrent_fleet _))
  | reverify =>
      obtain ⟨-, h⟩ := Option.ite_none_right_eq_some.1 h
      cases h
      exact .still (congrArg _ m.reverify_fleet)
  | attempt i =>
      obtain ⟨a, p, m₁, -, hstep, rfl⟩ := attemptStep?_eq_some h
      exact hstep.change
  | check i =>
      obtain ⟨k, -, ⟨-, rfl⟩ | ⟨k', m₁, hstep, rfl⟩⟩ := checkStep?_eq_some h
      · obtain ⟨hf, -⟩ := send_frame { m with checks := m.checks.eraseIdx i } .verified
        exact .still (congrArg _ hf)
      · obtain ⟨-, -, -, -, hf⟩ := hstep.frame
        exact .still (congrArg _ hf)
  | fleet action =>
      obtain ⟨f, hf, rfl⟩ := Option.map_eq_some_iff.1 h
      exact .step host action hf

/-- So does whatever others ask for. -/
theorem change_ask (m : Manager) (request : Request) : m.fleet.Change (m.ask request).fleet := by
  cases request with
  | updateConnections | updateTransports | stop =>
      obtain ⟨hf, -⟩ := send_frame m _
      exact .still (congrArg _ hf)
  | subscribe =>
      obtain ⟨hf, -⟩ := send_frame { m with inboxes := m.inboxes ++ [Inbox.mk true []] } _
      exact .still (congrArg _ hf)
  | unsubscribe | read => exact .still rfl
  | call service call => exact .call service call rfl

/-- Every move changes the fleet in one of these ways. -/
theorem change_make (m : Manager) (mv : Move) : m.fleet.Change (m.make mv).fleet := by
  cases mv with
  | ask request => exact m.change_ask request
  | act host probe action =>
      unfold make
      dsimp only
      cases hs : m.step? host probe action with
      | none => exact .still rfl
      | some m' => exact change_step hs

/-! ## §2. Runs. -/

/-- An event loop that has stopped does not run again. -/
theorem stage_make (mv : Move) (h : m.loop.stage = .stopped) :
    (m.make mv).loop.stage = .stopped := by
  cases mv with
  | ask request =>
      cases request with
      | updateConnections | updateTransports | stop =>
          show (m.send _).loop.stage = .stopped
          rw [send_eq]
          exact h
      | subscribe =>
          show (({ m with inboxes := m.inboxes ++ [Inbox.mk true []] } : Manager).send
            _).loop.stage = .stopped
          rw [send_eq]
          exact h
      | _ => exact h
  | act host probe action =>
      unfold make
      dsimp only
      cases hs : m.step? host probe action with
      | none => exact h
      | some m' =>
          by_cases hr : ∃ shuffle, action = .receive shuffle
          · obtain ⟨shuffle, rfl⟩ := hr
            unfold step? at hs
            dsimp only at hs
            rw [h] at hs
            cases hs
          · by_contra hne
            exact (undisturbed_step hs fun shuffle heq => hr ⟨shuffle, heq⟩).stage hne h

/-- The manager of a chronicle takes the same moves. -/
theorem Chronicle.manager_move (c : Chronicle) (mv : Move) :
    (c.move mv).manager = c.manager.make mv := by
  cases mv with
  | ask request => rfl
  | act host probe action =>
      unfold Chronicle.move make
      dsimp only
      cases c.manager.step? host probe action with
      | none => rfl
      | some m => exact c.manager_afterAction action m

/-- So it does in a whole run. -/
theorem Chronicle.manager_foldl (c : Chronicle) (moves : List Move) :
    (c.run moves).manager = moves.foldl make c.manager := by
  induction moves generalizing c with
  | nil => rfl
  | cons mv rest ih =>
      rw [List.foldl_cons, ← c.manager_move mv]
      exact ih (c.move mv)

/-- One move more. -/
theorem Chronicle.ReachedFrom.move {fleet : Fleet} {c : Chronicle} (h : c.ReachedFrom fleet)
    (mv : Move) : (c.move mv).ReachedFrom fleet := by
  obtain ⟨settings, registry, transports, shuffle, connections, moves, rfl⟩ := h
  refine ⟨settings, registry, transports, shuffle, connections, moves ++ [mv], ?_⟩
  unfold Chronicle.run
  rw [List.foldl_append]
  rfl

end Failover.Manager
