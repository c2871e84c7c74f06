/-
  Failover.Proofs.Manager.Trace
  ─────────────────────────────
  **What the event loop is told.** The events that the event loop handles
  are attempts, one after the other: each is about one connection, goes
  along one of the courses, and names its service from the start of the
  service on.  All but the last one have come to their end.

  Main statement: `handled_attempts` — this is so after every run, whether
  the event loop still runs or has stopped — and no task ever tells
  anything after an end.
-/
import Failover.Proofs.Manager.Orderly

namespace Failover.Manager

open Service (Fleet)

/-! ## §1. Nothing follows an end. -/

/-- No task is about to tell anything after an end, and no test broke off because of that. -/
structure NothingAfterEnd (m : Manager) : Prop where
  attempts : ∀ a ∈ m.attempts, ∀ e s rest goal, a.phase = .telling e (s :: rest) goal →
    ∃ e', e.next s = .ok e'
  tests : ∀ a ∈ m.attempts, ∀ k, a.phase = .testing k →
    k.phase ≠ .broken ∧ ∀ s rest, k.phase = .telling (s :: rest) → ∃ e', k.event.next s = .ok e'
  checks : ∀ k ∈ m.checks,
    k.phase ≠ .broken ∧ ∀ s rest, k.phase = .telling (s :: rest) → ∃ e', k.event.next s = .ok e'

/-- An event that another state may follow has one that comes next. -/
theorem Event.exists_next {e : Event} {s : State} (h : s ∈ e.state.followers) :
    ∃ e', e.next s = .ok e' := by
  refine ⟨_, Event.next_of_not_ended ?_ s⟩
  intro hend
  rw [hend] at h
  cases h

/-- A sound test tells nothing after an end. -/
theorem Check.Sound.exists_next {start : State} {k : Check} (h : k.Sound start)
    (hstart : start = .test ∨ start = .up) :
    k.phase ≠ .broken ∧ ∀ s rest, k.phase = .telling (s :: rest) →
      ∃ e', k.event.next s = .ok e' := by
  unfold Check.Sound at h
  refine ⟨fun hp => by rw [hp] at h; exact h, ?_⟩
  intro s rest hp
  rw [hp] at h
  exact Event.exists_next (Check.onward hstart h).follows

/-- Tasks that stand where they can tell nothing after an end. -/
theorem Ledger.Sane.nothingAfterEnd {c : Chronicle} (h : c.ledger.Sane) :
    NothingAfterEnd c.manager where
  attempts := by
    intro a ha e s rest goal hp
    have hs := h.attempts a ha
    unfold Attempt.Sound at hs
    rw [hp] at hs
    exact Event.exists_next (Goal.onward hs.2.1).follows
  tests := by
    intro a ha k hp
    have hs := h.attempts a ha
    unfold Attempt.Sound at hs
    rw [hp] at hs
    exact hs.2.exists_next (.inl rfl)
  checks := by
    intro k hk
    exact (h.checks k hk).exists_next (.inr rfl)

/-! ## §2. All runs. -/

/-- **What the event loop has handled is attempts, one after the other**; all but the last are
whole, and nothing was or will be told after an end. -/
theorem handled_attempts {c : Chronicle} {fleet : Fleet} (h : c.ReachedFrom fleet) :
    (∃ attempts : List (List Event), c.handled.map (·.event) = attempts.flatten ∧
      (∀ a ∈ attempts, Event.IsAttempt a) ∧
      ∀ a ∈ attempts.dropLast, Event.IsWholeAttempt a) ∧
      NothingAfterEnd c.manager := by
  have ho := orderly_run h
  have horder := ho.order
  unfold Chronicle.told at horder
  rw [List.map_append] at horder
  exact ⟨horder.left.exists_attempts, ho.sane.nothingAfterEnd⟩

theorem handled_attempts_twiceTried :
    twiceTriedChronicle.ReachedFrom .empty ∧
      ∃ attempts : List (List Event),
        twiceTriedChronicle.handled.map (·.event) = attempts.flatten ∧
          (∀ a ∈ attempts, Event.IsAttempt a) ∧
          ∀ a ∈ attempts.dropLast, Event.IsWholeAttempt a := by
  have h : twiceTriedChronicle.ReachedFrom .empty := ⟨_, _, _, _, _, _, rfl⟩
  exact ⟨h, (handled_attempts h).1⟩

end Failover.Manager
