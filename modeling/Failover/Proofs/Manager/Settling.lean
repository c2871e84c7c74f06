/-
  Failover.Proofs.Manager.Settling
  ────────────────────────────────
  **One order of many.** `settle` lets things happen in one order, and
  forgets attempts that have come to their end.  A run keeps those; apart
  from them the two stay alike, step by step:

      m   ──  actions  ──▶  m'
      ≈                     ≈       alike but for attempts that are over
      m   ──  settle   ──▶  m''

  Main statement: `settle_run` — what settling leads to is, but for attempts
  that are over, what some actions lead to, on the same host and with the
  same probe.
-/
import Failover.Proofs.Manager.Bulletin
import Failover.Proofs.Manager.Handover

namespace Failover.Manager

open Service

variable {m m' : Manager} {l : List Attempt} {host : Host} {probe : Probe}

/-! ## §1. Attempts that are over. -/

/-- Whether an attempt has not come to its end. -/
def Attempt.isLive (a : Attempt) : Bool :=
  match a.phase with
  | .finished | .broken => false
  | _ => true

/-- The manager with other attempts. -/
def withAttempts (m : Manager) (l : List Attempt) : Manager := { m with attempts := l }

/-- **Two managers are alike** if they differ at most in attempts that are over. -/
def Alike (m m' : Manager) : Prop :=
  ∃ l, m' = m.withAttempts l ∧ l.filter Attempt.isLive = m.attempts.filter Attempt.isLive

theorem Alike.refl (m : Manager) : m.Alike m := ⟨m.attempts, rfl, rfl⟩

theorem Alike.trans {m'' : Manager} (h : m.Alike m') (h' : m'.Alike m'') : m.Alike m'' := by
  obtain ⟨l, rfl, hl⟩ := h
  obtain ⟨l', rfl, hl'⟩ := h'
  exact ⟨l', rfl, hl'.trans hl⟩

theorem Alike.fleet (h : m.Alike m') : m'.fleet = m.fleet := by
  obtain ⟨l, rfl, -⟩ := h
  rfl

theorem Alike.registry (h : m.Alike m') : m'.registry = m.registry := by
  obtain ⟨l, rfl, -⟩ := h
  rfl

theorem Alike.loop (h : m.Alike m') : m'.loop = m.loop := by
  obtain ⟨l, rfl, -⟩ := h
  rfl

/-- Forgetting attempts that are over changes nothing else. -/
theorem alike_tidy (m : Manager) : m.Alike m.tidy := by
  refine ⟨m.attempts.filter Attempt.isLive, rfl, ?_⟩
  rw [List.filter_filter]
  simp

/-- What has the same live elements has each of them in some place, and they may be replaced alike. -/
theorem exists_set_filter {α : Type} {p : α → Bool} {l₁ l₂ : List α}
    (h : l₁.filter p = l₂.filter p) {i : Nat} {a : α} (hi : l₁[i]? = some a) (ha : p a = true) :
    ∃ j : Nat, l₂[j]? = some a ∧ ∀ b, (l₁.set i b).filter p = (l₂.set j b).filter p := by
  obtain ⟨u, v, rfl, rfl⟩ : ∃ u v, l₁ = u ++ a :: v ∧ u.length = i := by
    obtain ⟨hlt, rfl⟩ := List.getElem?_eq_some_iff.1 hi
    refine ⟨l₁.take i, l₁.drop (i + 1), ?_, List.length_take_of_le (Nat.le_of_lt hlt)⟩
    rw [List.getElem_cons_drop, List.take_append_drop]
  rw [List.filter_append, List.filter_cons_of_pos ha] at h
  obtain ⟨u', w', rfl, hu, hw⟩ := List.filter_eq_append_iff.1 h.symm
  obtain ⟨x, y, rfl, hx, -, hy⟩ := List.filter_eq_cons_iff.1 hw
  have hx : x.filter p = [] := List.filter_eq_nil_iff.2 hx
  refine ⟨(u' ++ x).length, ?_, fun b => ?_⟩
  · rw [← List.append_assoc, List.getElem?_append_right (Nat.le_refl _), Nat.sub_self]
    rfl
  · have hset : (u ++ a :: v).set u.length b = u ++ b :: v := by simp
    have hset' : (u' ++ (x ++ a :: y)).set (u' ++ x).length b = u' ++ x ++ b :: y := by
      rw [← List.append_assoc]
      simp
    rw [hset, hset', List.filter_append, List.filter_append, List.filter_append, hx, hu,
      List.append_nil, List.filter_cons, List.filter_cons, hy]

/-! ## §2. Tasks. -/

theorem send_withAttempts (m : Manager) (l : List Attempt) (message : Message) :
    (m.withAttempts l).send message = (m.send message).withAttempts l := by
  unfold send withAttempts
  dsimp only
  split <;> rfl

theorem tell_withAttempts (m : Manager) (l : List Attempt) (e : Event) :
    (m.withAttempts l).tell e = (m.tell e).withAttempts l :=
  m.send_withAttempts l (.event e)

theorem build_withAttempts (m : Manager) (l : List Attempt) (c : Connection) (t : Transport) :
    build (m.withAttempts l) c t = ((build m c t).1, (build m c t).2.withAttempts l) := by
  unfold build withAttempts freshId
  dsimp only
  split
  · rfl
  · split
    · rfl
    · split
      · split <;> rfl
      · rfl

/-- A test does not depend on attempts. -/
theorem Check.step?_withAttempts (probe : Probe) (m : Manager) (l : List Attempt) (k : Check) :
    k.step? probe (m.withAttempts l) =
      (k.step? probe m).map fun r => (r.1, r.2.withAttempts l) := by
  obtain ⟨e, phase⟩ := k
  unfold step?
  cases phase with
  | looking =>
      dsimp only [withAttempts, currentBindAddr]
      by_cases hd : (m.active.any fun k => k.connection.id != e.connection.id) = true
      · simp only [hd, if_true]
        rfl
      · simp only [hd]
        cases m.active.bind (·.bindAddr? m.fleet) <;> rfl
  | probing outcome due =>
      dsimp only [withAttempts, clock]
      by_cases hdue : m.fleet.clock < due
      · simp only [hdue, if_true]
        rfl
      · simp only [hdue, if_false]
        cases outcome <;> rfl
  | telling states =>
      cases states with
      | nil => rfl
      | cons s rest =>
          dsimp only
          cases e.next s with
          | error => rfl
          | ok e' =>
              dsimp only
              rw [tell_withAttempts]
              rfl
  | finished | broken => rfl

/-- An attempt does not depend on the others. -/
theorem Attempt.advance?_withAttempts (probe : Probe) (m : Manager) (l : List Attempt)
    (a : Attempt) :
    a.advance? probe (m.withAttempts l) =
      (a.advance? probe m).map fun r => (r.1, r.2.withAttempts l) := by
  obtain ⟨c, t, phase⟩ := a
  unfold advance?
  cases phase with
  | detaching | finished | broken => rfl
  | clearing previous => cases previous <;> rfl
  | removing k call =>
      dsimp only [withAttempts]
      cases (call.step k.service m.fleet).1.result? <;> rfl
  | awaiting k =>
      dsimp only [withAttempts]
      by_cases hset : m.fleet.isSettled k.service = true
      · simp only [hset, if_true]
        rfl
      · simp only [hset]
        rfl
  | opening =>
      dsimp only
      rw [tell_withAttempts]
      rfl
  | telling e states goal =>
      cases states with
      | nil => rfl
      | cons s rest =>
          dsimp only
          cases e.next s with
          | error => rfl
          | ok e' =>
              dsimp only
              rw [tell_withAttempts]
              rfl
  | building e =>
      cases t with
      | none => rfl
      | some t =>
          dsimp only
          rw [build_withAttempts]
          cases build m c t with
          | mk result m' => cases result <;> rfl
  | launching e k =>
      dsimp only [withAttempts]
      cases m.fleet.begin k.service with
      | mk result f => cases result <;> rfl
  | starting e k =>
      dsimp only [withAttempts]
      cases m.fleet.outcome? k.service with
      | none => rfl
      | some outcome =>
          cases outcome with
          | ok => rfl
          | error cause => cases cause <;> rfl
  | judging e k =>
      dsimp only [withAttempts]
      by_cases hp : (k.protocol? m.fleet).getD "" = m.loop.settings.expectedProtocol
      · simp only [hp, if_true]
        rfl
      · simp only [hp, if_false]
        rfl
  | discarding e service call states =>
      dsimp only [withAttempts]
      cases (call.step service m.fleet).1.result? <;> rfl
  | installing e k => rfl
  | replacing e service call =>
      dsimp only [withAttempts]
      cases (call.step service m.fleet).1.result? <;> rfl
  | testing k =>
      obtain ⟨e, phase⟩ := k
      cases phase with
      | finished | broken => rfl
      | looking | probing | telling =>
          dsimp only
          rw [Check.step?_withAttempts, Option.map_map, Option.map_map]
          rfl

/-- An attempt that is over takes no step. -/
theorem Attempt.isLive_of_advance? {a : Attempt} {r : AttemptPhase × Manager}
    (h : a.advance? probe m = some r) : a.isLive = true := by
  obtain ⟨c, t, phase⟩ := a
  cases phase with
  | finished | broken => cases h
  | _ => rfl

/-! ## §3. One action. -/

/-- What the event loop does with a message does not depend on attempts. -/
theorem handle_withAttempts (shuffle : Shuffle) (m : Manager) (l : List Attempt)
    (message : Message) :
    (m.withAttempts l).handle shuffle message = (m.handle shuffle message).withAttempts l := by
  cases message with
  | event e =>
      show (m.withAttempts l).handleEvent e = (m.handleEvent e).withAttempts l
      unfold handleEvent
      dsimp only
      split <;> rfl
  | _ => rfl

/-- Neither does whether a test is renewed. -/
theorem alike_reverify (h : l.filter Attempt.isLive = m.attempts.filter Attempt.isLive) :
    m.reverify.Alike (m.withAttempts l).reverify := by
  unfold reverify
  dsimp only [withAttempts, clock]
  cases m.loop.verifying with
  | true => exact ⟨l, rfl, h⟩
  | false =>
      rw [if_neg Bool.false_ne_true, if_neg Bool.false_ne_true]
      split <;> exact ⟨l, rfl, h⟩

/-- A new attempt is alike in both. -/
theorem alike_connectCurrent (h : l.filter Attempt.isLive = m.attempts.filter Attempt.isLive) :
    m.connectCurrent.Alike (m.withAttempts l).connectCurrent := by
  unfold connectCurrent
  dsimp only [withAttempts]
  cases m.loop.rotation.current with
  | none => exact ⟨l, rfl, h⟩
  | some c =>
      refine ⟨l ++ [⟨c, m.loop.transports.get? c.transport, .detaching⟩], rfl, ?_⟩
      show _ = List.filter Attempt.isLive (m.attempts ++ [_])
      rw [List.filter_append, List.filter_append, h]

/-- What an attempt can do it does in its place. -/
theorem attemptStep?_of_advance? {i : Nat} {a : Attempt} {p : AttemptPhase}
    (hi : m.attempts[i]? = some a) (h : a.advance? probe m = some (p, m')) :
    m.attemptStep? probe i =
      some { m' with attempts := m'.attempts.set i { a with phase := p } } := by
  unfold attemptStep? Attempt.step?
  simp [hi, h]

/-- The same step is taken by the same attempt, wherever it stands. -/
theorem alike_attemptStep (h : l.filter Attempt.isLive = m.attempts.filter Attempt.isLive)
    {i : Nat} (hs : (m.withAttempts l).attemptStep? probe i = some m') :
    ∃ j m₁, m.attemptStep? probe j = some m₁ ∧ m₁.Alike m' := by
  unfold attemptStep? at hs
  obtain ⟨a, hi, hs⟩ := Option.bind_eq_some_iff.1 hs
  obtain ⟨⟨a', m₂⟩, hstep, heq⟩ := Option.bind_eq_some_iff.1 hs
  cases heq
  unfold Attempt.step? at hstep
  obtain ⟨⟨p, m₃⟩, hadv, heq⟩ := Option.map_eq_some_iff.1 hstep
  cases heq
  rw [Attempt.advance?_withAttempts] at hadv
  obtain ⟨⟨p, m₁⟩, hfree, heq⟩ := Option.map_eq_some_iff.1 hadv
  cases heq
  have hsame : m₁.attempts = m.attempts := (Attempt.step_of_advance? hfree).frame.2.1
  obtain ⟨j, hj, hset⟩ := exists_set_filter h hi (Attempt.isLive_of_advance? hfree)
  refine ⟨j, _, attemptStep?_of_advance? hj hfree, l.set i { a with phase := p }, rfl, ?_⟩
  rw [hset]
  show _ = List.filter Attempt.isLive (m₁.attempts.set j _)
  rw [hsame]

/-- A renewed test takes the same step. -/
theorem alike_checkStep (h : l.filter Attempt.isLive = m.attempts.filter Attempt.isLive)
    {i : Nat} (hs : (m.withAttempts l).checkStep? probe i = some m') :
    ∃ m₁, m.checkStep? probe i = some m₁ ∧ m₁.Alike m' := by
  unfold checkStep? at hs ⊢
  obtain ⟨k, hi, hs⟩ := Option.bind_eq_some_iff.1 hs
  have hi : m.checks[i]? = some k := hi
  rw [hi]
  dsimp only [Option.bind_some, Option.bind_eq_bind] at hs ⊢
  split at hs
  · cases hs
    refine ⟨_, rfl, l, send_withAttempts { m with checks := m.checks.eraseIdx i } l .verified, ?_⟩
    rw [(send_frame { m with checks := m.checks.eraseIdx i } .verified).2.1]
    exact h
  · rw [Check.step?_withAttempts] at hs
    obtain ⟨⟨k', m₂⟩, hstep, heq⟩ := Option.bind_eq_some_iff.1 hs
    cases heq
    obtain ⟨⟨k', m₁⟩, hfree, heq⟩ := Option.map_eq_some_iff.1 hstep
    cases heq
    have hsame : m₁.attempts = m.attempts := (Check.step_of_step? hfree).frame.2.1
    rw [hfree]
    refine ⟨{ m₁ with checks := m₁.checks.set i k' }, rfl, l, rfl, ?_⟩
    rw [h, ← hsame]

/-- **Whatever happens in one of two managers that are alike happens in the other one**, and they
stay alike. -/
theorem Alike.step (h : m.Alike m') {action : Action} {m'' : Manager}
    (hs : m'.step? host probe action = some m'') :
    ∃ action' m₁, m.step? host probe action' = some m₁ ∧ m₁.Alike m'' := by
  obtain ⟨l, rfl, hl⟩ := h
  unfold step? at hs
  cases action with
  | begin =>
      obtain ⟨hst, hs⟩ := Option.ite_none_right_eq_some.1 hs
      cases hs
      exact ⟨.begin, m.begin, if_pos hst, alike_connectCurrent hl⟩
  | receive shuffle =>
      refine ⟨.receive shuffle, ?_⟩
      dsimp only at hs
      split at hs
      · next message rest hst hq =>
        cases hs
        refine ⟨{ m with queue := rest }.handle shuffle message, ?_, l, ?_, ?_⟩
        · unfold step?
          dsimp only
          rw [show m.loop.stage = .running from hst, show m.queue = message :: rest from hq]
        · exact handle_withAttempts shuffle { m with queue := rest } l message
        · rw [(handle_frame shuffle { m with queue := rest } message).2.1]
          exact hl
      · cases hs
  | reconnect =>
      obtain ⟨hst, hs⟩ := Option.ite_none_right_eq_some.1 hs
      cases hs
      exact ⟨.reconnect, m.reconnect, if_pos hst, alike_connectCurrent hl⟩
  | reverify =>
      obtain ⟨hst, hs⟩ := Option.ite_none_right_eq_some.1 hs
      cases hs
      exact ⟨.reverify, m.reverify, if_pos hst, alike_reverify hl⟩
  | attempt i =>
      obtain ⟨j, m₁, hstep, halike⟩ := alike_attemptStep hl hs
      exact ⟨.attempt j, m₁, hstep, halike⟩
  | check i =>
      obtain ⟨m₁, hstep, halike⟩ := alike_checkStep hl hs
      exact ⟨.check i, m₁, hstep, halike⟩
  | fleet action =>
      obtain ⟨f, hf, rfl⟩ := Option.map_eq_some_iff.1 hs
      refine ⟨.fleet action, { m with fleet := f }, ?_, l, rfl, hl⟩
      unfold step?
      dsimp only
      rw [show m.fleet.step? host action = some f from hf]
      rfl

/-! ## §4. Runs. -/

/-- What some actions lead to, one after the other. -/
def acted (host : Host) (probe : Probe) (m : Manager) (actions : List Action) : Manager :=
  (actions.map (.act host probe)).foldl make m

theorem acted_cons (action : Action) (rest : List Action) (h : m.step? host probe action = some m') :
    m.acted host probe (action :: rest) = m'.acted host probe rest := by
  unfold acted
  rw [List.map_cons, List.foldl_cons]
  unfold make
  dsimp only
  rw [h]
  rfl

/-- Time passes. -/
theorem Alike.atTime (h : m.Alike m') {t : Nat} (ht : m'.clock ≤ t) :
    ∃ action m₁, m.step? host probe action = some m₁ ∧ m₁.Alike (m'.atTime t) := by
  obtain ⟨l, rfl, hl⟩ := h
  have hle : m.fleet.clock ≤ t := ht
  refine ⟨.fleet (.elapse (t - m.clock)), m.atTime t, ?_, l, rfl, hl⟩
  show some { m with fleet := { m.fleet with clock := m.fleet.clock + (t - m.fleet.clock) } } = _
  rw [Nat.add_sub_of_le hle]
  rfl

/-- **What settling leads to is alike to what a run leads to.** -/
theorem Alike.settleFrom (reached : Manager → Bool) (deadline n : Nat) (h : m.Alike m') :
    ∃ actions, (m.acted host probe actions).Alike
      (m'.settleFrom host probe reached deadline n) := by
  induction n generalizing m m' with
  | zero => exact ⟨[], h⟩
  | succ n ih =>
      unfold Manager.settleFrom
      split
      · exact ⟨[], h⟩
      · cases hnext : m'.next? host probe with
        | some m'' =>
            obtain ⟨action, -, hs⟩ := List.exists_of_findSome?_eq_some hnext
            obtain ⟨action', m₁, hstep, halike⟩ := h.step hs
            obtain ⟨rest, hrest⟩ := ih (halike.trans (alike_tidy m''))
            refine ⟨action' :: rest, ?_⟩
            rw [acted_cons action' rest hstep]
            exact hrest
        | none =>
            -- nothing can be done now, so time passes
            have hlast : ∃ actions, (m.acted host probe actions).Alike
                (m'.atTime (max m'.clock deadline)) := by
              obtain ⟨action, m₁, hstep, halike⟩ := h.atTime (Nat.le_max_left m'.clock deadline)
              refine ⟨[action], ?_⟩
              rw [acted_cons action [] hstep]
              exact halike
            cases m'.due? with
            | none => exact hlast
            | some t =>
                dsimp only
                split
                · next hdue =>
                  obtain ⟨action, m₁, hstep, halike⟩ := h.atTime (Nat.le_of_lt hdue.1)
                  obtain ⟨rest, hrest⟩ := ih halike
                  refine ⟨action :: rest, ?_⟩
                  rw [acted_cons action rest hstep]
                  exact hrest
                · exact hlast

/-- **Settling is one run of many**: what it leads to is, but for attempts that are over, what some
actions lead to. -/
theorem settle_run (host : Host) (probe : Probe) (m : Manager) (ms : Nat)
    (reached : Manager → Bool) :
    ∃ actions, (m.acted host probe actions).Alike (m.settle host probe ms reached) :=
  (Alike.refl m).settleFrom reached (m.clock + ms) Fleet.mostSteps

/-- So is stopping the event loop. -/
theorem stop_run (host : Host) (probe : Probe) (m : Manager) :
    ∃ actions, ((m.send .stop).acted host probe actions).Alike (m.stop host probe) :=
  settle_run host probe (m.send .stop) Fleet.patience fun m => m.loop.stage == .stopped

/-- And so is stopping all services, once they were asked to. -/
theorem Alike.stopServices (h : m.Alike m') (host : Host) (probe : Probe) :
    ∃ actions, (acted host probe { m with fleet := m.fleet.stopEach m.registry }
      actions).Alike (m'.stopServices host probe) := by
  obtain ⟨l, rfl, hl⟩ := h
  have hasked : Alike { m with fleet := m.fleet.stopEach m.registry }
      { m.withAttempts l with fleet := m.fleet.stopEach m.registry } := ⟨l, rfl, hl⟩
  exact hasked.settleFrom _ _ _

end Failover.Manager
