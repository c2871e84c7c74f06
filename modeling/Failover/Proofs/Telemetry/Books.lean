/-
  Failover.Proofs.Telemetry.Books
  ───────────────────────────────
  **Guards, and the addresses that count as open.**  An address counts as
  open while a guard for it lives.  The monitor does not know the guards;
  it has a number for each address.  A guard is dropped in two steps, and
  anything may happen at the monitor between them:

      acquire a     one more for a
      abandon a     one less for a, and if that leaves none …
      sweep a       … a is taken out, unless it has connections again

  Main statements: `Balanced.enter` — after every step the numbers are
  those of the guards, and an address is kept without any only while a
  second step is still to come — and `Balanced.mem_opened` — what counts
  as open is what a guard lives for.
-/
import Failover.Telemetry.Monitor

namespace Failover.Telemetry

/-! ## §1. Numbers of connections. -/

namespace Monitor

variable {m : Monitor} {addr a : String}

/-- **An address that is kept although it has no connection left.** -/
def Stale (m : Monitor) (addr : String) : Prop := m.counts.get? addr = some 0

theorem count_track (m : Monitor) (addr a : String) :
    (m.track addr).count a = m.count a + if a = addr then 1 else 0 := by
  unfold track
  simp only [count, Named.get?_insert]
  split
  · next h => rw [h, Option.getD_some]
  · rfl

/-- One more connection leaves no address stale that was not. -/
theorem Stale.of_track (h : (m.track addr).Stale a) : m.Stale a := by
  unfold Stale track at h
  rw [Named.get?_insert] at h
  split at h
  · cases h
  · exact h

theorem count_lower (m : Monitor) (addr a : String) :
    (m.lower addr).2.count a = m.count a - if a = addr then 1 else 0 := by
  unfold lower
  cases hn : m.counts.get? addr with
  | none =>
      simp only [count]
      split
      · next h => rw [h, hn, Option.getD_none]
      · rfl
  | some n =>
      simp only [count, Named.get?_insert]
      split
      · next h => rw [h, hn, Option.getD_some, Option.getD_some]
      · rfl

/-- One connection less leaves no other address stale, and this one only if it was the last. -/
theorem Stale.of_lower (h : (m.lower addr).2.Stale a) :
    m.Stale a ∨ a = addr ∧ (m.lower addr).1 = true := by
  unfold Stale lower at *
  cases hn : m.counts.get? addr with
  | none =>
      rw [hn] at h
      exact .inl h
  | some n =>
      rw [hn] at h
      dsimp only at h ⊢
      rw [Named.get?_insert] at h
      split at h
      · next ha => exact .inr ⟨ha, beq_iff_eq.2 (Option.some.inj h)⟩
      · exact .inl h

theorem count_sweep (m : Monitor) (addr a : String) : (m.sweep addr).count a = m.count a := by
  unfold sweep
  split
  · next hn =>
    simp only [count, Named.get?_erase]
    split
    · next h => rw [h, hn, Option.getD_some, Option.getD_none]
    · rfl
  · rfl

/-- An address that was swept is not stale, and no other has become so. -/
theorem Stale.of_sweep (h : (m.sweep addr).Stale a) : m.Stale a ∧ a ≠ addr := by
  unfold sweep at h
  split at h
  · unfold Stale at h
    rw [Named.get?_erase] at h
    split at h
    · cases h
    · next ha => exact ⟨h, ha⟩
  · next hn =>
    refine ⟨h, ?_⟩
    rintro rfl
    exact hn h

theorem sorted_lower (hs : m.counts.Sorted) (addr : String) : (m.lower addr).2.counts.Sorted := by
  unfold lower
  split
  · exact hs
  · exact Named.sorted_insert hs _ _

theorem sorted_sweep (hs : m.counts.Sorted) (addr : String) : (m.sweep addr).counts.Sorted := by
  unfold sweep
  split
  · exact Named.sorted_erase hs _
  · exact hs

/-- Closing a connection in one go lowers the number, and neither adds nor drops another one. -/
theorem count_release (m : Monitor) (addr a : String) :
    (m.release addr).count a = m.count a - if a = addr then 1 else 0 := by
  unfold release
  dsimp only
  split
  · rw [count_sweep, count_lower]
  · exact count_lower m addr a

theorem sorted_release (hs : m.counts.Sorted) (addr : String) :
    (m.release addr).counts.Sorted := by
  unfold release
  dsimp only
  split
  · exact sorted_sweep (sorted_lower hs addr) addr
  · exact sorted_lower hs addr

/-- Nor does it leave one stale. -/
theorem Stale.of_release (h : (m.release addr).Stale a) : m.Stale a := by
  unfold release at h
  dsimp only at h
  split at h
  · obtain ⟨hlower, hne⟩ := h.of_sweep
    exact hlower.of_lower.resolve_right fun hlast => hne hlast.1
  · next hlast => exact h.of_lower.resolve_right fun hlowered => hlast hlowered.2

/-! ## §2. Open addresses. -/

/-- The open addresses are in their order, and none of them comes twice. -/
theorem pairwise_opened (hs : m.counts.Sorted) : m.opened.Pairwise (· < ·) :=
  List.pairwise_map.2 (List.Pairwise.filter _ hs)

/-- They are those with connections. -/
theorem mem_opened (hs : m.counts.Sorted) : addr ∈ m.opened ↔ 0 < m.count addr := by
  unfold opened count
  constructor
  · intro h
    obtain ⟨⟨k, n⟩, hp, rfl⟩ := List.mem_map.1 h
    obtain ⟨hmem, hn⟩ := List.mem_filter.1 hp
    rw [Named.get?_of_mem_pairs hs hmem]
    exact of_decide_eq_true hn
  · intro h
    cases hn : m.counts.get? addr with
    | none =>
        rw [hn] at h
        cases h
    | some n =>
        rw [hn, Option.getD_some] at h
        have hmem := Named.mem_pairs_of_get? hn
        exact List.mem_map.2 ⟨(addr, n), List.mem_filter.2 ⟨hmem, decide_eq_true h⟩, rfl⟩

/-- Where no address is stale, all that are kept are open. -/
theorem opened_eq_keys (hs : m.counts.Sorted) (h : ∀ a, ¬m.Stale a) :
    m.opened = m.counts.keys := by
  unfold opened Named.keys
  rw [List.filter_eq_self.2]
  rintro ⟨a, n⟩ hp
  refine decide_eq_true (Nat.pos_of_ne_zero ?_)
  rintro rfl
  exact h a (Named.get?_of_mem_pairs hs hp)

end Monitor

/-! ## §3. Books. -/

/-- A monitor with the guards on it. -/
structure Books where
  monitor : Monitor
  /-- The addresses for which guards live, one for each guard. -/
  guards : List String
  /-- The addresses for which the second step of dropping a guard is still to come. -/
  closing : List String

/-- What is done to a monitor. -/
inductive Entry where
  | read (bytes : Nat)
  | write (bytes : Nat)
  /-- A guard comes to life. -/
  | acquire (addr : String)
  /-- The first step of dropping a guard. -/
  | abandon (addr : String)
  /-- The second step. -/
  | sweep (addr : String)

namespace Books

/-- A new monitor. -/
def start : Books := ⟨.start, [], []⟩

/-- Something is done to the monitor.  Only a guard that lives is dropped, and a second step comes
only after a first one that asked for it. -/
def enter (b : Books) : Entry → Books
  | .read bytes => { b with monitor := b.monitor.addRead bytes }
  | .write bytes => { b with monitor := b.monitor.addWritten bytes }
  | .acquire addr => { b with monitor := b.monitor.track addr, guards := addr :: b.guards }
  | .abandon addr =>
      if addr ∈ b.guards then
        { monitor := (b.monitor.lower addr).2
          guards := b.guards.erase addr
          closing := if (b.monitor.lower addr).1 then addr :: b.closing else b.closing }
      else b
  | .sweep addr =>
      if addr ∈ b.closing then
        { b with monitor := b.monitor.sweep addr, closing := b.closing.erase addr }
      else b

/-- Things are done one after the other. -/
def enterAll (b : Books) (entries : List Entry) : Books := entries.foldl enter b

/-- Without interruption, dropping a guard is what closing a connection is. -/
theorem enter_abandon_sweep {b : Books} {addr : String} (h : addr ∈ b.guards)
    (hlast : (b.monitor.lower addr).1 = true) :
    (b.enterAll [.abandon addr, .sweep addr]).monitor = b.monitor.release addr := by
  simp only [enterAll, List.foldl_cons, List.foldl_nil, enter, if_pos h, hlast, if_true,
    List.mem_cons_self, Monitor.release]

/-! ## §4. Books that balance. -/

/-- **The numbers are those of the guards** — of those in the books and of others that are held
elsewhere —, and an address is stale only while a second step is still to come. -/
structure Balanced (held : List String) (b : Books) : Prop where
  count : ∀ a, b.monitor.count a = held.count a + b.guards.count a
  pending : ∀ a, b.monitor.Stale a → a ∈ b.closing
  sorted : b.monitor.counts.Sorted

variable {held : List String} {b : Books} {addr a : String}

theorem balanced_start : start.Balanced [] where
  count _ := rfl
  pending _ h := nomatch h
  sorted := Named.sorted_empty

/-- Only the numbers matter. -/
theorem Balanced.of_counts_eq (h : b.Balanced held) {m : Monitor}
    (hm : m.counts = b.monitor.counts) : { b with monitor := m }.Balanced held where
  count a := by
    unfold Monitor.count
    rw [hm]
    exact h.count a
  pending a ha := by
    unfold Monitor.Stale at ha
    rw [hm] at ha
    exact h.pending a ha
  sorted := by
    rw [hm]
    exact h.sorted

theorem Balanced.acquire (h : b.Balanced held) (addr : String) :
    (b.enter (.acquire addr)).Balanced held where
  count a := by
    rw [enter, Monitor.count_track, h.count, List.count_cons, Nat.add_assoc]
    simp only [beq_iff_eq, eq_comm (a := a)]
  pending a ha := h.pending a ha.of_track
  sorted := Named.sorted_insert h.sorted _ _

theorem Balanced.abandon (h : b.Balanced held) (addr : String) :
    (b.enter (.abandon addr)).Balanced held := by
  unfold enter
  dsimp only
  split
  · next hlive =>
    refine ⟨fun a => ?_, fun a ha => ?_, Monitor.sorted_lower h.sorted addr⟩
    · dsimp only
      rw [Monitor.count_lower, h.count, List.count_erase]
      -- a guard that lives counts, so that the number can be lowered
      have hpos := List.count_pos_iff.2 hlive
      by_cases ha : a = addr
      · subst ha
        rw [if_pos rfl, if_pos (beq_self_eq_true a)]
        omega
      · rw [if_neg ha, if_neg (by simpa using Ne.symm ha)]
        omega
    · dsimp only
      rcases ha.of_lower with hstale | ⟨rfl, hlast⟩
      · have hmem := h.pending a hstale
        split
        · exact List.mem_cons_of_mem _ hmem
        · exact hmem
      · rw [if_pos hlast]
        exact List.mem_cons_self
  · exact h

theorem Balanced.sweep (h : b.Balanced held) (addr : String) :
    (b.enter (.sweep addr)).Balanced held := by
  unfold enter
  dsimp only
  split
  · refine ⟨fun a => ?_, fun a ha => ?_, Monitor.sorted_sweep h.sorted addr⟩
    · exact (Monitor.count_sweep ..).trans (h.count a)
    · obtain ⟨hstale, hne⟩ := ha.of_sweep
      exact (List.mem_erase_of_ne hne).2 (h.pending a hstale)
  · exact h

/-- **Everything that is done to a monitor** keeps its books balanced. -/
theorem Balanced.enter (h : b.Balanced held) (e : Entry) : (b.enter e).Balanced held := by
  cases e with
  | read bytes | write bytes => exact h.of_counts_eq rfl
  | acquire addr => exact h.acquire addr
  | abandon addr => exact h.abandon addr
  | sweep addr => exact h.sweep addr

theorem Balanced.enterAll (h : b.Balanced held) (entries : List Entry) :
    (b.enterAll entries).Balanced held := by
  induction entries generalizing b with
  | nil => exact h
  | cons e rest ih => exact ih (h.enter e)

/-- A guard that is held elsewhere comes to life. -/
theorem Balanced.hold (h : b.Balanced held) (addr : String) :
    { b with monitor := b.monitor.track addr }.Balanced (addr :: held) where
  count a := by
    rw [Monitor.count_track, h.count, List.count_cons, Nat.add_right_comm]
    simp only [beq_iff_eq, eq_comm (a := a)]
  pending a ha := h.pending a ha.of_track
  sorted := Named.sorted_insert h.sorted _ _

/-- It is dropped, without interruption. -/
theorem Balanced.free (h : b.Balanced (addr :: held)) :
    { b with monitor := b.monitor.release addr }.Balanced held where
  count a := by
    rw [Monitor.count_release, h.count, List.count_cons]
    simp only [beq_iff_eq, eq_comm (a := a)]
    omega
  pending a ha := h.pending a ha.of_release
  sorted := Monitor.sorted_release h.sorted addr

/-- **What counts as open is what a guard lives for.** -/
theorem Balanced.mem_opened (h : b.Balanced held) :
    addr ∈ b.monitor.opened ↔ addr ∈ held ∨ addr ∈ b.guards := by
  rw [Monitor.mem_opened h.sorted, h.count, Nat.add_pos_iff_pos_or_pos, List.count_pos_iff,
    List.count_pos_iff]

/-- When no guard is half dropped, nothing else is kept. -/
theorem Balanced.opened_eq_keys (h : b.Balanced held) (hdone : b.closing = []) :
    b.monitor.opened = b.monitor.counts.keys := by
  refine Monitor.opened_eq_keys h.sorted fun a ha => ?_
  have hmem := h.pending a ha
  rw [hdone] at hmem
  cases hmem

end Books

end Failover.Telemetry
