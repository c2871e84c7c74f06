/-
  Failover.Proofs.Telemetry.Accounting
  ────────────────────────────────────
  **Counters and what a reporter makes of them.**  Both counters have 64
  bits and start again at nought.  A reporter takes one snapshot after the
  other, and a snapshot looks at one thing at a time, while bytes go on
  being counted and guards come and go:

      entering → adding r → comparing r w → listing r w gained → finished
                                  ↓
                               refused  (r + w does not fit)

  A snapshot is refused before it stores anything.  As long as no counter
  has started again, what a snapshot sees is no less than what the one
  before saw.  So no difference is cut off, and the gains that were told
  sum up to the total that was told last.

  Main statements: `steps_snapshot` — without interruption it is
  `Monitor.snapshot` — and `accounting_exact`.
-/
import Failover.Proofs.Telemetry.Books
import Mathlib.Algebra.Ring.Nat

namespace Failover.Telemetry

/-! ## §1. Snapshots, step by step. -/

/-- Where a snapshot stands, with what it has seen. -/
inductive SnapshotCall where
  /-- The bytes read are to be looked up. -/
  | entering
  /-- The bytes written are to be looked up. -/
  | adding (read : Nat)
  /-- The sum is to be stored, if it fits. -/
  | comparing (read written : Nat)
  /-- The open addresses are to be listed. -/
  | listing (read written gained : Nat)
  | finished (result : Except Breach Reading)

namespace SnapshotCall

/-- One step of a snapshot. -/
def step : SnapshotCall → Monitor → SnapshotCall × Monitor
  | .entering, m => (.adding m.read.toNat, m)
  | .adding read, m => (.comparing read m.written.toNat, m)
  | .comparing read written, m =>
      if UInt64.size ≤ read + written then (.finished (.error .sumOverflow), m)
      else
        (.listing read written (read + written - m.reported),
          { m with reported := read + written })
  | .listing read written gained, m =>
      (.finished (.ok ⟨m.opened, read, written, gained⟩), m)
  | .finished result, m => (.finished result, m)

/-- Steps with nothing coming between them. -/
def steps : Nat → SnapshotCall → Monitor → SnapshotCall × Monitor
  | 0, call, m => (call, m)
  | n + 1, call, m => steps n (call.step m).1 (call.step m).2

theorem steps_snapshot (m : Monitor) :
    steps 4 .entering m = (.finished m.snapshot.1, m.snapshot.2) := by
  simp only [steps, step]
  unfold Monitor.snapshot
  dsimp only
  by_cases hsize : UInt64.size ≤ m.read.toNat + m.written.toNat
  · rw [if_pos hsize, if_pos hsize]
  · rw [if_neg hsize, if_neg hsize]
    rfl

/-- What a snapshot has seen of the bytes read, or what it would see now. -/
def seenRead (now : Nat) : SnapshotCall → Nat
  | .adding read | .comparing read _ | .listing read _ _ => read
  | .entering | .finished _ => now

/-- What it has seen of the bytes written. -/
def seenWritten (now : Nat) : SnapshotCall → Nat
  | .comparing _ written | .listing _ written _ => written
  | .entering | .adding _ | .finished _ => now

/-- The total that is stored when a snapshot stands there; `told` is the one that was told last. -/
def stored (told : Nat) : SnapshotCall → Nat
  | .listing read written _ => read + written
  | _ => told

/-- What a snapshot has stored beyond what was told. -/
def untold : SnapshotCall → Nat
  | .listing _ _ gained => gained
  | _ => 0

end SnapshotCall

/-! ## §2. A monitor at work. -/

/-- A monitor with the guards on it and its reporter, and what has happened to it. -/
structure Scene where
  books : Books
  /-- The bytes that were read at a time, the last first. -/
  reads : List Nat
  /-- The bytes that were written at a time, the last first. -/
  writes : List Nat
  snapshot : SnapshotCall
  /-- What the reporter was told, the last first. -/
  told : List Reading

/-- Something that happens at a monitor. -/
inductive Move where
  | enter (e : Entry)
  /-- The reporter goes on with its snapshot. -/
  | report

/-- The bytes that count as read. -/
def Entry.bytesRead : Entry → List Nat
  | .read bytes => [bytes]
  | _ => []

/-- The bytes that count as written. -/
def Entry.bytesWritten : Entry → List Nat
  | .write bytes => [bytes]
  | _ => []

/-- Bytes read and bytes written, together. -/
def Reading.total (r : Reading) : Nat := r.readTotal + r.writeTotal

namespace Scene

/-- A new monitor. -/
def start : Scene := ⟨.start, [], [], .entering, []⟩

/-- The monitor. -/
def monitor (sc : Scene) : Monitor := sc.books.monitor

/-- The reporter goes on.  When a snapshot has come to its end, the next one begins. -/
def report (sc : Scene) : Scene :=
  match sc.snapshot.step sc.monitor with
  | (.finished result, m) =>
      { sc with
        books := { sc.books with monitor := m }
        snapshot := .entering
        told := result.toOption.toList ++ sc.told }
  | (call, m) => { sc with books := { sc.books with monitor := m }, snapshot := call }

/-- Something happens. -/
def move (sc : Scene) : Move → Scene
  | .enter e =>
      { sc with
        books := sc.books.enter e
        reads := e.bytesRead ++ sc.reads
        writes := e.bytesWritten ++ sc.writes }
  | .report => sc.report

/-- Things happen one after the other. -/
def run (sc : Scene) (moves : List Move) : Scene := moves.foldl move sc

/-- The snapshot is refused when the reporter goes on. -/
def Refuses (sc : Scene) : Prop :=
  (sc.snapshot.step sc.monitor).1 = .finished (.error .sumOverflow)

/-- What was told last; nothing at first. -/
def last (sc : Scene) : Reading := sc.told.headD ⟨[], 0, 0, 0⟩

/-- No counter has started again. -/
def Unwrapped (sc : Scene) : Prop :=
  sc.reads.sum < UInt64.size ∧ sc.writes.sum < UInt64.size

instance (sc : Scene) : Decidable sc.Unwrapped := inferInstanceAs (Decidable (_ ∧ _))

end Scene

/-! ## §3. Counters. -/

/-- **A number that a counter shows, or has shown before**: in 64 bits, the sum of what was counted
up to some time. -/
def Shown (counted : List Nat) (n : Nat) : Prop :=
  ∃ earlier, earlier <:+ counted ∧ n = earlier.sum % UInt64.size

theorem Shown.now (counted : List Nat) : Shown counted (counted.sum % UInt64.size) :=
  ⟨counted, List.suffix_refl _, rfl⟩

theorem Shown.append {counted : List Nat} {n : Nat} (h : Shown counted n) (more : List Nat) :
    Shown (more ++ counted) n := by
  obtain ⟨earlier, hsuffix, rfl⟩ := h
  exact ⟨earlier, hsuffix.trans (List.suffix_append ..), rfl⟩

/-- As long as the counter has not started again, it is that sum. -/
theorem Shown.eq_sum {counted : List Nat} {n : Nat} (h : Shown counted n)
    (hu : counted.sum < UInt64.size) : ∃ earlier, earlier <:+ counted ∧ n = earlier.sum := by
  obtain ⟨earlier, ⟨later, rfl⟩, rfl⟩ := h
  refine ⟨earlier, List.suffix_append .., Nat.mod_eq_of_lt ?_⟩
  rw [List.sum_append] at hu
  omega

/-- One more addition in 64 bits. -/
theorem toNat_add_ofNat {c : UInt64} {n : Nat} (h : c.toNat = n % UInt64.size) (bytes : Nat) :
    (c + UInt64.ofNat bytes).toNat = (bytes + n) % UInt64.size := by
  rw [UInt64.toNat_add, UInt64.toNat_ofNat', h, UInt64.size, ← Nat.add_mod, Nat.add_comm]

namespace Monitor

/-- Tracking connections leaves the counters. -/
theorem counters_lower (m : Monitor) (addr : String) :
    (m.lower addr).2.read = m.read ∧ (m.lower addr).2.written = m.written ∧
      (m.lower addr).2.reported = m.reported := by
  unfold lower
  split <;> exact ⟨rfl, rfl, rfl⟩

theorem counters_sweep (m : Monitor) (addr : String) :
    (m.sweep addr).read = m.read ∧ (m.sweep addr).written = m.written ∧
      (m.sweep addr).reported = m.reported := by
  unfold sweep
  split <;> exact ⟨rfl, rfl, rfl⟩

/-- A snapshot is refused just if the sum of the counters does not fit; then nothing changes. -/
theorem snapshot_refused_iff (m : Monitor) :
    m.snapshot.1 = .error .sumOverflow ↔ UInt64.size ≤ m.totals.1 + m.totals.2 := by
  unfold snapshot totals
  dsimp only
  split
  · next h => exact iff_of_true rfl h
  · next h => exact iff_of_false nofun h

theorem snapshot_of_refused {m : Monitor} (h : m.snapshot.1 = .error .sumOverflow) :
    m.snapshot.2 = m := by
  have hsize := (snapshot_refused_iff m).1 h
  unfold snapshot
  dsimp only
  rw [if_pos (by exact hsize)]

end Monitor

/-- What is done to a monitor adds what counts to the counters, and leaves what is stored. -/
theorem Books.counters_enter (b : Books) (e : Entry) :
    (b.enter e).monitor.read = b.monitor.read + UInt64.ofNat e.bytesRead.sum ∧
      (b.enter e).monitor.written = b.monitor.written + UInt64.ofNat e.bytesWritten.sum ∧
      (b.enter e).monitor.reported = b.monitor.reported := by
  have hsame : ∀ c : UInt64, c + UInt64.ofNat 0 = c := fun c => c.add_zero
  unfold Books.enter Entry.bytesRead Entry.bytesWritten
  cases e with
  | read bytes | write bytes | acquire addr =>
      simp only [List.sum_cons, List.sum_nil, Nat.add_zero, hsame]
      exact ⟨rfl, rfl, rfl⟩
  | abandon addr =>
      simp only [List.sum_nil, hsame]
      split
      · exact b.monitor.counters_lower addr
      · exact ⟨rfl, rfl, rfl⟩
  | sweep addr =>
      simp only [List.sum_nil, hsame]
      split
      · exact b.monitor.counters_sweep addr
      · exact ⟨rfl, rfl, rfl⟩

namespace Scene

variable {sc : Scene}

/-! ## §4. What the counters show. -/

/-- **Everything that was seen is what a counter shows or has shown.** -/
structure Counted (sc : Scene) : Prop where
  read : sc.monitor.read.toNat = sc.reads.sum % UInt64.size
  written : sc.monitor.written.toNat = sc.writes.sum % UInt64.size
  seenRead : Shown sc.reads (sc.snapshot.seenRead (sc.reads.sum % UInt64.size))
  seenWritten : Shown sc.writes (sc.snapshot.seenWritten (sc.writes.sum % UInt64.size))
  told : ∀ r ∈ sc.told, Shown sc.reads r.readTotal ∧ Shown sc.writes r.writeTotal
  /-- A snapshot that has come to its end makes room for the next one. -/
  going : ∀ result, sc.snapshot ≠ .finished result

theorem counted_start : start.Counted where
  read := rfl
  written := rfl
  seenRead := .now []
  seenWritten := .now []
  told _ h := nomatch h
  going _ := nofun

theorem Counted.enter (h : sc.Counted) (e : Entry) : (sc.move (.enter e)).Counted where
  read := by
    have hread := (sc.books.counters_enter e).1
    show (sc.books.enter e).monitor.read.toNat = (e.bytesRead ++ sc.reads).sum % UInt64.size
    rw [hread, List.sum_append]
    exact toNat_add_ofNat h.read _
  written := by
    have hwritten := (sc.books.counters_enter e).2.1
    show (sc.books.enter e).monitor.written.toNat =
      (e.bytesWritten ++ sc.writes).sum % UInt64.size
    rw [hwritten, List.sum_append]
    exact toNat_add_ofNat h.written _
  seenRead := by
    have hseen := h.seenRead
    show Shown (e.bytesRead ++ sc.reads)
      (sc.snapshot.seenRead ((e.bytesRead ++ sc.reads).sum % UInt64.size))
    cases hcall : sc.snapshot <;> rw [hcall] at hseen <;>
      first | exact .now _ | exact hseen.append _
  seenWritten := by
    have hseen := h.seenWritten
    show Shown (e.bytesWritten ++ sc.writes)
      (sc.snapshot.seenWritten ((e.bytesWritten ++ sc.writes).sum % UInt64.size))
    cases hcall : sc.snapshot <;> rw [hcall] at hseen <;>
      first | exact .now _ | exact hseen.append _
  told r hr := ⟨(h.told r hr).1.append _, (h.told r hr).2.append _⟩
  going := h.going

/-- **What one step of a snapshot makes of the scene.** -/
inductive Reports (sc : Scene) : Scene → Prop where
  | looked (h : sc.snapshot = .entering) :
      Reports sc { sc with snapshot := .adding sc.monitor.read.toNat }
  | added (read : Nat) (h : sc.snapshot = .adding read) :
      Reports sc { sc with snapshot := .comparing read sc.monitor.written.toNat }
  | refused (read written : Nat) (h : sc.snapshot = .comparing read written)
      (hsize : UInt64.size ≤ read + written) : Reports sc { sc with snapshot := .entering }
  | stored (read written : Nat) (h : sc.snapshot = .comparing read written)
      (hsize : read + written < UInt64.size) :
      Reports sc { sc with
        books := { sc.books with monitor := { sc.monitor with reported := read + written } }
        snapshot := .listing read written (read + written - sc.monitor.reported) }
  | told (read written gained : Nat) (h : sc.snapshot = .listing read written gained) :
      Reports sc { sc with
        snapshot := .entering
        told := ⟨sc.monitor.opened, read, written, gained⟩ :: sc.told }

theorem reports_report (h : sc.Counted) : sc.Reports sc.report := by
  unfold report
  cases hcall : sc.snapshot with
  | entering => exact .looked hcall
  | adding read => exact .added read hcall
  | comparing read written =>
      unfold SnapshotCall.step
      dsimp only
      by_cases hsize : UInt64.size ≤ read + written
      · rw [if_pos hsize]
        exact .refused read written hcall hsize
      · rw [if_neg hsize]
        exact .stored read written hcall (Nat.not_le.1 hsize)
  | listing read written gained => exact .told read written gained hcall
  | finished result => exact absurd hcall (h.going result)

theorem Counted.report (h : sc.Counted) : sc.report.Counted := by
  have hread := h.seenRead
  have hwritten := h.seenWritten
  generalize hnext : sc.report = next
  have hreports := reports_report h
  rw [hnext] at hreports
  cases hreports with
  | looked hcall =>
      refine ⟨h.read, h.written, ?_, .now _, h.told, fun _ => nofun⟩
      rw [show SnapshotCall.seenRead _ _ = sc.monitor.read.toNat from rfl, h.read]
      exact .now _
  | added read hcall =>
      rw [hcall] at hread
      refine ⟨h.read, h.written, hread, ?_, h.told, fun _ => nofun⟩
      rw [show SnapshotCall.seenWritten _ _ = sc.monitor.written.toNat from rfl, h.written]
      exact .now _
  | refused read written hcall hsize =>
      exact ⟨h.read, h.written, .now _, .now _, h.told, fun _ => nofun⟩
  | stored read written hcall hsize =>
      rw [hcall] at hread hwritten
      exact ⟨h.read, h.written, hread, hwritten, h.told, fun _ => nofun⟩
  | told read written gained hcall =>
      rw [hcall] at hread hwritten
      exact ⟨h.read, h.written, .now _, .now _,
        List.forall_mem_cons.2 ⟨⟨hread, hwritten⟩, h.told⟩, fun _ => nofun⟩

/-- A snapshot is refused just when the totals that it has seen do not fit together, and then
nothing changes but that the next one begins. -/
theorem Counted.refuses_iff (h : sc.Counted) :
    sc.Refuses ↔
      ∃ read written, sc.snapshot = .comparing read written ∧ UInt64.size ≤ read + written := by
  unfold Refuses
  constructor
  · intro hrefused
    cases hcall : sc.snapshot with
    | comparing read written =>
        refine ⟨read, written, rfl, Nat.not_lt.1 fun hsize => ?_⟩
        rw [hcall, SnapshotCall.step, if_neg (Nat.not_le.2 hsize)] at hrefused
        cases hrefused
    | finished result => exact absurd hcall (h.going result)
    | entering | adding read | listing read written gained =>
        rw [hcall] at hrefused
        cases hrefused
  · rintro ⟨read, written, hcall, hsize⟩
    rw [hcall, SnapshotCall.step, if_pos hsize]

theorem report_of_refuses (h : sc.Counted) (hrefuses : sc.Refuses) :
    sc.report = { sc with snapshot := .entering } := by
  obtain ⟨read, written, hcall, hsize⟩ := h.refuses_iff.1 hrefuses
  unfold Scene.report
  rw [hcall, SnapshotCall.step, if_pos hsize]
  rfl

/-! ## §5. Gains. -/

/-- **The gains sum up**, and what a snapshot sees is no less than what was told last. -/
structure Settled (sc : Scene) : Prop where
  gains : (sc.told.map Reading.gained).sum = sc.last.total
  untold : sc.last.total + sc.snapshot.untold = sc.snapshot.stored sc.last.total
  reported : sc.monitor.reported = sc.snapshot.stored sc.last.total
  read : sc.last.readTotal ≤ sc.snapshot.seenRead sc.reads.sum
  written : sc.last.writeTotal ≤ sc.snapshot.seenWritten sc.writes.sum
  seenRead : sc.snapshot.seenRead sc.reads.sum ≤ sc.reads.sum
  seenWritten : sc.snapshot.seenWritten sc.writes.sum ≤ sc.writes.sum

theorem settled_start : start.Settled where
  gains := rfl
  untold := rfl
  reported := rfl
  read := Nat.le_refl 0
  written := Nat.le_refl 0
  seenRead := Nat.le_refl 0
  seenWritten := Nat.le_refl 0

/-- What was seen stays what it is when more is counted, and what would be seen grows. -/
theorem seenRead_mono (call : SnapshotCall) {n n' : Nat} (h : n ≤ n') :
    call.seenRead n ≤ call.seenRead n' := by
  cases call <;> first | exact h | exact Nat.le_refl _

theorem seenRead_le (call : SnapshotCall) {n n' : Nat} (h : n ≤ n') (hseen : call.seenRead n ≤ n) :
    call.seenRead n' ≤ n' := by
  cases call <;> first | exact Nat.le_refl _ | exact Nat.le_trans hseen h

theorem seenWritten_mono (call : SnapshotCall) {n n' : Nat} (h : n ≤ n') :
    call.seenWritten n ≤ call.seenWritten n' := by
  cases call <;> first | exact h | exact Nat.le_refl _

theorem seenWritten_le (call : SnapshotCall) {n n' : Nat} (h : n ≤ n')
    (hseen : call.seenWritten n ≤ n) : call.seenWritten n' ≤ n' := by
  cases call <;> first | exact Nat.le_refl _ | exact Nat.le_trans hseen h

theorem Settled.enter (h : sc.Settled) (e : Entry) : (sc.move (.enter e)).Settled := by
  have hr : sc.reads.sum ≤ (e.bytesRead ++ sc.reads).sum := by
    rw [List.sum_append]
    exact Nat.le_add_left ..
  have hw : sc.writes.sum ≤ (e.bytesWritten ++ sc.writes).sum := by
    rw [List.sum_append]
    exact Nat.le_add_left ..
  exact {
    gains := h.gains
    untold := h.untold
    reported := (sc.books.counters_enter e).2.2.trans h.reported
    read := Nat.le_trans h.read (seenRead_mono _ hr)
    written := Nat.le_trans h.written (seenWritten_mono _ hw)
    seenRead := seenRead_le _ hr h.seenRead
    seenWritten := seenWritten_le _ hw h.seenWritten }

theorem Settled.report (h : sc.Settled) (hc : sc.Counted) (hu : sc.Unwrapped) :
    sc.report.Settled := by
  obtain ⟨hgains, huntold, hreported, hread, hwritten, hseenRead, hseenWritten⟩ := h
  -- no counter has started again, so each shows what was counted
  have hr : sc.monitor.read.toNat = sc.reads.sum := hc.read.trans (Nat.mod_eq_of_lt hu.1)
  have hw : sc.monitor.written.toNat = sc.writes.sum := hc.written.trans (Nat.mod_eq_of_lt hu.2)
  generalize hnext : sc.report = next
  have hreports := reports_report hc
  rw [hnext] at hreports
  cases hreports with
  | looked hcall =>
      rw [hcall] at hread hwritten hseenRead hseenWritten huntold hreported
      refine ⟨hgains, huntold, hreported, ?_, hwritten, Nat.le_of_eq hr, hseenWritten⟩
      exact Nat.le_trans hread (Nat.le_of_eq hr.symm)
  | added read hcall =>
      rw [hcall] at hread hwritten hseenRead hseenWritten huntold hreported
      refine ⟨hgains, huntold, hreported, hread, ?_, hseenRead, Nat.le_of_eq hw⟩
      exact Nat.le_trans hwritten (Nat.le_of_eq hw.symm)
  | refused read written hcall hsize =>
      rw [hcall] at hread hwritten hseenRead hseenWritten huntold hreported
      exact ⟨hgains, huntold, hreported, Nat.le_trans hread hseenRead,
        Nat.le_trans hwritten hseenWritten, Nat.le_refl _, Nat.le_refl _⟩
  | stored read written hcall hsize =>
      rw [hcall] at hread hwritten hseenRead hseenWritten huntold hreported
      refine ⟨hgains, ?_, rfl, hread, hwritten, hseenRead, hseenWritten⟩
      -- what is stored is what was told last, and both counters have only grown since
      have hle : sc.last.total ≤ read + written := Nat.add_le_add hread hwritten
      rw [show sc.monitor.reported = sc.last.total from hreported]
      exact Nat.add_sub_cancel' hle
  | told read written gained hcall =>
      rw [hcall] at hread hwritten hseenRead hseenWritten huntold hreported
      refine ⟨?_, rfl, hreported, hseenRead, hseenWritten, Nat.le_refl _, Nat.le_refl _⟩
      rw [List.map_cons, List.sum_cons, hgains, Nat.add_comm]
      exact huntold

/-! ## §6. Whatever happens. -/

/-- Books, counters and gains are as they should be. -/
structure Lawful (sc : Scene) : Prop where
  balanced : sc.books.Balanced []
  counted : sc.Counted
  settled : sc.Unwrapped → sc.Settled

theorem lawful_start : start.Lawful := ⟨Books.balanced_start, counted_start, fun _ => settled_start⟩

/-- The reporter leaves the guards and their numbers. -/
theorem Lawful.balanced_report (h : sc.Lawful) : sc.report.books.Balanced [] := by
  generalize hnext : sc.report = next
  have hreports := reports_report h.counted
  rw [hnext] at hreports
  cases hreports with
  | stored => exact h.balanced.of_counts_eq rfl
  | looked | added | refused | told => exact h.balanced

/-- The reporter counts nothing. -/
theorem counted_report (h : sc.Counted) :
    sc.report.reads = sc.reads ∧ sc.report.writes = sc.writes := by
  generalize hnext : sc.report = next
  have hreports := reports_report h
  rw [hnext] at hreports
  cases hreports <;> exact ⟨rfl, rfl⟩

/-- **Whatever happens** leaves them so. -/
theorem Lawful.move (h : sc.Lawful) (mv : Move) : (sc.move mv).Lawful := by
  cases mv with
  | enter e =>
      refine ⟨h.balanced.enter e, h.counted.enter e, fun hu => (h.settled ⟨?_, ?_⟩).enter e⟩
      · refine Nat.lt_of_le_of_lt ?_ hu.1
        rw [Scene.move, List.sum_append]
        exact Nat.le_add_left ..
      · refine Nat.lt_of_le_of_lt ?_ hu.2
        rw [Scene.move, List.sum_append]
        exact Nat.le_add_left ..
  | report =>
      obtain ⟨hr, hw⟩ := counted_report h.counted
      refine ⟨h.balanced_report, h.counted.report, fun hu => ?_⟩
      have hu' : sc.Unwrapped := by
        unfold Unwrapped at hu ⊢
        rw [Scene.move, hr, hw] at hu
        exact hu
      exact (h.settled hu').report h.counted hu'

theorem Lawful.run (h : sc.Lawful) (moves : List Move) : (sc.run moves).Lawful := by
  induction moves generalizing sc with
  | nil => exact h
  | cons mv rest ih => exact ih (h.move mv)

/-- What was told last is all that was counted up to some time. -/
theorem Counted.last_total (h : sc.Counted) (hu : sc.Unwrapped) :
    ∃ reads writes, reads <:+ sc.reads ∧ writes <:+ sc.writes ∧
      sc.last.total = reads.sum + writes.sum := by
  unfold last
  cases htold : sc.told with
  | nil => exact ⟨[], [], List.nil_suffix, List.nil_suffix, rfl⟩
  | cons r rest =>
      obtain ⟨hread, hwritten⟩ := h.told r (htold ▸ List.mem_cons_self)
      obtain ⟨reads, hreads, hr⟩ := hread.eq_sum hu.1
      obtain ⟨writes, hwrites, hw⟩ := hwritten.eq_sum hu.2
      refine ⟨reads, writes, hreads, hwrites, ?_⟩
      rw [List.headD_cons, Reading.total, hr, hw]

/-- **A monitor accounts for everything**, whatever happens at it in whatever order.

The open addresses are in their order, each comes once, and they are those for which a guard
lives; when no guard is half dropped, the monitor keeps no others.  The totals are the sums of the
bytes that were counted, in 64 bits.  A snapshot is refused just if the totals that it sees — they
are what the counters show, or have shown when it looked — do not fit together, and then it changes
nothing.  As long as no counter has started again, the gains that were told sum up to the total that
was told last, and that is all that was counted up to some time. -/
theorem accounting_exact (moves : List Move) :
    let sc := start.run moves
    let m := sc.monitor
    (m.opened.Pairwise (· < ·) ∧ (∀ addr, addr ∈ m.opened ↔ addr ∈ sc.books.guards) ∧
      (sc.books.closing = [] → m.counts.keys = m.opened)) ∧
    m.totals = (sc.reads.sum % UInt64.size, sc.writes.sum % UInt64.size) ∧
    ((m.snapshot.1 = .error .sumOverflow ↔ UInt64.size ≤ m.totals.1 + m.totals.2) ∧
      (m.snapshot.1 = .error .sumOverflow → m.snapshot.2 = m)) ∧
    ((sc.Refuses ↔ ∃ read written, sc.snapshot = .comparing read written ∧
        Shown sc.reads read ∧ Shown sc.writes written ∧ UInt64.size ≤ read + written) ∧
      (sc.Refuses → sc.report = { sc with snapshot := .entering }) ∧
      ∀ r ∈ sc.told, Shown sc.reads r.readTotal ∧ Shown sc.writes r.writeTotal) ∧
    (sc.Unwrapped → (sc.told.map Reading.gained).sum = sc.last.total ∧
      ∃ reads writes, reads <:+ sc.reads ∧ writes <:+ sc.writes ∧
        sc.last.total = reads.sum + writes.sum) := by
  intro sc m
  obtain ⟨hbalanced, hcounted, hsettled⟩ : sc.Lawful := lawful_start.run moves
  refine ⟨⟨Monitor.pairwise_opened hbalanced.sorted, fun addr => ?_, fun hdone => ?_⟩, ?_,
    ⟨m.snapshot_refused_iff, Monitor.snapshot_of_refused⟩,
    ⟨?_, report_of_refuses hcounted, hcounted.told⟩,
    fun hu => ⟨(hsettled hu).gains, hcounted.last_total hu⟩⟩
  · rw [show m = sc.books.monitor from rfl, hbalanced.mem_opened]
    simp only [List.not_mem_nil, false_or]
  · exact (hbalanced.opened_eq_keys hdone).symm
  · exact Prod.ext hcounted.read hcounted.written
  · rw [hcounted.refuses_iff]
    constructor
    · rintro ⟨read, written, hcall, hsize⟩
      have hread := hcounted.seenRead
      have hwritten := hcounted.seenWritten
      rw [hcall] at hread hwritten
      exact ⟨read, written, hcall, hread, hwritten, hsize⟩
    · rintro ⟨read, written, hcall, -, -, hsize⟩
      exact ⟨read, written, hcall, hsize⟩

/-- A guard is half dropped when the next one for its address comes, and bytes are counted while
the second snapshot is under way. -/
def overlapping : List Move :=
  [.enter (.acquire "a:1"), .enter (.read 5), .report, .report, .report, .report,
    .enter (.abandon "a:1"), .report, .enter (.write 7), .enter (.read 11),
    .enter (.acquire "a:1"), .report, .report, .enter (.sweep "a:1"), .report]

/-- The address counts as open, nothing else is kept, and the second snapshot has told the bytes
written behind its back, but not those read. -/
theorem accounting_exact_overlapping :
    (start.run overlapping).books.closing = [] ∧
      (start.run overlapping).monitor.counts.keys = ["a:1"] ∧
      (start.run overlapping).Unwrapped ∧
      ((start.run overlapping).told.map Reading.gained).sum = 12 := by
  obtain ⟨⟨-, -, hkeys⟩, -, -, -, hgains⟩ := accounting_exact overlapping
  have hdone : (start.run overlapping).books.closing = [] := by decide
  have hopened : (start.run overlapping).monitor.opened = ["a:1"] := by decide
  have hu : (start.run overlapping).Unwrapped := by decide
  exact ⟨hdone, (hkeys hdone).trans hopened, hu, (hgains hu).1.trans (by decide)⟩

end Scene

end Failover.Telemetry
