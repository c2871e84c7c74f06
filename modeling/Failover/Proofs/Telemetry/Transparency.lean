/-
  Failover.Proofs.Telemetry.Transparency
  ──────────────────────────────────────
  **Watching a stream changes nothing but the counters.**  Whatever is
  done to a watched stream is done to the stream in it, with the same
  result, whether it succeeds or fails on the way; and the counters grow by
  the bytes that pass on the way:

      stream             ── perform ──▶   reply, stream'
      stream, monitor    ── perform ──▶   reply, stream', monitor'

      monitor'  =  monitor + delivered (read) + taken (written)

  While the stream lives it holds a guard for its remote address, among the
  other guards on the monitor, which come and go meanwhile.

  Main statements: `perform_watch` — one operation — and
  `watching_transparent`.
-/
import Failover.Proofs.Bytes.Passing
import Failover.Proofs.Telemetry.Books
import Failover.Telemetry.Watched

namespace Failover.Telemetry

open Bytes

/-! ## §1. Counting in parts. -/

namespace Monitor

theorem addRead_zero (m : Monitor) : m.addRead 0 = m :=
  congrArg (fun read => { m with read }) m.read.add_zero

theorem addRead_addRead (m : Monitor) (a b : Nat) : (m.addRead a).addRead b = m.addRead (a + b) := by
  unfold addRead
  rw [UInt64.ofNat_add, UInt64.add_assoc]

theorem addWritten_zero (m : Monitor) : m.addWritten 0 = m :=
  congrArg (fun written => { m with written }) m.written.add_zero

theorem addWritten_addWritten (m : Monitor) (a b : Nat) :
    (m.addWritten a).addWritten b = m.addWritten (a + b) := by
  unfold addWritten
  rw [UInt64.ofNat_add, UInt64.add_assoc]

/-- What counting does to the totals. -/
theorem totals_add (m : Monitor) (a b : Nat) :
    ((m.addRead a).addWritten b).totals =
      ((m.totals.1 + a) % UInt64.size, (m.totals.2 + b) % UInt64.size) := by
  unfold totals addRead addWritten
  dsimp only
  rw [UInt64.toNat_add, UInt64.toNat_add, UInt64.toNat_ofNat', UInt64.toNat_ofNat', UInt64.size,
    Nat.add_mod_mod, Nat.add_mod_mod]

end Monitor

/-! ## §2. One operation. -/

namespace Watched

variable {σ α : Type}

/-- What is done to a watched stream is done to the stream; what succeeds is counted. -/
theorem lift_eq (f : σ → Except IoFault α × σ) (counted : Monitor → α → Monitor)
    (w : Watched σ) :
    lift f counted w =
      ((f w.stream).1,
        ⟨(f w.stream).2, (f w.stream).1.toOption.elim w.monitor (counted w.monitor),
          w.remote⟩) := by
  unfold lift
  rcases f w.stream with ⟨cause | a, s⟩ <;> rfl

variable (c : Channel σ) (s : σ) (m : Monitor) (remote : String)

theorem read_watch (room : Nat) :
    (watch c).read room ⟨s, m, remote⟩ =
      ((c.read room s).1,
        ⟨(c.read room s).2, m.addRead ((c.read room s).1.toOption.getD []).length, remote⟩) := by
  refine (lift_eq (c.read room) (fun m bytes => m.addRead bytes.length) _).trans ?_
  rcases c.read room s with ⟨cause | bytes, s'⟩
  · exact congrArg (fun m => (_, Watched.mk s' m remote)) m.addRead_zero.symm
  · rfl

theorem write_watch (bytes : List UInt8) :
    (watch c).write bytes ⟨s, m, remote⟩ =
      ((c.write bytes s).1,
        ⟨(c.write bytes s).2, m.addWritten ((c.write bytes s).1.toOption.getD 0), remote⟩) := by
  refine (lift_eq (c.write bytes) (fun m k => m.addWritten k) _).trans ?_
  rcases c.write bytes s with ⟨cause | k, s'⟩
  · exact congrArg (fun m => (_, Watched.mk s' m remote)) m.addWritten_zero.symm
  · rfl

theorem flush_watch :
    (watch c).flush ⟨s, m, remote⟩ = ((c.flush s).1, ⟨(c.flush s).2, m, remote⟩) := by
  refine (lift_eq c.flush (fun m _ => m) _).trans ?_
  rcases c.flush s with ⟨cause | u, s'⟩ <;> rfl

theorem close_watch :
    (watch c).close ⟨s, m, remote⟩ = ((c.close s).1, ⟨(c.close s).2, m, remote⟩) := by
  refine (lift_eq c.close (fun m _ => m) _).trans ?_
  rcases c.close s with ⟨cause | u, s'⟩ <;> rfl

/-- Reading an exact number of bytes counts those that are delivered on the way. -/
theorem readExact_watch (n : Nat) :
    (watch c).readExact n ⟨s, m, remote⟩ =
      ((c.readExact n s).1,
        ⟨(c.readExact n s).2, m.addRead (c.delivered n s).length, remote⟩) := by
  -- one attempt after the other, each from what the ones before have counted
  fun_induction c.readExact n s generalizing m with
  | case1 s =>
      unfold Channel.readExact Channel.delivered
      rw [if_pos rfl, if_pos rfl, List.length_nil, m.addRead_zero]
  | case2 n s hn cause s' hread | case3 n s hn s' hread =>
      have hwatched := read_watch c s m remote n
      unfold Channel.readExact Channel.delivered
      rw [hread] at hwatched ⊢
      rw [if_neg hn, if_neg hn, hwatched]
      rfl
  | case4 n s hn b bs s' hread more s'' hmore ih | case5 n s hn b bs s' hread cause s'' hmore ih =>
      have hwatched := read_watch c s m remote n
      have hrest := ih (m.addRead (b :: bs).length)
      unfold Channel.readExact Channel.delivered
      rw [hread] at hwatched ⊢
      rw [hmore] at hrest
      rw [if_neg hn, if_neg hn, hwatched, List.length_append, ← m.addRead_addRead]
      dsimp only [Except.toOption, Option.getD_some]
      rw [hrest]

/-- Writing all bytes counts those that are taken on the way. -/
theorem writeAll_watch (bytes : List UInt8) :
    (watch c).writeAll bytes ⟨s, m, remote⟩ =
      ((c.writeAll bytes s).1,
        ⟨(c.writeAll bytes s).2, m.addWritten (c.taken bytes s), remote⟩) := by
  fun_induction c.writeAll bytes s generalizing m with
  | case1 s =>
      unfold Channel.writeAll Channel.taken
      rw [if_pos rfl, if_pos rfl, m.addWritten_zero]
  | case2 bytes s hb cause s' hwrite | case3 bytes s hb s' hwrite =>
      have hwatched := write_watch c s m remote bytes
      unfold Channel.writeAll Channel.taken
      rw [hwrite] at hwatched ⊢
      rw [if_neg hb, if_neg hb, hwatched]
      rfl
  | case4 bytes s hb k s' hwrite ih =>
      have hwatched := write_watch c s m remote bytes
      have hrest := ih (m.addWritten (k + 1))
      rw [hwrite] at hwatched
      rw [Channel.writeAll, if_neg hb, hwatched, Channel.taken, if_neg hb, hwrite]
      dsimp only [Except.toOption, Option.getD_some]
      rw [hrest, m.addWritten_addWritten]

/-- **One operation** has the same result on a watched stream and leaves the stream in the same
state, and what passes meanwhile is counted. -/
theorem perform_watch (op : Op) :
    op.perform (watch c) ⟨s, m, remote⟩ =
      ((op.perform c s).1,
        ⟨(op.perform c s).2,
          (m.addRead (op.delivered c s).length).addWritten (op.taken c s), remote⟩) := by
  cases op with
  | read room =>
      simp only [Op.perform, Op.delivered, Op.taken, read_watch, Monitor.addWritten_zero]
  | readExact n =>
      simp only [Op.perform, Op.delivered, Op.taken, readExact_watch, Monitor.addWritten_zero]
  | write bytes =>
      simp only [Op.perform, Op.delivered, Op.taken, write_watch, List.length_nil,
        Monitor.addRead_zero]
  | writeAll bytes =>
      simp only [Op.perform, Op.delivered, Op.taken, writeAll_watch, List.length_nil,
        Monitor.addRead_zero]
  | flush =>
      simp only [Op.perform, Op.delivered, Op.taken, flush_watch, List.length_nil,
        Monitor.addRead_zero, Monitor.addWritten_zero]
  | close =>
      simp only [Op.perform, Op.delivered, Op.taken, close_watch, List.length_nil,
        Monitor.addRead_zero, Monitor.addWritten_zero]

end Watched

/-! ## §3. In company. -/

/-- A watched stream, and the books of the other guards on its monitor. -/
structure Company (σ : Type) where
  stream : σ
  books : Books

/-- Something is done to the watched stream, or beside it to its monitor. -/
inductive Deed where
  | use (op : Op)
  | beside (entry : Entry)

/-- What is done to the stream. -/
def Deed.op? : Deed → Option Op
  | .use op => some op
  | .beside _ => none

namespace Company

variable {σ : Type}

/-- The watched stream. -/
def watched (k : Company σ) (remote : String) : Watched σ := ⟨k.stream, k.books.monitor, remote⟩

/-- A stream is watched from now on, on a monitor with these books. -/
def start (stream : σ) (books : Books) (remote : String) : Company σ :=
  ⟨stream, { books with monitor := (Watched.start stream books.monitor remote).monitor }⟩

/-- The watched stream was used. -/
def used (k : Company σ) (w : Watched σ) : Company σ :=
  ⟨w.stream, { k.books with monitor := w.monitor }⟩

/-- Things are done one after the other. -/
def run (c : Channel σ) (remote : String) : List Deed → Company σ → List Reply × Company σ
  | [], k => ([], k)
  | .use op :: rest, k =>
      let (reply, w) := op.perform (watch c) (k.watched remote)
      let (replies, k') := run c remote rest (k.used w)
      (reply :: replies, k')
  | .beside entry :: rest, k => run c remote rest { k with books := k.books.enter entry }

variable (c : Channel σ) (remote : String)

/-- Whatever is done beside it, the stream is used as if it were not watched. -/
theorem run_transparent (deeds : List Deed) (k : Company σ) :
    ((run c remote deeds k).1, (run c remote deeds k).2.stream) =
      Op.performAll c (deeds.filterMap Deed.op?) k.stream := by
  induction deeds generalizing k with
  | nil => rfl
  | cons deed rest ih =>
      cases deed with
      | use op =>
          unfold run
          dsimp only [watched]
          rw [Watched.perform_watch]
          -- the rest starts where the same use leaves the stream alone
          exact congrArg (fun done => ((op.perform c k.stream).1 :: done.1, done.2)) (ih (k.used _))
      | beside entry => exact ih _

/-- The monitor counts the guard of the stream and the others, whatever is done. -/
theorem balanced_run {k : Company σ} (h : k.books.Balanced [remote]) (deeds : List Deed) :
    (run c remote deeds k).2.books.Balanced [remote] := by
  induction deeds generalizing k with
  | nil => exact h
  | cons deed rest ih =>
      cases deed with
      | use op =>
          unfold run
          dsimp only [watched]
          rw [Watched.perform_watch]
          exact ih (h.of_counts_eq rfl)
      | beside entry => exact ih (h.enter entry)

end Company

/-! ## §4. The whole life of a watched stream. -/

/-- **A watched stream is the stream, counted exactly.**  Whatever the stream is and has been used
for, and whatever happened on the monitor before and meanwhile: so far each use has had the result
that it would have had on the stream alone, and has left the stream in the same state, failing ones
included; and so does the next one, whatever it is, while the totals grow by the bytes that the
stream delivers and takes on the way.  While the watched stream lives its address counts as open;
when it is dropped the address does so only if another guard for it lives.  In a stream in memory
the bytes that are delivered are those that leave the source, and those taken are those that reach
the sink. -/
theorem watching_transparent {σ : Type} (c : Channel σ) (s : σ) (remote : String)
    (before : List Entry) (deeds : List Deed) :
    let (replies, k) := Company.run c remote deeds
      (.start s (Books.start.enterAll before) remote)
    let w := k.watched remote
    (replies, w.stream) = Op.performAll c (deeds.filterMap Deed.op?) s ∧
      (∀ op : Op,
        let (reply, w') := op.perform (watch c) w
        (reply, w'.stream) = op.perform c w.stream ∧
          w'.monitor.totals =
            ((w.monitor.totals.1 + (op.delivered c w.stream).length) % UInt64.size,
              (w.monitor.totals.2 + op.taken c w.stream) % UInt64.size) ∧
          ∀ bytes, reply = .bytes (.ok bytes) → op.delivered c w.stream = bytes) ∧
      (∀ addr, addr ∈ w.monitor.opened ↔ addr = remote ∨ addr ∈ k.books.guards) ∧
      (∀ addr, addr ∈ w.drop.opened ↔ addr ∈ k.books.guards) ∧
      ∀ (op : Op) (e : Endpoint),
        op.taken Endpoint.channel e ≤ op.offered.length ∧
          e.Passes (op.delivered Endpoint.channel e)
            (op.offered.take (op.taken Endpoint.channel e))
            (op.perform Endpoint.channel e).2 := by
  have hstart := (Books.balanced_start.enterAll before).hold remote
  have htransparent := Company.run_transparent c remote deeds
    (.start s (Books.start.enterAll before) remote)
  have hbalanced := Company.balanced_run c remote
    (k := .start s (Books.start.enterAll before) remote) hstart deeds
  generalize Company.run c remote deeds (.start s (Books.start.enterAll before) remote) = ran
    at htransparent hbalanced ⊢
  obtain ⟨replies, k⟩ := ran
  refine ⟨htransparent, fun op => ?_, fun addr => ?_, fun addr => ?_, Endpoint.passes_perform⟩
  · dsimp only [Company.watched]
    rw [Watched.perform_watch]
    exact ⟨rfl, Monitor.totals_add .., fun bytes hreply => Op.delivered_of_reply hreply⟩
  · exact hbalanced.mem_opened.trans (or_congr_left List.mem_singleton)
  · exact hbalanced.free.mem_opened.trans (or_iff_right List.not_mem_nil)

/-- Two bytes are read and the only other guard for the address is dropped.  Asking for five bytes
more then fails, but the one that is still delivered counts, and so do two of three bytes that are
written where there is room for two; the stream alone keeps the address open. -/
theorem watching_transparent_early_end :
    let (_, k) := Company.run Endpoint.channel "a" [.use (.read 2), .beside (.abandon "a")]
      (.start ⟨⟨[[1, 2], [3]], .closed⟩, .empty (some 2)⟩ (Books.start.enterAll [.acquire "a"]) "a")
    let w := k.watched "a"
    ((Op.readExact 5).perform (watch Endpoint.channel) w).2.monitor.totals = (3, 0) ∧
      ((Op.writeAll [7, 8, 9]).perform (watch Endpoint.channel) w).2.monitor.totals = (2, 2) ∧
      (Op.read 4).delivered Endpoint.channel w.stream = [3] ∧
      "a" ∈ w.monitor.opened ∧ "a" ∉ w.drop.opened := by
  obtain ⟨-, hnext, hopen, hdropped, -⟩ := watching_transparent Endpoint.channel
    ⟨⟨[[1, 2], [3]], .closed⟩, .empty (some 2)⟩ "a" [.acquire "a"]
    [.use (.read 2), .beside (.abandon "a")]
  refine ⟨?_, ?_, ?_, ?_, ?_⟩
  · exact (hnext (.readExact 5)).2.1.trans (by decide +kernel)
  · exact (hnext (.writeAll [7, 8, 9])).2.1.trans (by decide +kernel)
  · exact (hnext (.read 4)).2.2 [3] rfl
  · exact (hopen "a").2 (.inl rfl)
  · exact fun h => absurd ((hdropped "a").1 h) (by decide +kernel)

end Failover.Telemetry
