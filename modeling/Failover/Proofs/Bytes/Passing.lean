/-
  Failover.Proofs.Bytes.Passing
  ─────────────────────────────
  **What passes through a stream.**  Something that is done to a stream
  has the stream deliver bytes or take some.  Reading an exact number of
  bytes and writing all of them are repeated attempts, one of which may
  fail; what has passed until then has passed.  So what passes is counted
  attempt by attempt, apart from what the operation comes to:

      readExact n      delivered:  b₁ ++ b₂ ++ … ++ bₖ
      writeAll bytes   taken:      t₁ + t₂ + … + tₖ

  Main statements: `delivered_of_ok` — where reading succeeds it has what
  was delivered — and `passes_perform` — for streams in memory, what is
  delivered is what leaves the source, and what is taken reaches the sink.
-/
import Failover.Bytes.Channel

namespace Failover.Bytes

/-! ## §1. What passes. -/

namespace Channel

variable {σ : Type}

/-- The bytes that attempts to read `n` bytes deliver, also when one of them fails in the end. -/
def delivered (c : Channel σ) (n : Nat) (s : σ) : List UInt8 :=
  if n = 0 then []
  else
    match c.read n s with
    | (.error _, _) => []
    | (.ok [], _) => []
    | (.ok (b :: bs), s') => b :: bs ++ c.delivered (n - (bs.length + 1)) s'
  termination_by n

/-- How many of the bytes attempts to write all of them take, also when one fails in the end. -/
def taken (c : Channel σ) (bytes : List UInt8) (s : σ) : Nat :=
  if bytes = [] then 0
  else
    match c.write bytes s with
    | (.error _, _) => 0
    | (.ok 0, _) => 0
    | (.ok (k + 1), s') => k + 1 + c.taken (bytes.drop (k + 1)) s'
  termination_by bytes.length
  decreasing_by
    have := List.length_pos_iff.2 ‹¬bytes = []›
    simp only [List.length_drop]
    omega

/-- Reading that succeeds has what was delivered. -/
theorem delivered_of_ok {c : Channel σ} {n : Nat} {s : σ} {bytes : List UInt8}
    (h : (c.readExact n s).1 = .ok bytes) : c.delivered n s = bytes := by
  fun_induction c.readExact n s generalizing bytes with
  | case1 s =>
      unfold delivered
      rw [if_pos rfl]
      exact Except.ok.inj h
  | case2 | case3 => cases h
  | case4 n s hn b bs s' hread more s'' hmore ih =>
      unfold delivered
      rw [if_neg hn, hread]
      dsimp only
      rw [ih (congrArg Prod.fst hmore)]
      exact Except.ok.inj h
  | case5 => cases h

end Channel

/-! ## §2. Operations. -/

/-- Something that is done to a stream. -/
inductive Op where
  | read (room : Nat)
  | readExact (n : Nat)
  | write (bytes : List UInt8)
  | writeAll (bytes : List UInt8)
  | flush
  | close

/-- What it comes to: bytes, the number of bytes that were taken, or nothing. -/
inductive Reply where
  | bytes (result : Except IoFault (List UInt8))
  | count (result : Except IoFault Nat)
  | done (result : Except IoFault Unit)

namespace Op

variable {σ : Type}

/-- Something is done to a stream. -/
def perform (c : Channel σ) : Op → σ → Reply × σ
  | .read room, s => (.bytes (c.read room s).1, (c.read room s).2)
  | .readExact n, s => (.bytes (c.readExact n s).1, (c.readExact n s).2)
  | .write bytes, s => (.count (c.write bytes s).1, (c.write bytes s).2)
  | .writeAll bytes, s => (.done (c.writeAll bytes s).1, (c.writeAll bytes s).2)
  | .flush, s => (.done (c.flush s).1, (c.flush s).2)
  | .close, s => (.done (c.close s).1, (c.close s).2)

/-- Things are done one after the other. -/
def performAll (c : Channel σ) : List Op → σ → List Reply × σ
  | [], s => ([], s)
  | op :: rest, s =>
      let (replies, s') := performAll c rest (op.perform c s).2
      ((op.perform c s).1 :: replies, s')

/-- The bytes that the stream delivers meanwhile. -/
def delivered (c : Channel σ) : Op → σ → List UInt8
  | .read room, s => (c.read room s).1.toOption.getD []
  | .readExact n, s => c.delivered n s
  | _, _ => []

/-- How many bytes it takes meanwhile. -/
def taken (c : Channel σ) : Op → σ → Nat
  | .write bytes, s => (c.write bytes s).1.toOption.getD 0
  | .writeAll bytes, s => c.taken bytes s
  | _, _ => 0

/-- The bytes that are offered. -/
def offered : Op → List UInt8
  | .write bytes | .writeAll bytes => bytes
  | _ => []

/-- Whatever reading comes to is what was delivered. -/
theorem delivered_of_reply {c : Channel σ} {op : Op} {s : σ} {bytes : List UInt8}
    (h : (op.perform c s).1 = .bytes (.ok bytes)) : op.delivered c s = bytes := by
  cases op with
  | read room =>
      have hread : (c.read room s).1 = .ok bytes := Reply.bytes.inj h
      show (c.read room s).1.toOption.getD [] = bytes
      rw [hread]
      rfl
  | readExact n => exact Channel.delivered_of_ok (Reply.bytes.inj h)
  | write | writeAll | flush | close => cases h

end Op

/-! ## §3. Streams in memory. -/

/-- **From one state of a stream in memory to another one these bytes were read and those were
written.** -/
structure Endpoint.Passes (e : Endpoint) (delivered taken : List UInt8) (e' : Endpoint) : Prop where
  read : e.source.bytes = delivered ++ e'.source.bytes
  written : e'.sink.written = e.sink.written ++ taken

namespace Endpoint

variable {e e' e'' : Endpoint}

theorem Passes.refl (e : Endpoint) : e.Passes [] [] e := ⟨rfl, (List.append_nil _).symm⟩

theorem Passes.trans {d d' t t' : List UInt8} (h : e.Passes d t e') (h' : e'.Passes d' t' e'') :
    e.Passes (d ++ d') (t ++ t') e'' where
  read := by rw [h.read, h'.read, List.append_assoc]
  written := by rw [h'.written, h.written, List.append_assoc]

/-- Taking a piece takes the first bytes. -/
theorem flatten_takePiece (room : Nat) (pieces : List (List UInt8)) :
    pieces.flatten = (takePiece room pieces).1 ++ (takePiece room pieces).2.flatten := by
  fun_induction takePiece room pieces with
  | case1 => rfl
  | case2 rest ih => exact ih
  | case3 b bs rest h => rfl
  | case4 b bs rest h =>
      rw [List.flatten_cons, List.flatten_cons, ← List.append_assoc, List.take_append_drop]

/-- One read passes what it delivers. -/
theorem passes_read (room : Nat) (e : Endpoint) :
    e.Passes ((channel.read room e).1.toOption.getD []) [] (channel.read room e).2 := by
  have hbytes := flatten_takePiece room e.source.pieces
  refine ⟨?_, (List.append_nil _).symm⟩
  show e.source.bytes =
    (e.source.read room).1.toOption.getD [] ++ (e.source.read room).2.bytes
  unfold Source.read
  split
  · next rest htake =>
    rw [htake] at hbytes
    split
    · rfl
    · split <;> exact hbytes
  · next bytes rest _ htake =>
    rw [htake] at hbytes
    exact hbytes

/-- One write passes as many of the bytes as it tells. -/
theorem passes_write (bytes : List UInt8) (e : Endpoint) :
    e.Passes [] (bytes.take ((channel.write bytes e).1.toOption.getD 0))
      (channel.write bytes e).2 := by
  refine ⟨rfl, ?_⟩
  show (e.sink.write bytes).2.written =
    e.sink.written ++ bytes.take ((e.sink.write bytes).1.toOption.getD 0)
  unfold Sink.write
  split
  · exact (List.append_nil _).symm
  · rfl

/-- Reading an exact number passes what is delivered on the way. -/
theorem passes_readExact (n : Nat) (e : Endpoint) :
    e.Passes (channel.delivered n e) [] (channel.readExact n e).2 := by
  fun_induction channel.readExact n e with
  | case1 e =>
      unfold Channel.delivered
      rw [if_pos rfl]
      exact .refl e
  | case2 n e hn cause e' hread | case3 n e hn e' hread =>
      have hpasses := passes_read n e
      unfold Channel.delivered
      rw [if_neg hn]
      rw [hread] at hpasses ⊢
      exact hpasses
  | case4 n e hn b bs e' hread more e'' hmore ih | case5 n e hn b bs e' hread cause e'' hmore ih =>
      have hpasses := passes_read n e
      unfold Channel.delivered
      rw [if_neg hn]
      rw [hread] at hpasses ⊢
      rw [hmore] at ih
      exact hpasses.trans ih

/-- Writing all bytes passes the first of them, as many as are taken on the way. -/
theorem passes_writeAll (bytes : List UInt8) (e : Endpoint) :
    e.Passes [] (bytes.take (channel.taken bytes e)) (channel.writeAll bytes e).2 := by
  fun_induction channel.writeAll bytes e with
  | case1 e =>
      rw [List.take_nil]
      exact .refl e
  | case2 bytes e hb cause e' hwrite | case3 bytes e hb e' hwrite =>
      have hpasses := passes_write bytes e
      unfold Channel.taken
      rw [if_neg hb]
      rw [hwrite] at hpasses ⊢
      exact hpasses
  | case4 bytes e hb k e' hwrite ih =>
      have hpasses := passes_write bytes e
      unfold Channel.taken
      rw [if_neg hb]
      rw [hwrite] at hpasses ⊢
      dsimp only
      rw [List.take_add]
      exact hpasses.trans ih

/-- No more is taken than is offered. -/
theorem write_le (bytes : List UInt8) (e : Endpoint) :
    (channel.write bytes e).1.toOption.getD 0 ≤ bytes.length := by
  show (e.sink.write bytes).1.toOption.getD 0 ≤ bytes.length
  unfold Sink.write
  split
  · exact Nat.zero_le _
  · exact Nat.min_le_left ..

theorem taken_le (bytes : List UInt8) (e : Endpoint) : channel.taken bytes e ≤ bytes.length := by
  fun_induction channel.taken bytes e with
  | case1 | case2 | case3 => exact Nat.zero_le _
  | case4 bytes e hb k e' hwrite ih =>
      have hle := write_le bytes e
      rw [hwrite] at hle
      have hle : k + 1 ≤ bytes.length := hle
      rw [List.length_drop] at ih
      omega

/-- **What passes is what leaves the source and what reaches the sink**, in the numbers that are
told. -/
theorem passes_perform (op : Op) (e : Endpoint) :
    op.taken channel e ≤ op.offered.length ∧
      e.Passes (op.delivered channel e) (op.offered.take (op.taken channel e))
        (op.perform channel e).2 := by
  refine ⟨?_, ?_⟩
  · cases op with
    | write bytes => exact write_le bytes e
    | writeAll bytes => exact taken_le bytes e
    | read | readExact | flush | close => exact Nat.zero_le _
  cases op with
  | read room => exact passes_read room e
  | readExact n => exact passes_readExact n e
  | write bytes => exact passes_write bytes e
  | writeAll bytes => exact passes_writeAll bytes e
  | flush => exact .refl e
  | close => exact ⟨rfl, (List.append_nil _).symm⟩

end Endpoint

end Failover.Bytes
