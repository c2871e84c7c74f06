/-
  Failover.Bytes.Stream
  ─────────────────────
  **Two ends of a byte stream.** A `Source` delivers bytes in pieces and
  then ends, orderly or with a fault; a `Sink` records what it takes and
  may have limited room.  An `Endpoint` is both at once, and an
  `Exchange` is a conversation over an endpoint that can fail half-way:
  what was read and written before the fault stays read and written.

  Main statements: `readExact_of_le` and `readExact_of_lt` — reading a
  fixed number of bytes depends on the bytes that are left and not on how
  they are cut — and `writeAll_of_roomy` for a sink without a limit.
-/
import Failover.Fault

namespace Failover.Bytes

/-! ## §1. Sources. -/

/-- How a source ends: orderly, or with a fault. -/
inductive Ending where
  | closed
  | fault (cause : IoFault)
  deriving DecidableEq, Repr

/-- Bytes to come, in the pieces in which reads deliver them. -/
structure Source where
  pieces : List (List UInt8)
  ending : Ending
  deriving DecidableEq, Repr

/-- The bytes to come. -/
def Source.bytes (s : Source) : List UInt8 := s.pieces.flatten

/-- Cut bytes into pieces of `size` bytes; size nought leaves them in one piece. -/
def cut (size : Nat) (bytes : List UInt8) : List (List UInt8) :=
  if size = 0 ∨ bytes.length ≤ size then (if bytes.isEmpty then [] else [bytes])
  else bytes.take size :: cut size (bytes.drop size)
  termination_by bytes.length
  decreasing_by grind

/-- The pieces from which up to `room` bytes were taken, with these bytes: one read takes from one
piece only. -/
def takePiece (room : Nat) : List (List UInt8) → List UInt8 × List (List UInt8)
  | [] => ([], [])
  | [] :: rest => takePiece room rest
  | (b :: bs) :: rest =>
      if bs.length < room then (b :: bs, rest)
      else ((b :: bs).take room, (b :: bs).drop room :: rest)

/-- One read of at most `room` bytes.  No bytes mean that the source has ended. -/
def Source.read (s : Source) (room : Nat) : Except IoFault (List UInt8) × Source :=
  match takePiece room s.pieces with
  | ([], rest) =>
      if room = 0 then (.ok [], s)
      else
        match s.ending with
        | .closed => (.ok [], { s with pieces := rest })
        | .fault cause => (.error cause, { s with pieces := rest })
  | (bytes, rest) => (.ok bytes, { s with pieces := rest })

/-- The pieces from which `n` bytes were taken, with these bytes; fewer if they run out. -/
def takeBytes : Nat → List (List UInt8) → List UInt8 × List (List UInt8)
  | _, [] => ([], [])
  | n, p :: rest =>
      if n < p.length then (p.take n, p.drop n :: rest)
      else
        let (more, rest') := takeBytes (n - p.length) rest
        (p ++ more, rest')

/-- Why a source has no more bytes. -/
def Ending.cause : Ending → IoFault
  | .closed => .earlyEof
  | .fault cause => cause

/-- Reads until there are `n` bytes; a source that ends before has them all consumed. -/
def Source.readExact (s : Source) (n : Nat) : Except IoFault (List UInt8) × Source :=
  let taken := takeBytes n s.pieces
  if taken.1.length < n then (.error s.ending.cause, { s with pieces := taken.2 })
  else (.ok taken.1, { s with pieces := taken.2 })

/-! ## §2. Sinks. -/

/-- What was written, the room that is left, if it is limited, and how often it was closed. -/
structure Sink where
  written : List UInt8
  room : Option Nat
  closings : Nat
  deriving DecidableEq, Repr

/-- An empty sink with the given room. -/
def Sink.empty (room : Option Nat) : Sink := ⟨[], room, 0⟩

/-- How many of `n` bytes a sink takes at once. -/
def Sink.accepts (s : Sink) (n : Nat) : Nat := min n (s.room.getD n)

/-- The sink after it took these bytes. -/
def Sink.take (s : Sink) (bytes : List UInt8) : Sink :=
  { s with written := s.written ++ bytes, room := s.room.map (· - bytes.length) }

/-- One write: as many bytes as there is room for, of which there has to be some. -/
def Sink.write (s : Sink) (bytes : List UInt8) : Except IoFault Nat × Sink :=
  if s.room = some 0 then (.error .brokenPipe, s)
  else (.ok (s.accepts bytes.length), s.take (bytes.take (s.accepts bytes.length)))

/-- Writes until all bytes are taken. -/
def Sink.writeAll (s : Sink) (bytes : List UInt8) : Except IoFault Unit × Sink :=
  let taken := s.take (bytes.take (s.accepts bytes.length))
  if s.accepts bytes.length < bytes.length then (.error .brokenPipe, taken) else (.ok (), taken)

/-! ## §3. Endpoints and conversations. -/

/-- Both directions of a stream. -/
structure Endpoint where
  source : Source
  sink : Sink
  deriving DecidableEq, Repr

/-- A conversation over an endpoint. -/
abbrev Exchange (α : Type) : Type := EStateM Fault Endpoint α

namespace Exchange

/-- Lift an operation on the source. -/
def ofSource {α : Type} (f : Source → Except IoFault α × Source) : Exchange α := fun e =>
  match f e.source with
  | (.ok a, s) => .ok a { e with source := s }
  | (.error cause, s) => .error (.io cause) { e with source := s }

/-- Lift an operation on the sink. -/
def ofSink {α : Type} (f : Sink → Except IoFault α × Sink) : Exchange α := fun e =>
  match f e.sink with
  | (.ok a, s) => .ok a { e with sink := s }
  | (.error cause, s) => .error (.io cause) { e with sink := s }

/-- Read exactly `n` bytes. -/
def readExact (n : Nat) : Exchange (List UInt8) := ofSource (·.readExact n)

/-- Write all of these bytes. -/
def writeAll (bytes : List UInt8) : Exchange Unit := ofSink (·.writeAll bytes)

/-- Read whatever is still to come. -/
def readRest : Exchange (List UInt8) := do
  let rest := (← get).source.bytes
  readExact rest.length

/-- A result that needs no conversation. -/
def ofResult {α : Type} (r : Except Fault α) : Exchange α := fun e =>
  match r with
  | .ok a => .ok a e
  | .error f => .error f e

/-- The same conversation, with its faults of reading and writing told as faults of the connection. -/
def explained {α : Type} (x : Exchange α) (f : IoFault → ConnectionFault) : Exchange α := fun e =>
  match x e with
  | .error (.io cause) e' => .error (.connection (f cause)) e'
  | r => r

/-- The result of a conversation with the endpoint that it leaves. -/
def outcome {α : Type} (x : Exchange α) (e : Endpoint) : Except Fault α × Endpoint :=
  match x e with
  | .ok a e' => (.ok a, e')
  | .error f e' => (.error f, e')

end Exchange

/-! ## §4. Reading does not depend on the cut. -/

/-- Taking bytes takes the first ones, whatever the pieces. -/
theorem takeBytes_fst (n : Nat) (pieces : List (List UInt8)) :
    (takeBytes n pieces).1 = pieces.flatten.take n := by
  induction pieces generalizing n with
  | nil => simp [takeBytes]
  | cons p rest ih =>
      rw [takeBytes, List.flatten_cons, List.take_append]
      split
      · simp [show n - p.length = 0 by omega]
      · simp [ih, List.take_of_length_le (show p.length ≤ n by omega)]

/-- Taking bytes leaves the others, whatever the pieces. -/
theorem takeBytes_snd (n : Nat) (pieces : List (List UInt8)) :
    (takeBytes n pieces).2.flatten = pieces.flatten.drop n := by
  induction pieces generalizing n with
  | nil => simp [takeBytes]
  | cons p rest ih =>
      rw [takeBytes, List.flatten_cons, List.drop_append]
      split
      · simp [show n - p.length = 0 by omega]
      · simp [ih, List.drop_of_length_le (show p.length ≤ n by omega)]

/-- With enough bytes to come, the first ones are read and the others left. -/
theorem Source.readExact_of_le {s : Source} {n : Nat} (h : n ≤ s.bytes.length) :
    (s.readExact n).1 = .ok (s.bytes.take n) ∧ (s.readExact n).2.bytes = s.bytes.drop n := by
  have e₁ := takeBytes_fst n s.pieces
  have e₂ := takeBytes_snd n s.pieces
  unfold Source.readExact
  rw [if_neg (by rw [e₁, List.length_take]; unfold Source.bytes at h; omega)]
  exact ⟨by rw [e₁, Source.bytes], e₂⟩

/-- With too few bytes to come, all of them are consumed. -/
theorem Source.readExact_of_lt {s : Source} {n : Nat} (h : s.bytes.length < n) :
    (s.readExact n).1 = .error s.ending.cause ∧ (s.readExact n).2.bytes = [] := by
  have e₁ := takeBytes_fst n s.pieces
  have e₂ := takeBytes_snd n s.pieces
  unfold Source.readExact
  rw [if_pos (by rw [e₁, List.length_take]; unfold Source.bytes at h; omega)]
  exact ⟨rfl, e₂.trans (List.drop_of_length_le (Nat.le_of_lt h))⟩

/-- Reading a fixed number of bytes does not change how the source ends. -/
theorem Source.ending_readExact (s : Source) (n : Nat) : (s.readExact n).2.ending = s.ending := by
  unfold Source.readExact
  simp only
  split <;> rfl

/-- A sink without a limit takes everything. -/
theorem Sink.writeAll_of_roomy {s : Sink} (h : s.room = none) (bytes : List UInt8) :
    s.writeAll bytes = (.ok (), { s with written := s.written ++ bytes }) := by
  simp [Sink.writeAll, Sink.accepts, Sink.take, h]

end Failover.Bytes
