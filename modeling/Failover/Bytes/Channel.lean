/-
  Failover.Bytes.Channel
  ──────────────────────
  **Streams by what they can do.** A channel is a way to read from and to
  write to something, one attempt at a time: a read delivers some bytes or
  none at the end, a write takes some of the bytes that it is given.
  Reading an exact number of bytes and writing all of them are repeated
  attempts, and an attempt that fails leaves behind what the ones before
  it have done.
-/
import Failover.Bytes.Stream

namespace Failover.Bytes

/-- What can be done with a stream whose state is a `σ`. -/
structure Channel (σ : Type) where
  /-- One read of at most so many bytes; none at the end. -/
  read : Nat → σ → Except IoFault (List UInt8) × σ
  /-- One write; it tells how many of the bytes were taken. -/
  write : List UInt8 → σ → Except IoFault Nat × σ
  /-- Pass on what was taken and is still held back. -/
  flush : σ → Except IoFault Unit × σ
  /-- Tell the other side that nothing more is written. -/
  close : σ → Except IoFault Unit × σ

namespace Channel

variable {σ : Type}

/-- Reads until there are `n` bytes. -/
def readExact (c : Channel σ) (n : Nat) (s : σ) : Except IoFault (List UInt8) × σ :=
  if n = 0 then (.ok [], s)
  else
    match c.read n s with
    | (.error cause, s') => (.error cause, s')
    | (.ok [], s') => (.error .earlyEof, s')
    | (.ok (b :: bs), s') =>
        match c.readExact (n - (bs.length + 1)) s' with
        | (.ok more, s'') => (.ok (b :: bs ++ more), s'')
        | (.error cause, s'') => (.error cause, s'')
  termination_by n

/-- Writes until all bytes are taken. -/
def writeAll (c : Channel σ) (bytes : List UInt8) (s : σ) : Except IoFault Unit × σ :=
  if bytes = [] then (.ok (), s)
  else
    match c.write bytes s with
    | (.error cause, s') => (.error cause, s')
    | (.ok 0, s') => (.error .writeZero, s')
    | (.ok (k + 1), s') => c.writeAll (bytes.drop (k + 1)) s'
  termination_by bytes.length
  decreasing_by
    have := List.length_pos_iff.2 ‹¬bytes = []›
    simp only [List.length_drop]
    omega

end Channel

/-- The channel of an endpoint in memory. -/
def Endpoint.channel : Channel Endpoint where
  read room e :=
    let (r, source) := e.source.read room
    (r, { e with source })
  write bytes e :=
    let (r, sink) := e.sink.write bytes
    (r, { e with sink })
  flush e := (.ok (), e)
  close e := (.ok (), { e with sink := { e.sink with closings := e.sink.closings + 1 } })

end Failover.Bytes
