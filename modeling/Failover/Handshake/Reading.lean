/-
  Failover.Handshake.Reading
  ──────────────────────────
  **A handshake read from a stream.** Lines are fed to a negotiation until
  one of them ends it, and the reader is left right behind that line.  The
  handshake fails with the first line that is refused, and when the stream
  ends before it is finished.

  A handshake also goes piece by piece, for a stream whose end is not
  known yet: `Progress` is where it stands.
-/
import Failover.Handshake.Negotiation
import Failover.Bytes.Lines

namespace Failover.Handshake

open Bytes

/-! ## §1. Piece by piece. -/

/-- Where a handshake stands: still going on, finished or failed.  The buffer holds what was read
and not used. -/
inductive Progress where
  | reading (negotiation : Negotiation) (buffer : LineBuffer)
  | done (negotiation : Negotiation) (buffer : LineBuffer)
  | failed (cause : Fault)

/-- Use the whole lines of a buffer. -/
def Progress.drain (n : Negotiation) (b : LineBuffer) : Progress :=
  match _h : b.take with
  | .unfinished rest => .reading n rest
  | .tooLong => .failed (.protocol .lineTooLong)
  | .line bytes rest =>
      match lineText bytes with
      | .error f => .failed f
      | .ok text =>
          match n.feed text with
          | (.error f, _) => .failed f
          | (.ok .done, n') => .done n' rest
          | (.ok .more, n') => drain n' rest
  termination_by b.pending.length
  decreasing_by exact LineBuffer.take_line _h

/-- Nothing read yet. -/
def Progress.start : Progress := .reading .empty .empty

/-- Go on with the bytes of one read. -/
def Progress.push (p : Progress) (bytes : List UInt8) : Progress :=
  match p with
  | .reading n b => drain n (b.push bytes)
  | p => p

/-- The stream has ended. -/
def Progress.close (p : Progress) (ending : Ending) : Progress :=
  match p with
  | .reading n b =>
      match ending with
      | .fault cause => .failed (.io cause)
      | .closed =>
          match lastLine b.pending with
          | none => .failed (.protocol .closedBeforeDone)
          | some (.error f) => .failed f
          | some (.ok text) =>
              match n.feed text with
              | (.error f, _) => .failed f
              | (.ok .done, n') => .done n' .empty
              | (.ok .more, _) => .failed (.protocol .closedBeforeDone)
  | p => p

/-! ## §2. At once. -/

/-- Go on with the pieces of a source, as many as the handshake needs. -/
def negotiateFrom (ending : Ending) :
    List (List UInt8) → Progress → Except Fault (Negotiation × LineReader)
  | pieces, .done n b => .ok (n, ⟨b, ⟨pieces, ending⟩⟩)
  | _, .failed f => .error f
  | piece :: rest, .reading n b => negotiateFrom ending rest (.drain n (b.push piece))
  | [], .reading n b =>
      match Progress.close (.reading n b) ending with
      | .done n' b' => .ok (n', ⟨b', ⟨[], ending⟩⟩)
      | .failed f => .error f
      | .reading .. => .error (.protocol .closedBeforeDone)

/-- Read a whole handshake.  The reader that comes with it stands behind the line that ended it. -/
def negotiate (reader : LineReader) : Except Fault (Negotiation × LineReader) :=
  negotiateFrom reader.source.ending reader.source.pieces (.drain .empty reader.buffer)

end Failover.Handshake
