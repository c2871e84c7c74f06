/-
  Failover.Bytes.Lines
  ────────────────────
  **Lines of a byte stream, with a limit on their length.** A line ends
  at a newline, and one carriage return before it does not count; what
  follows the last newline is a line too when the stream ends, unless it
  is nothing or a lone carriage return.  A line is too long when it has
  more than `maxLength` bytes, its carriage return included; then, and
  when a line is no text, the stream of lines ends with a fault.

  A `LineBuffer` takes the bytes as they come and remembers how far it has
  looked for a newline already; `linesOf` is the rule for a whole text.
-/
import Failover.Bytes.Stream

namespace Failover.Bytes

/-! ## §1. The rule for one line. -/

/-- The byte that ends a line. -/
def newline : UInt8 := 10

/-- The byte that may stand before it. -/
def carriageReturn : UInt8 := 13

/-- The most bytes of a line. -/
def maxLength : Nat := 4096

/-- The bytes without one carriage return at their end. -/
def withoutReturn (bytes : List UInt8) : List UInt8 :=
  if bytes.getLast? = some carriageReturn then bytes.dropLast else bytes

/-- The text of a line, given its bytes before the newline. -/
def lineText (bytes : List UInt8) : Except Fault String :=
  match Text.Utf8.textOf (withoutReturn bytes) with
  | .ok text => .ok text
  | .error _ => .error (.io .undecodable)

/-- The last line: what is left when the stream ends. -/
def lastLine (bytes : List UInt8) : Option (Except Fault String) :=
  if bytes.isEmpty || bytes == [carriageReturn] then none else some (lineText bytes)

/-! ## §2. The buffer. -/

/-- Bytes that are not yet a line, and how many of them are known to hold no newline. -/
structure LineBuffer where
  pending : List UInt8
  searched : Nat
  deriving DecidableEq, Repr

/-- Nothing yet. -/
def LineBuffer.empty : LineBuffer := ⟨[], 0⟩

/-- Add the bytes of one read. -/
def LineBuffer.push (b : LineBuffer) (bytes : List UInt8) : LineBuffer :=
  { b with pending := b.pending ++ bytes }

/-- What a buffer holds. -/
inductive Content where
  /-- A whole line, and the buffer without it. -/
  | line (bytes : List UInt8) (rest : LineBuffer)
  /-- More bytes than a line may have. -/
  | tooLong
  /-- The beginning of a line. -/
  | unfinished (buffer : LineBuffer)

/-- Look for a line.  A newline that comes later than a line may end is not looked for. -/
def LineBuffer.take (b : LineBuffer) : Content :=
  let window := b.pending.take (maxLength + 1)
  match (window.drop b.searched).findIdx? (· == newline) with
  | some i =>
      let n := b.searched + i
      .line (b.pending.take n) ⟨b.pending.drop (n + 1), 0⟩
  | none =>
      if maxLength < b.pending.length then .tooLong else .unfinished ⟨b.pending, window.length⟩

/-- A line that is taken leaves fewer bytes. -/
theorem LineBuffer.take_line {b rest : LineBuffer} {bytes : List UInt8}
    (h : b.take = .line bytes rest) : rest.pending.length < b.pending.length := by
  unfold LineBuffer.take at h
  simp only at h
  split at h
  · next i hi =>
    injection h with _ h
    subst h
    have := (List.findIdx?_eq_some_iff_getElem.1 hi).1
    grind
  · split at h <;> exact absurd h (by simp)

/-! ## §3. Lines still to come. -/

/-- A reader of lines: bytes read already, and the source of the others. -/
structure LineReader where
  buffer : LineBuffer
  source : Source
  deriving DecidableEq, Repr

/-- A reader at the beginning of a source. -/
def LineReader.start (source : Source) : LineReader := ⟨.empty, source⟩

/-- The whole lines in a buffer, and what is left: a buffer, or nothing after a fault. -/
def LineBuffer.lines (b : LineBuffer) : List (Except Fault String) × Option LineBuffer :=
  match _h : b.take with
  | .unfinished rest => ([], some rest)
  | .tooLong => ([.error (.protocol .lineTooLong)], none)
  | .line bytes rest =>
      match lineText bytes with
      | .error f => ([.error f], none)
      | .ok text =>
          let (more, left) := rest.lines
          (.ok text :: more, left)
  termination_by b.pending.length
  decreasing_by exact LineBuffer.take_line _h

/-- The lines that come from a buffer and the pieces after it. -/
def linesFrom (ending : Ending) : List (List UInt8) → LineBuffer → List (Except Fault String)
  | pieces, b =>
      match b.lines, pieces with
      | (ls, none), _ => ls
      | (ls, some rest), p :: more => ls ++ linesFrom ending more (rest.push p)
      | (ls, some rest), [] =>
          match ending with
          | .fault cause => ls ++ [.error (.io cause)]
          | .closed => ls ++ (lastLine rest.pending).toList

/-- All lines that are still to come; a fault is the last of them. -/
def LineReader.lines (r : LineReader) : List (Except Fault String) :=
  linesFrom r.source.ending r.source.pieces r.buffer

/-! ## §4. The rule for a whole text. -/

/-- The lines of a whole text, given the bytes of the current line so far. -/
def linesOfFrom (ending : Ending) : List UInt8 → List UInt8 → List (Except Fault String)
  | line, [] =>
      if maxLength < line.length then [.error (.protocol .lineTooLong)]
      else
        match ending with
        | .fault cause => [.error (.io cause)]
        | .closed => (lastLine line).toList
  | line, b :: bs =>
      if b = newline then
        if maxLength < line.length then [.error (.protocol .lineTooLong)]
        else
          match lineText line with
          | .error f => [.error f]
          | .ok text => .ok text :: linesOfFrom ending [] bs
      else linesOfFrom ending (line ++ [b]) bs

/-- The lines of a whole text. -/
def linesOf (ending : Ending) (bytes : List UInt8) : List (Except Fault String) :=
  linesOfFrom ending [] bytes

end Failover.Bytes
