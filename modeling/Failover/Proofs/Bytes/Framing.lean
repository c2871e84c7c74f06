/-
  Failover.Proofs.Bytes.Framing
  ─────────────────────────────
  **Lines do not depend on how their bytes arrive.** A reader of lines keeps
  the beginning of a line from one read to the next, with the number of
  its bytes that were looked at already.  A line, the carriage return at
  its end and its limit may lie across any two reads.

  Bytes are lines that are short enough, up to one that is too long or
  never ends (`Framed`).  `LineReader.next` is one turn of a reader, and it
  finds the next of them whatever the pieces (`next_of_line`,
  `next_of_tooLong`, `next_of_last`).

  Main statement: `lines_eq_linesOf` — the lines that a reader delivers are
  those of the bytes that it has before it.
-/
import Failover.Bytes.Lines
import Failover.Proofs.Text.Ascii

namespace Failover.Bytes

/-! ## §1. Bytes as lines. -/

/-- Bytes as lines that are short enough, up to one that is too long or never ends. -/
inductive Framed : List UInt8 → Prop where
  | line (line rest : List UInt8) (hn : newline ∉ line) (hle : line.length ≤ maxLength)
      (h : Framed rest) : Framed (line ++ newline :: rest)
  | tooLong (line more : List UInt8) (hn : newline ∉ line) (hlt : maxLength < line.length) :
      Framed (line ++ more)
  | last (bytes : List UInt8) (hn : newline ∉ bytes) (hle : bytes.length ≤ maxLength) :
      Framed bytes

/-- All bytes are lines. -/
theorem framed (bytes : List UInt8) : Framed bytes := by
  -- A newline ends a line, and what is behind the first one is shorter.
  by_cases hmem : newline ∈ bytes
  · obtain ⟨line, rest, hb, hn⟩ := List.eq_append_cons_of_mem hmem
    have hshorter : rest.length < bytes.length := by
      rw [hb, List.length_append, List.length_cons]
      omega
    by_cases hle : line.length ≤ maxLength
    · exact hb ▸ .line line rest hn hle (framed rest)
    · exact hb ▸ .tooLong line (newline :: rest) hn (Nat.lt_of_not_le hle)
  · by_cases hle : bytes.length ≤ maxLength
    · exact .last bytes hmem hle
    · simpa using Framed.tooLong bytes [] hmem (Nat.lt_of_not_le hle)
  termination_by bytes.length

/-! ## §2. The rule for each of them. -/

section Rule

variable {ending : Ending} {line rest : List UInt8}

theorem linesOfFrom_append {bytes : List UInt8} (hn : newline ∉ bytes) :
    linesOfFrom ending line (bytes ++ rest) = linesOfFrom ending (line ++ bytes) rest := by
  induction bytes generalizing line with
  | nil => simp
  | cons b bs ih =>
      rw [List.mem_cons, not_or] at hn
      rw [List.cons_append, linesOfFrom, if_neg (Ne.symm hn.1), ih hn.2]
      simp

theorem linesOf_line (hn : newline ∉ line) (hle : line.length ≤ maxLength) :
    linesOf ending (line ++ newline :: rest) =
      match lineText line with
      | .error f => [.error f]
      | .ok text => .ok text :: linesOf ending rest := by
  rw [linesOf, linesOfFrom_append hn, List.nil_append, linesOfFrom, if_pos rfl,
    if_neg (Nat.not_lt.2 hle)]
  rfl

theorem linesOfFrom_tooLong (hlt : maxLength < line.length) (bytes : List UInt8) :
    linesOfFrom ending line bytes = [.error (.protocol .lineTooLong)] := by
  induction bytes generalizing line with
  | nil => cases ending <;> rw [linesOfFrom, if_pos hlt]
  | cons b bs ih =>
      rw [linesOfFrom, if_pos hlt]
      split
      · rfl
      · exact ih (by rw [List.length_append]; omega)

theorem linesOf_tooLong (hn : newline ∉ line) (hlt : maxLength < line.length) :
    linesOf ending (line ++ rest) = [.error (.protocol .lineTooLong)] := by
  rw [linesOf, linesOfFrom_append hn, List.nil_append, linesOfFrom_tooLong hlt]

theorem linesOf_last (hn : newline ∉ line) (hle : line.length ≤ maxLength) :
    linesOf ending line =
      match ending with
      | .fault cause => [.error (.io cause)]
      | .closed => (lastLine line).toList := by
  have happ : linesOfFrom ending [] (line ++ []) = linesOfFrom ending ([] ++ line) [] :=
    linesOfFrom_append hn
  rw [List.append_nil, List.nil_append] at happ
  rw [linesOf, happ]
  cases ending <;> rw [linesOfFrom, if_neg (Nat.not_lt.2 hle)]

end Rule

/-! ## §3. Buffers. -/

namespace LineBuffer

/-- What was looked at is there, and holds no newline. -/
structure Sound (b : LineBuffer) : Prop where
  le : b.searched ≤ b.pending.length
  clear : newline ∉ b.pending.take b.searched

variable {b : LineBuffer} {line rest : List UInt8}

theorem Sound.of_searched_zero (pending : List UInt8) : Sound ⟨pending, 0⟩ where
  le := Nat.zero_le _
  clear := by simp

theorem Sound.push (h : b.Sound) (bytes : List UInt8) : (b.push bytes).Sound where
  le := by
    have hle := h.le
    simp only [LineBuffer.push, List.length_append]
    omega
  clear := by
    have hle := h.le
    simpa only [LineBuffer.push, List.take_append_of_le_length hle] using h.clear

/-- Of the bytes before the first newline some were looked at, and none behind it. -/
theorem Sound.searched_le (h : b.Sound) (hp : b.pending = line ++ newline :: rest) :
    b.searched ≤ line.length := by
  -- Else the newline would be among the bytes that were looked at.
  refine Nat.le_of_not_lt fun hlt => h.clear ?_
  rw [hp, List.take_append, List.mem_append]
  obtain ⟨k, hk⟩ : ∃ k, b.searched - line.length = k + 1 := ⟨b.searched - line.length - 1, by omega⟩
  rw [hk, List.take_succ_cons]
  exact .inr (List.mem_cons_self ..)

theorem findIdx?_eq_none {bytes : List UInt8} (hn : newline ∉ bytes) :
    bytes.findIdx? (· == newline) = none := by
  rw [List.findIdx?_eq_none_iff]
  intro x hx
  rw [beq_eq_false_iff_ne]
  rintro rfl
  exact hn hx

/-- A buffer that begins with a line gives this line. -/
theorem Sound.take_of_line (h : b.Sound) (hp : b.pending = line ++ newline :: rest)
    (hn : newline ∉ line) (hle : line.length ≤ maxLength) : b.take = .line line ⟨rest, 0⟩ := by
  have hs := h.searched_le hp
  -- The bytes that are searched: what is left of the line, and the newline within the limit.
  have hwindow : (b.pending.take (maxLength + 1)).drop b.searched =
      line.drop b.searched ++ newline :: rest.take (maxLength - line.length) := by
    rw [hp, List.take_append, List.take_of_length_le (by omega),
      show maxLength + 1 - line.length = maxLength - line.length + 1 by omega, List.take_succ_cons,
      List.drop_append_of_le_length hs]
  have hfind : ((b.pending.take (maxLength + 1)).drop b.searched).findIdx? (· == newline) =
      some (line.length - b.searched) := by
    rw [hwindow, List.findIdx?_append,
      findIdx?_eq_none fun hmem => hn (List.mem_of_mem_drop hmem)]
    simp [List.findIdx?_cons]
  unfold LineBuffer.take
  simp only [hfind]
  rw [show b.searched + (line.length - b.searched) = line.length by omega, hp]
  simp

/-- A buffer without a newline in sight gives none. -/
theorem take_of_not_mem (hn : newline ∉ b.pending.take (maxLength + 1)) :
    b.take = if maxLength < b.pending.length then .tooLong
      else .unfinished ⟨b.pending, (b.pending.take (maxLength + 1)).length⟩ := by
  unfold LineBuffer.take
  simp only [findIdx?_eq_none fun hmem => hn (List.mem_of_mem_drop hmem)]

/-- A buffer that begins with more than a line tells so. -/
theorem take_of_tooLong (hp : b.pending = line ++ rest) (hn : newline ∉ line)
    (hlt : maxLength < line.length) : b.take = .tooLong := by
  rw [take_of_not_mem, if_pos (by rw [hp, List.length_append]; omega)]
  rw [hp, List.take_append_of_le_length (by omega)]
  exact fun hmem => hn (List.mem_of_mem_take hmem)

/-- A buffer with the beginning of a line keeps it, and need not look at it again. -/
theorem take_of_last (hn : newline ∉ b.pending) (hle : b.pending.length ≤ maxLength) :
    b.take = .unfinished ⟨b.pending, b.pending.length⟩ := by
  have htake : b.pending.take (maxLength + 1) = b.pending := List.take_of_length_le (by omega)
  rw [take_of_not_mem (by rwa [htake]), if_neg (Nat.not_lt.2 hle), htake]

/-- What was looked at in vain is sound. -/
theorem sound_of_not_mem {pending : List UInt8} (hn : newline ∉ pending) :
    Sound ⟨pending, pending.length⟩ where
  le := Nat.le_refl _
  clear := by rwa [List.take_length]

end LineBuffer

/-! ## §4. One turn of a reader. -/

/-- What a reader comes to next. -/
inductive Turn where
  /-- A whole line, and the reader behind it. -/
  | line (bytes : List UInt8) (rest : LineReader)
  /-- More bytes than a line may have. -/
  | tooLong
  /-- The end, with bytes before it that are not followed by a newline. -/
  | last (bytes : List UInt8)

namespace LineReader

/-- The bytes that are still to come, those in the buffer included. -/
def bytes (r : LineReader) : List UInt8 := r.buffer.pending ++ r.source.bytes

/-- Read pieces until there is a line, or until they run out. -/
def nextFrom (ending : Ending) : List (List UInt8) → LineBuffer → Turn
  | [], b =>
      match b.take with
      | .line bytes rest => .line bytes ⟨rest, ⟨[], ending⟩⟩
      | .tooLong => .tooLong
      | .unfinished rest => .last rest.pending
  | piece :: more, b =>
      match b.take with
      | .line bytes rest => .line bytes ⟨rest, ⟨piece :: more, ending⟩⟩
      | .tooLong => .tooLong
      | .unfinished rest => nextFrom ending more (rest.push piece)

/-- One turn of a reader. -/
def next (r : LineReader) : Turn := nextFrom r.source.ending r.source.pieces r.buffer

variable {ending : Ending} {pieces : List (List UInt8)} {b : LineBuffer} {line rest : List UInt8}

theorem nextFrom_of_line {bs : List UInt8} {b' : LineBuffer} (h : b.take = .line bs b') :
    nextFrom ending pieces b = .line bs ⟨b', ⟨pieces, ending⟩⟩ := by
  cases pieces <;> rw [nextFrom, h]

theorem nextFrom_of_tooLong (h : b.take = .tooLong) : nextFrom ending pieces b = .tooLong := by
  cases pieces <;> rw [nextFrom, h]

theorem nextFrom_cons_of_unfinished {piece : List UInt8} {b' : LineBuffer}
    (h : b.take = .unfinished b') :
    nextFrom ending (piece :: pieces) b = nextFrom ending pieces (b'.push piece) := by
  rw [nextFrom, h]

theorem nextFrom_nil_of_unfinished {b' : LineBuffer} (h : b.take = .unfinished b') :
    nextFrom ending [] b = .last b'.pending := by
  rw [nextFrom, h]

/-- A buffer whose bytes are the beginning of a short line waits for the next piece. -/
theorem nextFrom_cons_of_short {piece : List UInt8} (hn : newline ∉ b.pending)
    (hle : b.pending.length ≤ maxLength) :
    ∃ b' : LineBuffer, nextFrom ending (piece :: pieces) b = nextFrom ending pieces b' ∧
      b'.Sound ∧ b'.pending = b.pending ++ piece :=
  ⟨_, nextFrom_cons_of_unfinished (LineBuffer.take_of_last hn hle),
    (LineBuffer.sound_of_not_mem hn).push piece, rfl⟩

/-- **A line is found whatever the pieces**, and the reader is left right behind its newline. -/
theorem nextFrom_line (h : b.Sound) (hb : b.pending ++ pieces.flatten = line ++ newline :: rest)
    (hn : newline ∉ line) (hle : line.length ≤ maxLength) :
    ∃ b' pieces', nextFrom ending pieces b = .line line ⟨b', ⟨pieces', ending⟩⟩ ∧ b'.Sound ∧
      b'.pending ++ pieces'.flatten = rest := by
  induction pieces generalizing b with
  | nil =>
      rw [List.flatten_nil, List.append_nil] at hb
      exact ⟨_, _, nextFrom_of_line (h.take_of_line hb hn hle), .of_searched_zero rest,
        List.append_nil rest⟩
  | cons piece more ih =>
      have hwait (hnb : newline ∉ b.pending) (hlb : b.pending.length ≤ maxLength) :
          ∃ b' pieces', nextFrom ending (piece :: more) b = .line line ⟨b', ⟨pieces', ending⟩⟩ ∧
            b'.Sound ∧ b'.pending ++ pieces'.flatten = rest := by
        obtain ⟨b₁, heq, hb₁, hp₁⟩ := nextFrom_cons_of_short hnb hlb
        rw [heq]
        exact ih hb₁ (by rw [hp₁, List.append_assoc]; exact hb)
      -- Either all of the buffer belongs to the line, or the newline is in the buffer.
      rcases List.append_eq_append_iff.1 hb with ⟨mid, hline, -⟩ | ⟨mid, hp, hmid⟩
      · subst hline
        rw [List.length_append] at hle
        exact hwait (fun hmem => hn (List.mem_append_left mid hmem)) (by omega)
      · cases mid with
        | nil =>
            rw [List.append_nil] at hp
            exact hwait (hp ▸ hn) (hp ▸ hle)
        | cons c tail =>
            obtain ⟨rfl, hrest⟩ := List.cons.inj hmid
            exact ⟨_, _, nextFrom_of_line (h.take_of_line hp hn hle), .of_searched_zero tail,
              hrest.symm⟩

/-- Too long a line is found whatever the pieces. -/
theorem nextFrom_tooLong (hb : b.pending ++ pieces.flatten = line ++ rest) (hn : newline ∉ line)
    (hlt : maxLength < line.length) : nextFrom ending pieces b = .tooLong := by
  induction pieces generalizing b with
  | nil =>
      rw [List.flatten_nil, List.append_nil] at hb
      exact nextFrom_of_tooLong (LineBuffer.take_of_tooLong hb hn hlt)
  | cons piece more ih =>
      rcases List.append_eq_append_iff.1 hb with ⟨mid, hline, -⟩ | ⟨mid, hp, -⟩
      · -- All of the buffer belongs to the line, which may be too long already.
        have hnb : newline ∉ b.pending := fun hmem => hn (hline ▸ List.mem_append_left mid hmem)
        by_cases hlb : b.pending.length ≤ maxLength
        · obtain ⟨b₁, heq, -, hp₁⟩ := nextFrom_cons_of_short hnb hlb
          rw [heq]
          exact ih (by rw [hp₁, List.append_assoc]; exact hb)
        · exact nextFrom_of_tooLong (LineBuffer.take_of_tooLong (List.append_nil _).symm hnb
            (Nat.lt_of_not_le hlb))
      · exact nextFrom_of_tooLong (LineBuffer.take_of_tooLong hp hn hlt)

/-- Bytes that are no whole line are left over whatever the pieces. -/
theorem nextFrom_last (hn : newline ∉ b.pending ++ pieces.flatten)
    (hle : (b.pending ++ pieces.flatten).length ≤ maxLength) :
    nextFrom ending pieces b = .last (b.pending ++ pieces.flatten) := by
  induction pieces generalizing b with
  | nil =>
      rw [List.flatten_nil, List.append_nil] at hn hle ⊢
      rw [nextFrom_nil_of_unfinished (LineBuffer.take_of_last hn hle)]
  | cons piece more ih =>
      rw [List.flatten_cons, ← List.append_assoc] at hn hle ⊢
      have hnb : newline ∉ b.pending := by
        intro hmem
        exact hn (List.mem_append_left _ (List.mem_append_left _ hmem))
      obtain ⟨b₁, heq, -, hp₁⟩ := nextFrom_cons_of_short hnb (by
        simp only [List.length_append] at hle
        omega)
      rw [heq, ih (by rwa [hp₁]) (by rwa [hp₁]), hp₁]

/-! ## §5. Turns of a sound reader. -/

/-- The buffer of the reader is sound. -/
def Sound (r : LineReader) : Prop := r.buffer.Sound

theorem sound_start (source : Source) : (start source).Sound := .of_searched_zero []

@[simp] theorem bytes_start (source : Source) : (start source).bytes = source.bytes := rfl

variable {r : LineReader}

/-- **One turn.** A reader delivers the line that its bytes begin with, and is left with the bytes
behind it and the same ending. -/
theorem next_of_line (h : r.Sound) (hb : r.bytes = line ++ newline :: rest) (hn : newline ∉ line)
    (hle : line.length ≤ maxLength) :
    ∃ r', r.next = .line line r' ∧ r'.Sound ∧ r'.bytes = rest ∧
      r'.source.ending = r.source.ending := by
  obtain ⟨b', pieces', heq, hb', hrest⟩ := nextFrom_line h hb hn hle
  exact ⟨_, heq, hb', hrest, rfl⟩

theorem next_of_tooLong (hb : r.bytes = line ++ rest) (hn : newline ∉ line)
    (hlt : maxLength < line.length) : r.next = .tooLong := nextFrom_tooLong hb hn hlt

theorem next_of_last (hn : newline ∉ r.bytes) (hle : r.bytes.length ≤ maxLength) :
    r.next = .last r.bytes := nextFrom_last hn hle

end LineReader

/-! ## §6. All lines of a reader. -/

section Lines

variable {ending : Ending} {pieces : List (List UInt8)} {b b' : LineBuffer} {bs : List UInt8}

theorem LineBuffer.lines_of_line (h : b.take = .line bs b') :
    b.lines =
      match lineText bs with
      | .error f => ([.error f], none)
      | .ok text => (.ok text :: b'.lines.1, b'.lines.2) := by
  rw [LineBuffer.lines.eq_def]
  split
  · simp_all
  · simp_all
  · next bytes rest heq =>
    cases h.symm.trans heq
    cases lineText bs <;> rfl

theorem LineBuffer.lines_of_tooLong (h : b.take = .tooLong) :
    b.lines = ([.error (.protocol .lineTooLong)], none) := by
  rw [LineBuffer.lines.eq_def]
  split <;> simp_all

theorem LineBuffer.lines_of_unfinished (h : b.take = .unfinished b') : b.lines = ([], some b') := by
  rw [LineBuffer.lines.eq_def]
  split <;> simp_all

theorem linesFrom_of_line (h : b.take = .line bs b') :
    linesFrom ending pieces b =
      match lineText bs with
      | .error f => [.error f]
      | .ok text => .ok text :: linesFrom ending pieces b' := by
  unfold linesFrom
  rw [LineBuffer.lines_of_line h]
  cases lineText bs with
  | error f => rfl
  | ok text =>
      obtain ⟨ls, left⟩ := b'.lines
      cases left with
      | none => rfl
      | some rest =>
          cases pieces with
          | nil => cases ending <;> rfl
          | cons piece more => rfl

theorem linesFrom_of_tooLong (h : b.take = .tooLong) :
    linesFrom ending pieces b = [.error (.protocol .lineTooLong)] := by
  rw [linesFrom.eq_def]
  simp only [LineBuffer.lines_of_tooLong h]

theorem linesFrom_cons_of_unfinished {piece : List UInt8} (h : b.take = .unfinished b') :
    linesFrom ending (piece :: pieces) b = linesFrom ending pieces (b'.push piece) := by
  rw [linesFrom.eq_def]
  simp only [LineBuffer.lines_of_unfinished h, List.nil_append]

theorem linesFrom_nil_of_unfinished (h : b.take = .unfinished b') :
    linesFrom ending [] b =
      match ending with
      | .fault cause => [.error (.io cause)]
      | .closed => (lastLine b'.pending).toList := by
  rw [linesFrom.eq_def]
  cases ending <;> simp only [LineBuffer.lines_of_unfinished h, List.nil_append]

end Lines

namespace LineReader

/-- The lines of a buffer and the pieces after it, turn by turn. -/
theorem linesFrom_eq (ending : Ending) (pieces : List (List UInt8)) (b : LineBuffer) :
    linesFrom ending pieces b =
      match nextFrom ending pieces b with
      | .line bytes rest =>
          match lineText bytes with
          | .error f => [.error f]
          | .ok text => .ok text :: rest.lines
      | .tooLong => [.error (.protocol .lineTooLong)]
      | .last bytes =>
          match ending with
          | .fault cause => [.error (.io cause)]
          | .closed => (lastLine bytes).toList := by
  induction pieces generalizing b with
  | nil =>
      cases h : b.take with
      | line bs b' => rw [linesFrom_of_line h, nextFrom_of_line h]; rfl
      | tooLong => rw [linesFrom_of_tooLong h, nextFrom_of_tooLong h]
      | unfinished b' => rw [linesFrom_nil_of_unfinished h, nextFrom_nil_of_unfinished h]
  | cons piece more ih =>
      cases h : b.take with
      | line bs b' => rw [linesFrom_of_line h, nextFrom_of_line h]; rfl
      | tooLong => rw [linesFrom_of_tooLong h, nextFrom_of_tooLong h]
      | unfinished b' =>
          rw [linesFrom_cons_of_unfinished h, nextFrom_cons_of_unfinished h, ih]

/-- The lines of a reader, turn by turn. -/
theorem lines_eq (r : LineReader) :
    r.lines =
      match r.next with
      | .line bytes rest =>
          match lineText bytes with
          | .error f => [.error f]
          | .ok text => .ok text :: rest.lines
      | .tooLong => [.error (.protocol .lineTooLong)]
      | .last bytes =>
          match r.source.ending with
          | .fault cause => [.error (.io cause)]
          | .closed => (lastLine bytes).toList :=
  linesFrom_eq r.source.ending r.source.pieces r.buffer

/-- **The lines of a reader** are those of the bytes before it, however these arrive. -/
theorem lines_eq_linesOf (r : LineReader) (h : r.Sound) :
    r.lines = linesOf r.source.ending r.bytes := by
  -- By induction on the lines of the bytes; the pieces matter within one turn only.
  generalize hb : r.bytes = bytes
  induction framed bytes generalizing r with
  | line line rest hn hle _ ih =>
      obtain ⟨r', hr', hs, hrest, hend⟩ := next_of_line h hb hn hle
      rw [lines_eq, hr', linesOf_line hn hle]
      dsimp only
      rw [ih r' hs hrest, hend]
  | tooLong line more hn hlt => rw [lines_eq, next_of_tooLong hb hn hlt, linesOf_tooLong hn hlt]
  | last bytes hn hle =>
      subst hb
      rw [lines_eq, next_of_last hn hle, linesOf_last hn hle]

end LineReader

/-! ## §7. Texts as lines. -/

open Text.Utf8

/-- The bytes of a text hold a newline only where the text does. -/
theorem newline_not_mem_bytesOf {s : String} (h : '\n' ∉ s.toList) : newline ∉ bytesOf s := by
  intro hmem
  have heq : newline = UInt8.ofNat '\n'.toNat := rfl
  rw [heq] at hmem
  exact h (mem_of_mem_bytesOf (by decide) hmem)

/-- The bytes of a text are the line of this text, unless it ends with a carriage return. -/
theorem lineText_bytesOf {s : String} (h : s.toList.getLast? ≠ some '\r') :
    lineText (bytesOf s) = .ok s := by
  have hlast : (bytesOf s).getLast? ≠ some carriageReturn := by
    intro hlast
    have heq : carriageReturn = UInt8.ofNat '\r'.toNat := rfl
    rw [heq] at hlast
    exact h (getLast?_of_getLast?_bytesOf (by decide) hlast)
  rw [lineText, withoutReturn, if_neg hlast, textOf_bytesOf]

end Failover.Bytes
