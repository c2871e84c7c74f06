/-
  Failover.Proofs.Handshake.Stream
  ────────────────────────────────
  **A handshake over a stream is a handshake line by line.** Reading a
  handshake from a stream is the same as splitting the bytes of the stream
  into lines and feeding these, one by one, until one of them ends it:

      bytes ── linesOf ──▶ lines ── feedUntilDone ──▶ (negotiation, lines left)

  The pieces in which the bytes arrive make no difference, neither to the
  negotiation nor to what the reader still delivers.

  Main statements: `negotiate_eq` — the two ways agree — and
  `negotiate_stream`, which says when a handshake succeeds, and with which
  fault it fails.
-/
import Failover.Handshake.Reading
import Failover.Proofs.Bytes.Framing
import Failover.Proofs.Handshake.Transcript

namespace Failover.Handshake

open Bytes

/-! ## §1. Line by line. -/

namespace Negotiation

/-- Feed lines until one of them ends the negotiation; the lines behind it are left.  A line that
could not be read ends it with its fault. -/
def feedUntilDone (n : Negotiation) :
    List (Except Fault String) → Except Fault (Negotiation × List (Except Fault String))
  | [] => .error (.protocol .closedBeforeDone)
  | .error f :: _ => .error f
  | .ok text :: rest =>
      match n.feed text with
      | (.error f, _) => .error f
      | (.ok .done, n') => .ok (n', rest)
      | (.ok .more, n') => n'.feedUntilDone rest

/-- All of the lines are taken, and none of them ends the negotiation. -/
def Passes (n : Negotiation) (texts : List String) (n' : Negotiation) : Prop :=
  n.feedAll texts = (texts.map fun _ => .ok .more, n')

variable {n n' : Negotiation} {texts : List String} {text : String}

theorem passes_nil (n : Negotiation) : n.Passes [] n := rfl

theorem passes_cons : n.Passes (text :: texts) n' ↔
    ∃ m, n.feed text = (.ok .more, m) ∧ m.Passes texts n' := by
  unfold Passes
  rw [feedAll_cons, List.map_cons, Prod.mk.injEq, List.cons.injEq]
  constructor
  · rintro ⟨⟨hhead, htail⟩, hn⟩
    exact ⟨_, Prod.ext hhead rfl, Prod.ext htail hn⟩
  · rintro ⟨m, hm, hrest⟩
    rw [hm, hrest]
    exact ⟨⟨rfl, rfl⟩, rfl⟩

/-- Lines that pass are fed, and feeding goes on behind them. -/
theorem feedUntilDone_append (h : n.Passes texts n') (rest : List (Except Fault String)) :
    n.feedUntilDone (texts.map .ok ++ rest) = n'.feedUntilDone rest := by
  induction texts generalizing n with
  | nil =>
      cases h
      rfl
  | cons text texts ih =>
      obtain ⟨m, hm, hpass⟩ := passes_cons.1 h
      rw [List.map_cons, List.cons_append, feedUntilDone, hm]
      exact ih hpass

/-- Lines lead to the end when all before some last one pass and this one ends it. -/
theorem feedUntilDone_eq_ok_iff {lines after : List (Except Fault String)} :
    n.feedUntilDone lines = .ok (n', after) ↔
      ∃ texts last m, lines = texts.map .ok ++ .ok last :: after ∧ n.Passes texts m ∧
        m.feed last = (.ok .done, n') := by
  constructor
  · intro h
    induction lines generalizing n with
    | nil => cases h
    | cons line rest ih =>
        cases line with
        | error f => cases h
        | ok text =>
            unfold feedUntilDone at h
            split at h
            · cases h
            · next n₁ hfeed =>
              cases h
              exact ⟨[], text, n, rfl, passes_nil n, hfeed⟩
            · next n₁ hfeed =>
              obtain ⟨texts, last, m, rfl, hpass, hlast⟩ := ih h
              exact ⟨text :: texts, last, m, rfl, passes_cons.2 ⟨n₁, hfeed, hpass⟩, hlast⟩
  · rintro ⟨texts, last, m, rfl, hpass, hlast⟩
    rw [feedUntilDone_append hpass]
    simp only [feedUntilDone, hlast]

/-- Lines fail at the first of them that is refused or could not be read, or when they run out. -/
theorem feedUntilDone_eq_error_iff {lines : List (Except Fault String)} {f : Fault} :
    n.feedUntilDone lines = .error f ↔
      ∃ texts m, n.Passes texts m ∧
        ((∃ text after, lines = texts.map .ok ++ .ok text :: after ∧ (m.feed text).1 = .error f) ∨
          (∃ after, lines = texts.map .ok ++ .error f :: after) ∨
          (lines = texts.map .ok ∧ f = .protocol .closedBeforeDone)) := by
  constructor
  · intro h
    induction lines generalizing n with
    | nil =>
        cases h
        exact ⟨[], n, passes_nil n, .inr (.inr ⟨rfl, rfl⟩)⟩
    | cons line rest ih =>
        cases line with
        | error g =>
            cases h
            exact ⟨[], n, passes_nil n, .inr (.inl ⟨rest, rfl⟩)⟩
        | ok text =>
            unfold feedUntilDone at h
            split at h
            · next n₁ hfeed =>
              cases h
              exact ⟨[], n, passes_nil n, .inl ⟨text, rest, rfl, by rw [hfeed]⟩⟩
            · cases h
            · next n₁ hfeed =>
              obtain ⟨texts, m, hpass, hcases⟩ := ih h
              refine ⟨text :: texts, m, passes_cons.2 ⟨n₁, hfeed, hpass⟩, ?_⟩
              rcases hcases with ⟨text', after, rfl, ht⟩ | ⟨after, rfl⟩ | ⟨rfl, hf⟩
              · exact .inl ⟨text', after, rfl, ht⟩
              · exact .inr (.inl ⟨after, rfl⟩)
              · exact .inr (.inr ⟨rfl, hf⟩)
  · rintro ⟨texts, m, hpass, ⟨text, after, rfl, ht⟩ | ⟨after, rfl⟩ | ⟨rfl, rfl⟩⟩
    · rw [feedUntilDone_append hpass]
      have heq : m.feed text = (.error f, (m.feed text).2) := Prod.ext ht rfl
      rw [feedUntilDone, heq]
    · rw [feedUntilDone_append hpass]
      rfl
    · have heq : n.feedUntilDone (texts.map .ok ++ []) = m.feedUntilDone [] :=
        feedUntilDone_append hpass []
      rwa [List.append_nil] at heq

end Negotiation

/-! ## §2. Turn by turn. -/

/-- A handshake that goes on with what a reader has before it. -/
def negotiateOn (n : Negotiation) (r : LineReader) : Except Fault (Negotiation × LineReader) :=
  negotiateFrom r.source.ending r.source.pieces (.drain n r.buffer)

/-- What becomes of a handshake with a line, behind which the reader is left. -/
def Negotiation.heed (n : Negotiation) (text : Except Fault String) (r : LineReader) :
    Except Fault (Negotiation × LineReader) :=
  match text with
  | .error f => .error f
  | .ok text =>
      match n.feed text with
      | (.error f, _) => .error f
      | (.ok .done, n') => .ok (n', r)
      | (.ok .more, n') => negotiateOn n' r

/-- What becomes of a handshake at the end of its stream, with the bytes left over. -/
def Negotiation.heedEnd (n : Negotiation) (ending : Ending) (bytes : List UInt8) :
    Except Fault (Negotiation × LineReader) :=
  match ending with
  | .fault cause => .error (.io cause)
  | .closed =>
      (n.feedUntilDone (lastLine bytes).toList).map fun p => (p.1, .start ⟨[], .closed⟩)

section Turns

variable {n : Negotiation} {ending : Ending} {pieces : List (List UInt8)} {b b' : LineBuffer}
  {bytes : List UInt8}

theorem drain_of_line (h : b.take = .line bytes b') :
    Progress.drain n b =
      match lineText bytes with
      | .error f => .failed f
      | .ok text =>
          match n.feed text with
          | (.error f, _) => .failed f
          | (.ok .done, n') => .done n' b'
          | (.ok .more, n') => .drain n' b' := by
  rw [Progress.drain.eq_def]
  split
  · simp_all
  · simp_all
  · next bytes rest heq =>
    cases h.symm.trans heq
    rfl

theorem drain_of_tooLong (h : b.take = .tooLong) :
    Progress.drain n b = .failed (.protocol .lineTooLong) := by
  rw [Progress.drain.eq_def]
  split <;> simp_all

theorem drain_of_unfinished (h : b.take = .unfinished b') : Progress.drain n b = .reading n b' := by
  rw [Progress.drain.eq_def]
  split <;> simp_all

theorem negotiateFrom_failed (f : Fault) :
    negotiateFrom ending pieces (.failed f) = .error f := by
  cases pieces <;> rfl

theorem negotiateFrom_done :
    negotiateFrom ending pieces (.done n b) = .ok (n, ⟨b, ⟨pieces, ending⟩⟩) := by
  cases pieces <;> rfl

theorem negotiateFrom_of_line (h : b.take = .line bytes b') :
    negotiateFrom ending pieces (.drain n b) =
      n.heed (lineText bytes) ⟨b', ⟨pieces, ending⟩⟩ := by
  rw [drain_of_line h]
  unfold Negotiation.heed
  cases lineText bytes with
  | error f => exact negotiateFrom_failed f
  | ok text =>
      dsimp only
      split
      · exact negotiateFrom_failed _
      · exact negotiateFrom_done
      · rfl

theorem negotiateFrom_of_tooLong (h : b.take = .tooLong) :
    negotiateFrom ending pieces (.drain n b) = .error (.protocol .lineTooLong) := by
  rw [drain_of_tooLong h, negotiateFrom_failed]

theorem negotiateFrom_cons_of_unfinished {piece : List UInt8} (h : b.take = .unfinished b') :
    negotiateFrom ending (piece :: pieces) (.drain n b) =
      negotiateFrom ending pieces (.drain n (b'.push piece)) := by
  rw [drain_of_unfinished h, negotiateFrom]

theorem negotiateFrom_nil_of_unfinished (h : b.take = .unfinished b') :
    negotiateFrom ending [] (.drain n b) = n.heedEnd ending b'.pending := by
  rw [drain_of_unfinished h, negotiateFrom]
  unfold Negotiation.heedEnd Progress.close
  cases ending with
  | fault cause => rfl
  | closed =>
      dsimp only
      cases lastLine b'.pending with
      | none => rfl
      | some text =>
          cases text with
          | error f => rfl
          | ok text =>
              dsimp only [Option.toList_some]
              unfold Negotiation.feedUntilDone
              obtain ⟨r, n'⟩ := n.feed text
              rcases r with f | _ | _ <;> rfl

/-- A handshake with a buffer and the pieces after it, turn by turn. -/
theorem negotiateFrom_drain (ending : Ending) (pieces : List (List UInt8)) (n : Negotiation)
    (b : LineBuffer) :
    negotiateFrom ending pieces (.drain n b) =
      match LineReader.nextFrom ending pieces b with
      | .line bytes rest => n.heed (lineText bytes) rest
      | .tooLong => .error (.protocol .lineTooLong)
      | .last bytes => n.heedEnd ending bytes := by
  induction pieces generalizing b with
  | nil =>
      cases h : b.take with
      | line bytes b' => rw [negotiateFrom_of_line h, LineReader.nextFrom_of_line h]
      | tooLong => rw [negotiateFrom_of_tooLong h, LineReader.nextFrom_of_tooLong h]
      | unfinished b' =>
          rw [negotiateFrom_nil_of_unfinished h, LineReader.nextFrom_nil_of_unfinished h]
  | cons piece more ih =>
      cases h : b.take with
      | line bytes b' => rw [negotiateFrom_of_line h, LineReader.nextFrom_of_line h]
      | tooLong => rw [negotiateFrom_of_tooLong h, LineReader.nextFrom_of_tooLong h]
      | unfinished b' =>
          rw [negotiateFrom_cons_of_unfinished h, LineReader.nextFrom_cons_of_unfinished h, ih]

end Turns

theorem negotiateOn_eq (n : Negotiation) (r : LineReader) :
    negotiateOn n r =
      match r.next with
      | .line bytes rest => n.heed (lineText bytes) rest
      | .tooLong => .error (.protocol .lineTooLong)
      | .last bytes => n.heedEnd r.source.ending bytes :=
  negotiateFrom_drain r.source.ending r.source.pieces n r.buffer

/-! ## §3. All streams. -/

/-- A negotiation with the lines that are left for its reader. -/
def withLines (p : Negotiation × LineReader) : Negotiation × List (Except Fault String) :=
  (p.1, p.2.lines)

theorem map_withLines_eq_ok_iff {result : Except Fault (Negotiation × LineReader)}
    {n : Negotiation} {after : List (Except Fault String)} :
    result.map withLines = .ok (n, after) ↔ ∃ r, result = .ok (n, r) ∧ r.lines = after := by
  constructor
  · intro h
    cases result with
    | error f => cases h
    | ok p =>
        cases h
        exact ⟨p.2, rfl, rfl⟩
  · rintro ⟨r, rfl, rfl⟩
    rfl

/-- A line is fed, and the lines left are those of the reader behind it. -/
theorem map_heed {n : Negotiation} {r : LineReader} {rest : List (Except Fault String)}
    (hmore : ∀ n', (negotiateOn n' r).map withLines = n'.feedUntilDone rest)
    (hlines : r.lines = rest) (text : String) :
    (n.heed (.ok text) r).map withLines = n.feedUntilDone (.ok text :: rest) := by
  unfold Negotiation.heed Negotiation.feedUntilDone
  dsimp only
  obtain ⟨result, n'⟩ := n.feed text
  rcases result with f | _ | _
  · rfl
  · exact hmore n'
  · rw [← hlines]
    rfl

/-- At the end of a stream the bytes left over are one line at most, and none is left. -/
theorem map_heedEnd (n : Negotiation) (ending : Ending) (bytes : List UInt8) :
    (n.heedEnd ending bytes).map withLines =
      n.feedUntilDone
        (match ending with
        | .fault cause => [.error (.io cause)]
        | .closed => (lastLine bytes).toList) := by
  unfold Negotiation.heedEnd
  cases ending with
  | fault cause => rfl
  | closed =>
      rcases lastLine bytes with _ | f | text
      · rfl
      · rfl
      · -- A line that ends the negotiation here leaves a reader at the end of its stream.
        have hlines : (LineReader.start ⟨[], .closed⟩).lines = [] :=
          (LineReader.lines_eq_linesOf _ (LineReader.sound_start _)).trans rfl
        dsimp only [Option.toList_some]
        unfold Negotiation.feedUntilDone
        obtain ⟨result, n'⟩ := n.feed text
        rcases result with f | _ | _
        · rfl
        · rfl
        · simp only [Except.map, withLines, hlines]

/-- **Over a stream or line by line.** A handshake that goes on with a reader feeds the lines of
the bytes before the reader, and leaves it right behind the line that ends it. -/
theorem negotiateOn_eq_feedUntilDone (n : Negotiation) (r : LineReader) (h : r.Sound) :
    (negotiateOn n r).map withLines = n.feedUntilDone (linesOf r.source.ending r.bytes) := by
  -- The induction follows the lines and not the pieces: `next_of_line` has put a line together.
  generalize hb : r.bytes = bytes
  induction framed bytes generalizing n r with
  | line line rest hn hle _ ih =>
      obtain ⟨r', hr', hs, hrest, hend⟩ := r.next_of_line h hb hn hle
      rw [negotiateOn_eq, hr', linesOf_line hn hle]
      dsimp only
      cases lineText line with
      | error f => rfl
      | ok text =>
          rw [← hend]
          refine map_heed (fun n' => ih n' r' hs hrest) ?_ text
          rw [r'.lines_eq_linesOf hs, hrest]
  | tooLong line more hn hlt =>
      rw [negotiateOn_eq, LineReader.next_of_tooLong hb hn hlt, linesOf_tooLong hn hlt]
      rfl
  | last bytes hn hle =>
      subst hb
      rw [negotiateOn_eq, LineReader.next_of_last hn hle, linesOf_last hn hle]
      exact map_heedEnd n r.source.ending r.bytes

/-- The whole handshake feeds the lines of the whole stream to a fresh negotiation. -/
theorem negotiate_eq (pieces : List (List UInt8)) (ending : Ending) :
    (negotiate (.start ⟨pieces, ending⟩)).map withLines =
      Negotiation.empty.feedUntilDone (linesOf ending pieces.flatten) :=
  negotiateOn_eq_feedUntilDone .empty _ (LineReader.sound_start ⟨pieces, ending⟩)

/-- **A handshake over a stream.** Split the bytes of a stream into lines and feed them to a fresh
negotiation.  The handshake succeeds exactly if some line ends it and all before that pass: then it
knows what the lines told, and its reader delivers the lines behind.  Else it fails, with the fault
of the first line that is refused or could not be read, or because the lines run out.  The pieces
in which the bytes arrive make no difference. -/
theorem negotiate_stream (pieces : List (List UInt8)) (ending : Ending) :
    let lines := linesOf ending pieces.flatten
    let result := negotiate (.start ⟨pieces, ending⟩)
    (∀ n after, (∃ r, result = .ok (n, r) ∧ r.lines = after) ↔
        ∃ texts last m, lines = texts.map .ok ++ .ok last :: after ∧
          Negotiation.empty.Passes texts m ∧ m.feed last = (.ok .done, n)) ∧
      (∀ f, result = .error f ↔
        ∃ texts m, Negotiation.empty.Passes texts m ∧
          ((∃ text after, lines = texts.map .ok ++ .ok text :: after ∧
              (m.feed text).1 = .error f) ∨
            (∃ after, lines = texts.map .ok ++ .error f :: after) ∨
            (lines = texts.map .ok ∧ f = .protocol .closedBeforeDone))) ∧
      ∀ pieces', pieces'.flatten = pieces.flatten →
        (negotiate (.start ⟨pieces', ending⟩)).map withLines = result.map withLines := by
  intro lines result
  have heq : result.map withLines = Negotiation.empty.feedUntilDone lines :=
    negotiate_eq pieces ending
  refine ⟨?_, ?_, ?_⟩
  · intro n after
    rw [← Negotiation.feedUntilDone_eq_ok_iff, ← heq, map_withLines_eq_ok_iff]
  · intro f
    rw [← Negotiation.feedUntilDone_eq_error_iff, ← heq]
    cases result <;> simp [Except.map]
  · intro pieces' hflatten
    rw [heq, negotiate_eq, hflatten]

end Failover.Handshake
