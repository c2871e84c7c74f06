/-
  Failover.Proofs.Json.Reading
  ────────────────────────────
  **What a reader takes off a text.**  `Yields x input a rest` says that
  the reader `x`, set before the bytes `input`, reads the value `a` and
  stops before `rest`, wherever in a document that is.  Places matter for
  faults only, so they drop out here, and readers put one behind the other
  take what they take one behind the other (`Yields.bind`).

  With this a string is read character by character.  A character is
  written in one of three ways:

      backslash, letter          the quotation mark, the backslash, five controls
      backslash, u, four digits  the other control characters
      its own bytes              everything else

  and each of them puts the bytes of that character before those that are
  still to be read (`readBytesFrom_escaped`).

  Main statement: `yields_readText`, a string is read back.
-/
import Failover.Json.Text
import Failover.Proofs.Text.Ascii

namespace Failover.Json

open Reader

/-! ## §1. Readers. -/

/-- Set before `input`, the reader reads `a` and stops before `rest`, at whatever place. -/
def Yields {α : Type} (x : Reader α) (input : List UInt8) (a : α) (rest : List UInt8) : Prop :=
  ∀ p, ∃ p', x ⟨input, p⟩ = .ok a ⟨rest, p'⟩

section
variable {α β : Type} {x : Reader α} {f : α → Reader β} {input between rest : List UInt8}
  {a : α} {b : β}

theorem Yields.pure (a : α) (rest : List UInt8) : Yields (Pure.pure a) rest a rest :=
  fun p => ⟨p, rfl⟩

/-- What two readers take stands one behind the other. -/
theorem Yields.bind (hx : Yields x input a between) (hf : Yields (f a) between b rest) :
    Yields (x >>= f) input b rest := by
  intro p
  obtain ⟨q, hq⟩ := hx p
  obtain ⟨p', hp'⟩ := hf q
  refine ⟨p', ?_⟩
  change EStateM.bind x f ⟨input, p⟩ = _
  unfold EStateM.bind
  rw [hq]
  exact hp'

theorem Yields.placed (hx : Yields x input a rest) : Yields (placed x) input a rest := by
  intro p
  obtain ⟨p', hp'⟩ := hx p
  refine ⟨p', ?_⟩
  unfold Reader.placed
  rw [hp']

theorem Yields.closing {finish : Reader Unit} (hx : Yields x input a between)
    (hfinish : Yields finish between () rest) : Yields (closing x finish) input a rest := by
  intro p
  obtain ⟨q, hq⟩ := hx p
  obtain ⟨p', hp'⟩ := hfinish q
  refine ⟨p', ?_⟩
  unfold Reader.closing
  simp only [hq, hp']

theorem yields_left (rest : List UInt8) : Yields left rest rest.length rest :=
  fun p => ⟨p, rfl⟩

theorem yields_skip (byte : UInt8) (rest : List UInt8) : Yields skip (byte :: rest) () rest :=
  fun p => ⟨p.after byte, rfl⟩

/-- Before a byte that is not blank there is nothing to pass over. -/
theorem yields_afterBlanks {byte : UInt8} (h : isBlank byte = false) (rest : List UInt8) :
    Yields afterBlanks (byte :: rest) (some byte) (byte :: rest) := by
  intro p
  refine ⟨p, ?_⟩
  have hstay : Cursor.dropWhile isBlank ⟨byte :: rest, p⟩ = ⟨byte :: rest, p⟩ := by
    simp only [Cursor.dropWhile, Cursor.dropWhile.go, h, Bool.false_eq_true, if_false]
  simp only [afterBlanks, hstay, List.head?_cons]

/-- A reader that takes the whole text finds the text to be that value. -/
theorem whole_of_yields (h : Yields x input a []) : whole x input = .ok a := by
  obtain ⟨p, hx⟩ := h ⟨1, 0⟩
  unfold whole Cursor.start
  simp only [bind, EStateM.bind, hx]
  rfl

end

/-! ## §2. One character of a string. -/

/-- A byte that stands for itself in a string. -/
def IsPlain (b : UInt8) : Prop := b ≠ byte '"' ∧ b ≠ byte '\\' ∧ ¬b < 0x20

/-- Four digits of which the first two are zeros. -/
theorem hexValue4_digitChar : ∀ n < 0x20,
    hexValue4 (byte '0') (byte '0') (byte (Nat.digitChar (n / 16)))
      (byte (Nat.digitChar (n % 16))) = some n := by decide

theorem digitChar_ascii : ∀ d < 16, (Nat.digitChar d).toNat < 0x80 := by decide

theorem encode_hexEscape {c : Char} (h : c.toNat < 0x20) :
    Text.Utf8.encode (hexEscape c) =
      [byte '\\', byte 'u', byte '0', byte '0', byte (Nat.digitChar (c.toNat / 16)),
        byte (Nat.digitChar (c.toNat % 16))] := by
  apply Text.Utf8.encode_of_ascii
  unfold hexEscape
  simp only [List.forall_mem_cons, List.not_mem_nil, false_implies, implies_true, and_true]
  exact ⟨by decide, by decide, by decide, by decide, digitChar_ascii _ (by omega),
    digitChar_ascii _ (by omega)⟩

/-- The bytes of a character that needs no escape stand for themselves. -/
theorem isPlain_of_mem_encodeChar {c : Char} (hquote : c ≠ '"') (hbackslash : c ≠ '\\')
    (hcontrol : ¬c.toNat < 0x20) {b : UInt8} (hb : b ∈ Text.Utf8.encodeChar c) : IsPlain b := by
  refine ⟨?_, ?_, ?_⟩
  · rintro rfl
    exact hquote (Text.Utf8.eq_of_mem_encodeChar (by decide) hb)
  · rintro rfl
    exact hbackslash (Text.Utf8.eq_of_mem_encodeChar (by decide) hb)
  · intro hlt
    have hlt : b.toNat < 0x20 := UInt8.lt_iff_toNat_lt.1 hlt
    have hc := Text.Utf8.toNat_of_mem_encodeChar hb (by omega)
    omega

section
variable (acc rest : List UInt8) (p : Place)

/-- A letter behind a backslash is read as what it stands for. -/
theorem readBytesFrom_simple {letter value : UInt8} (h : simpleEscape letter = some value) :
    readBytesFrom acc (byte '\\' :: letter :: rest) p =
      readBytesFrom (value :: acc) rest (p.right 2) := by
  rw [readBytesFrom.eq_def]
  simp only [h]
  rfl

/-- Four digits are read as the control character with that code point. -/
theorem readBytesFrom_hexEscape {c : Char} (h : c.toNat < 0x20) :
    readBytesFrom acc (Text.Utf8.encode (hexEscape c) ++ rest) p =
      readBytesFrom ((Text.Utf8.encodeChar c).reverse ++ acc) rest (p.right 6) := by
  have hleading : isLeading c.toNat = false := by
    simp only [isLeading, Bool.and_eq_false_imp, decide_eq_true_eq, decide_eq_false_iff_not]
    omega
  have htrailing : isTrailing c.toNat = false := by
    simp only [isTrailing, Bool.and_eq_false_imp, decide_eq_true_eq, decide_eq_false_iff_not]
    omega
  have hbytes : reversedBytes c.toNat = (Text.Utf8.encodeChar c).reverse := by
    rw [reversedBytes, Char.ofNat_toNat]
  rw [encode_hexEscape h, readBytesFrom.eq_def]
  simp only [List.cons_append, List.nil_append, hexValue4_digitChar _ h, hleading, htrailing,
    hbytes]
  rfl

theorem readBytesFrom_plain {bytes : List UInt8} (h : ∀ b ∈ bytes, IsPlain b) :
    ∃ p', readBytesFrom acc (bytes ++ rest) p = readBytesFrom (bytes.reverse ++ acc) rest p' := by
  induction bytes generalizing acc p with
  | nil => exact ⟨p, rfl⟩
  | cons b bytes ih =>
      obtain ⟨⟨hquote, hbackslash, hcontrol⟩, hrest⟩ := List.forall_mem_cons.1 h
      obtain ⟨p', hp'⟩ := ih (b :: acc) (p.right 1) hrest
      refine ⟨p', ?_⟩
      rw [List.cons_append, readBytesFrom.eq_def]
      simp only [if_neg hquote, if_neg hbackslash, if_neg hcontrol, hp', List.reverse_cons,
        List.append_assoc, List.cons_append, List.nil_append]

/-- **A character is read as its bytes, however it was written.** -/
theorem readBytesFrom_escaped (c : Char) :
    ∃ p', readBytesFrom acc (Text.Utf8.encode (escaped c) ++ rest) p =
      readBytesFrom ((Text.Utf8.encodeChar c).reverse ++ acc) rest p' := by
  by_cases hsimple : c ∈ ['"', '\\', '\x08', '\x0c', '\n', '\r', '\t']
  · -- These seven have a letter of their own.
    refine ⟨p.right 2, ?_⟩
    simp only [List.mem_cons, List.not_mem_nil, or_false] at hsimple
    rcases hsimple with rfl | rfl | rfl | rfl | rfl | rfl | rfl <;>
      exact readBytesFrom_simple acc rest p rfl
  · simp only [List.mem_cons, List.not_mem_nil, or_false, not_or] at hsimple
    obtain ⟨hquote, hbackslash, h₁, h₂, h₃, h₄, h₅⟩ := hsimple
    unfold escaped
    rw [if_neg hquote, if_neg hbackslash, if_neg h₁, if_neg h₂, if_neg h₃, if_neg h₄, if_neg h₅]
    split
    · rename_i hcontrol
      exact ⟨_, readBytesFrom_hexEscape acc rest p hcontrol⟩
    · rename_i hcontrol
      have hbytes : Text.Utf8.encode [c] = Text.Utf8.encodeChar c := List.append_nil _
      rw [hbytes]
      exact readBytesFrom_plain acc rest p fun b hb =>
        isPlain_of_mem_encodeChar hquote hbackslash hcontrol hb

/-! ## §3. Strings. -/

/-- The characters of a string and its closing quotation mark. -/
theorem readBytesFrom_quoted (s : List Char) :
    ∃ p', readBytesFrom acc (Text.Utf8.encode (s.flatMap escaped) ++ byte '"' :: rest) p =
      .ok (acc.reverse ++ Text.Utf8.encode s) ⟨rest, p'⟩ := by
  induction s generalizing acc p with
  | nil =>
      refine ⟨p.right 1, ?_⟩
      change readBytesFrom acc (byte '"' :: rest) p = _
      rw [readBytesFrom.eq_def]
      simp only [if_true]
      rw [show Text.Utf8.encode [] = [] from rfl, List.append_nil]
  | cons c s ih =>
      obtain ⟨q, hq⟩ :=
        readBytesFrom_escaped acc (Text.Utf8.encode (s.flatMap escaped) ++ byte '"' :: rest) p c
      obtain ⟨p', hp'⟩ := ih ((Text.Utf8.encodeChar c).reverse ++ acc) q
      refine ⟨p', ?_⟩
      rw [List.flatMap_cons, Text.Utf8.encode_append, List.append_assoc, hq, hp',
        List.reverse_append, List.reverse_reverse, List.append_assoc]
      rfl

end

/-- Behind the first quotation mark. -/
theorem yields_readText (s : String) (rest : List UInt8) :
    Yields readText (Text.Utf8.encode (s.toList.flatMap escaped) ++ byte '"' :: rest) s rest := by
  intro p
  obtain ⟨p', hp'⟩ := readBytesFrom_quoted [] rest p s.toList
  refine ⟨p', ?_⟩
  have htext : Text.Utf8.textOf (Text.Utf8.encode s.toList) = .ok s := Text.Utf8.textOf_bytesOf s
  unfold readText readBytes
  simp only [hp', List.reverse_nil, List.nil_append, htext]

theorem encode_quoted (s : List Char) (rest : List UInt8) :
    Text.Utf8.encode (quoted s) ++ rest =
      byte '"' :: (Text.Utf8.encode (s.flatMap escaped) ++ byte '"' :: rest) := by
  unfold quoted
  rw [Text.Utf8.encode_append, List.append_assoc]
  rfl

end Failover.Json
