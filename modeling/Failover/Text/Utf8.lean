/-
  Failover.Text.Utf8
  ──────────────────
  **Characters as bytes.** The encoding of a character in one to four
  bytes, and a reader of byte strings that says where and how a string
  stops being well formed.

  The reader is a machine over single bytes: a lead byte opens a
  `Sequence`, which knows how many bytes are still missing and between
  which bounds the next one has to lie.  Overlong forms, surrogates and
  code points above U+10FFFF are refused by these bounds on the second
  byte, so a sequence that is completed is a character.

  Main statements: `decode_encode` (what was encoded is read back) and
  `length_encodeChar_pos` (no character is empty).
-/

namespace Failover.Text.Utf8

/-! ## §1. Writing. -/

/-- The bytes of one character: a lead byte that tells the length, then six bits a byte. -/
def encodeChar (c : Char) : List UInt8 :=
  let n := c.toNat
  if n < 0x80 then [UInt8.ofNat n]
  else if n < 0x800 then [UInt8.ofNat (0xC0 + n / 64), UInt8.ofNat (0x80 + n % 64)]
  else if n < 0x10000 then
    [UInt8.ofNat (0xE0 + n / 4096), UInt8.ofNat (0x80 + n / 64 % 64), UInt8.ofNat (0x80 + n % 64)]
  else
    [UInt8.ofNat (0xF0 + n / 262144), UInt8.ofNat (0x80 + n / 4096 % 64),
      UInt8.ofNat (0x80 + n / 64 % 64), UInt8.ofNat (0x80 + n % 64)]

/-- The bytes of a text, one character after the other. -/
def encode (s : List Char) : List UInt8 := s.flatMap encodeChar

/-- The bytes of a string. -/
def bytesOf (s : String) : List UInt8 := encode s.toList

/-! ## §2. Reading. -/

/-- Why a byte string is no text: the index up to which it is well formed, and the length of the
broken sequence there, or nothing when the string ends inside a sequence. -/
structure Malformed where
  validUpTo : Nat
  broken : Option Nat
  deriving DecidableEq

/-- The wording of a malformed text. -/
def Malformed.message (m : Malformed) : String :=
  match m.broken with
  | some n =>
      "invalid utf-8 sequence of " ++ toString n ++ " bytes from index " ++ toString m.validUpTo
  | none => "incomplete utf-8 byte sequence from index " ++ toString m.validUpTo

/-- A character that has begun: where, how many of its bytes were seen, how many are missing, the
value so far, and the bounds of the next byte. -/
structure Sequence where
  start : Nat
  seen : Nat
  missing : Nat
  value : Nat
  low : Nat
  high : Nat

/-- What a byte means between two characters. -/
inductive Opening where
  | single (c : Char)
  | lead (s : Sequence)
  | stray

/-- Classify the byte `b` at index `i`.  The bounds on the second byte shut out overlong forms
(after E0 and F0), surrogates (after ED) and code points above U+10FFFF (after F4). -/
def opening (i b : Nat) : Opening :=
  if b < 0x80 then .single (Char.ofNat b)
  else if b < 0xC2 then .stray
  else if b < 0xE0 then .lead ⟨i, 1, 1, b - 0xC0, 0x80, 0xBF⟩
  else if b = 0xE0 then .lead ⟨i, 1, 2, 0, 0xA0, 0xBF⟩
  else if b = 0xED then .lead ⟨i, 1, 2, 0xD, 0x80, 0x9F⟩
  else if b < 0xF0 then .lead ⟨i, 1, 2, b - 0xE0, 0x80, 0xBF⟩
  else if b = 0xF0 then .lead ⟨i, 1, 3, 0, 0x90, 0xBF⟩
  else if b < 0xF4 then .lead ⟨i, 1, 3, b - 0xF0, 0x80, 0xBF⟩
  else if b = 0xF4 then .lead ⟨i, 1, 3, 4, 0x80, 0x8F⟩
  else .stray

/-- Read on from index `i`, with the characters read so far in reverse. -/
def decodeFrom (i : Nat) (open? : Option Sequence) (done : List Char) :
    List UInt8 → Except Malformed (List Char)
  | [] =>
      match open? with
      | none => .ok done.reverse
      | some s => .error ⟨s.start, none⟩
  | b :: rest =>
      match open? with
      | none =>
          match opening i b.toNat with
          | .single c => decodeFrom (i + 1) none (c :: done) rest
          | .lead s => decodeFrom (i + 1) (some s) done rest
          | .stray => .error ⟨i, some 1⟩
      | some s =>
          if s.low ≤ b.toNat ∧ b.toNat ≤ s.high then
            let value := s.value * 64 + (b.toNat - 0x80)
            if s.missing ≤ 1 then decodeFrom (i + 1) none (Char.ofNat value :: done) rest
            else decodeFrom (i + 1)
              (some ⟨s.start, s.seen + 1, s.missing - 1, value, 0x80, 0xBF⟩) done rest
          else .error ⟨s.start, some s.seen⟩

/-- The text that the bytes spell. -/
def decode (bytes : List UInt8) : Except Malformed (List Char) := decodeFrom 0 none [] bytes

/-- The string that the bytes spell. -/
def textOf (bytes : List UInt8) : Except Malformed String := (decode bytes).map String.ofList

/-! ## §3. What is written is read back. -/

theorem length_encodeChar_pos (c : Char) : 0 < (encodeChar c).length := by
  unfold encodeChar
  simp only
  split
  · simp
  · split
    · simp
    · split <;> simp

private theorem toNat_ofNat_byte {n : Nat} (h : n < 256) : (UInt8.ofNat n).toNat = n := by
  simp [Nat.mod_eq_of_lt h]

/-- Reading the bytes of a character gives the character and goes on behind them. -/
theorem decodeFrom_encodeChar (c : Char) (i : Nat) (done : List Char) (rest : List UInt8) :
    decodeFrom i none done (encodeChar c ++ rest) =
      decodeFrom (i + (encodeChar c).length) none (c :: done) rest := by
  have hv : c.toNat < 0xD800 ∨ (0xDFFF < c.toNat ∧ c.toNat < 0x110000) := c.valid
  have hc : Char.ofNat c.toNat = c := Char.ofNat_toNat c
  unfold encodeChar
  simp only
  split
  · rename_i h
    have a : (UInt8.ofNat c.toNat).toNat = c.toNat := toNat_ofNat_byte (by omega)
    have o : opening i c.toNat = .single c := by simp only [opening, if_pos h, hc]
    simp only [List.cons_append, List.nil_append, decodeFrom, a, o, List.length_singleton]
  · split
    · rename_i h₁ h₂
      have a₁ : (UInt8.ofNat (0xC0 + c.toNat / 64)).toNat = 0xC0 + c.toNat / 64 :=
        toNat_ofNat_byte (by omega)
      have a₂ : (UInt8.ofNat (0x80 + c.toNat % 64)).toNat = 0x80 + c.toNat % 64 :=
        toNat_ofNat_byte (by omega)
      have e : (0xC0 + c.toNat / 64 - 0xC0) * 64 + (0x80 + c.toNat % 64 - 0x80) = c.toNat := by omega
      have o : opening i (0xC0 + c.toNat / 64) =
          .lead ⟨i, 1, 1, 0xC0 + c.toNat / 64 - 0xC0, 0x80, 0xBF⟩ := by
        simp only [opening]
        rw [if_neg (by omega), if_neg (by omega), if_pos (by omega)]
      simp only [List.cons_append, List.nil_append, decodeFrom, a₁, a₂, o]
      rw [if_pos (by omega), if_pos (by omega), e, hc]
      rfl
    · split
      · rename_i h₁ h₂ h₃
        have a₁ : (UInt8.ofNat (0xE0 + c.toNat / 4096)).toNat = 0xE0 + c.toNat / 4096 :=
          toNat_ofNat_byte (by omega)
        have a₂ : (UInt8.ofNat (0x80 + c.toNat / 64 % 64)).toNat = 0x80 + c.toNat / 64 % 64 :=
          toNat_ofNat_byte (by omega)
        have a₃ : (UInt8.ofNat (0x80 + c.toNat % 64)).toNat = 0x80 + c.toNat % 64 :=
          toNat_ofNat_byte (by omega)
        have o : ∃ low high, opening i (0xE0 + c.toNat / 4096) =
            .lead ⟨i, 1, 2, c.toNat / 4096, low, high⟩ ∧
            low ≤ 0x80 + c.toNat / 64 % 64 ∧ 0x80 + c.toNat / 64 % 64 ≤ high := by
          simp only [opening]
          rw [if_neg (by omega), if_neg (by omega), if_neg (by omega)]
          by_cases h : c.toNat / 4096 = 0
          · rw [if_pos (by omega)]
            exact ⟨0xA0, 0xBF, by rw [h], by omega, by omega⟩
          · rw [if_neg (by omega)]
            by_cases h' : c.toNat / 4096 = 13
            · rw [if_pos (by omega)]
              exact ⟨0x80, 0x9F, by rw [h'], by omega, by omega⟩
            · rw [if_neg (by omega), if_pos (by omega)]
              refine ⟨0x80, 0xBF, ?_, by omega, by omega⟩
              rw [Nat.add_sub_cancel_left]
        obtain ⟨low, high, o, hl, hh⟩ := o
        have e : (c.toNat / 4096 * 64 + (0x80 + c.toNat / 64 % 64 - 0x80)) * 64 +
            (0x80 + c.toNat % 64 - 0x80) = c.toNat := by omega
        simp only [List.cons_append, List.nil_append, decodeFrom, a₁, a₂, a₃, o]
        rw [if_pos ⟨hl, hh⟩, if_neg (by omega), if_pos (by omega), if_pos (by omega), e, hc]
        rfl
      · rename_i h₁ h₂ h₃
        have a₁ : (UInt8.ofNat (0xF0 + c.toNat / 262144)).toNat = 0xF0 + c.toNat / 262144 :=
          toNat_ofNat_byte (by omega)
        have a₂ : (UInt8.ofNat (0x80 + c.toNat / 4096 % 64)).toNat = 0x80 + c.toNat / 4096 % 64 :=
          toNat_ofNat_byte (by omega)
        have a₃ : (UInt8.ofNat (0x80 + c.toNat / 64 % 64)).toNat = 0x80 + c.toNat / 64 % 64 :=
          toNat_ofNat_byte (by omega)
        have a₄ : (UInt8.ofNat (0x80 + c.toNat % 64)).toNat = 0x80 + c.toNat % 64 :=
          toNat_ofNat_byte (by omega)
        have o : ∃ low high, opening i (0xF0 + c.toNat / 262144) =
            .lead ⟨i, 1, 3, c.toNat / 262144, low, high⟩ ∧
            low ≤ 0x80 + c.toNat / 4096 % 64 ∧ 0x80 + c.toNat / 4096 % 64 ≤ high := by
          simp only [opening]
          rw [if_neg (by omega), if_neg (by omega), if_neg (by omega), if_neg (by omega),
            if_neg (by omega), if_neg (by omega)]
          by_cases h : c.toNat / 262144 = 0
          · rw [if_pos (by omega)]
            exact ⟨0x90, 0xBF, by rw [h], by omega, by omega⟩
          · rw [if_neg (by omega)]
            by_cases h' : c.toNat / 262144 = 4
            · rw [if_neg (by omega), if_pos (by omega)]
              exact ⟨0x80, 0x8F, by rw [h'], by omega, by omega⟩
            · rw [if_pos (by omega)]
              refine ⟨0x80, 0xBF, ?_, by omega, by omega⟩
              rw [Nat.add_sub_cancel_left]
        obtain ⟨low, high, o, hl, hh⟩ := o
        have e : ((c.toNat / 262144 * 64 + (0x80 + c.toNat / 4096 % 64 - 0x80)) * 64 +
            (0x80 + c.toNat / 64 % 64 - 0x80)) * 64 + (0x80 + c.toNat % 64 - 0x80) = c.toNat := by
          omega
        simp only [List.cons_append, List.nil_append, decodeFrom, a₁, a₂, a₃, a₄, o]
        rw [if_pos ⟨hl, hh⟩, if_neg (by omega), if_pos (by omega), if_neg (by omega),
          if_pos (by omega), if_pos (by omega), e, hc]
        rfl

private theorem decodeFrom_encode (s : List Char) (i : Nat) (done : List Char) :
    decodeFrom i none done (encode s) = .ok (done.reverse ++ s) := by
  induction s generalizing i done with
  | nil => simp [encode, decodeFrom]
  | cons c r ih =>
      have h : encode (c :: r) = encodeChar c ++ encode r := rfl
      rw [h, decodeFrom_encodeChar, ih]
      simp

/-- What was encoded is read back. -/
theorem decode_encode (s : List Char) : decode (encode s) = .ok s := by
  simp [decode, decodeFrom_encode]

/-- The bytes of a string spell the string. -/
theorem textOf_bytesOf (s : String) : textOf (bytesOf s) = .ok s := by
  simp [textOf, bytesOf, decode_encode, Except.map]

/-- Different texts have different bytes. -/
theorem encode_injective {s t : List Char} (h : encode s = encode t) : s = t := by
  have := congrArg decode h
  rw [decode_encode, decode_encode] at this
  exact Except.ok.inj this

theorem encode_append (s t : List Char) : encode (s ++ t) = encode s ++ encode t := by
  simp [encode]

end Failover.Text.Utf8
