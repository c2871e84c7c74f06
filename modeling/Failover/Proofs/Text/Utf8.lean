/-
  Failover.Proofs.Text.Utf8
  ─────────────────────────
  **Only what was written is read.**  The reader of byte strings accepts
  nothing but the bytes of a text.  A lead byte tells how many bytes
  follow and bounds the first of them, and these bounds are those of the
  code points that are written with that many bytes:

      1st byte   2nd byte   others     code points
      00 – 7F                          up to U+7F
      C2 – DF    80 – BF               up to U+7FF
      E0         A0 – BF    80 – BF    from U+800
      E1 – EF    80 – BF    80 – BF    without the surrogates (ED: to 9F)
      F0         90 – BF    80 – BF    from U+10000
      F1 – F4    80 – BF    80 – BF    up to U+10FFFF (F4: to 8F)

  Main statement: `textOf_eq_ok_iff`.
-/
import Failover.Text.Utf8

namespace Failover.Text.Utf8

/-! ## §1. Characters from their bytes. -/

theorem toNat_ofNat_of_isValidChar {n : Nat} (h : n.isValidChar) : (Char.ofNat n).toNat = n := by
  unfold Char.ofNat
  rw [dif_pos h]
  rfl

theorem encodeChar_single {b : UInt8} (h : b.toNat < 0x80) :
    encodeChar (Char.ofNat b.toNat) = [b] := by
  have hc := toNat_ofNat_of_isValidChar (n := b.toNat) (.inl (by omega))
  unfold encodeChar
  rw [hc, if_pos h, UInt8.ofNat_toNat]

/-- A byte is known by its value. -/
theorem ofNat_eq {n : Nat} {b : UInt8} (h : n = b.toNat) : UInt8.ofNat n = b := by
  rw [h, UInt8.ofNat_toNat]

theorem encodeChar_pair {b b₁ : UInt8} (hb : 0xC2 ≤ b.toNat) (hb' : b.toNat < 0xE0)
    (h₁ : 0x80 ≤ b₁.toNat) (h₁' : b₁.toNat ≤ 0xBF) :
    encodeChar (Char.ofNat ((b.toNat - 0xC0) * 64 + (b₁.toNat - 0x80))) = [b, b₁] := by
  have hc := toNat_ofNat_of_isValidChar
    (n := (b.toNat - 0xC0) * 64 + (b₁.toNat - 0x80)) (.inl (by omega))
  unfold encodeChar
  rw [hc, if_neg (by omega), if_pos (by omega), ofNat_eq (b := b) (by omega),
    ofNat_eq (b := b₁) (by omega)]

/-- Three bytes, of which the first two shut out overlong forms and surrogates. -/
theorem encodeChar_triple {b b₁ b₂ : UInt8} (hb : 0xE0 ≤ b.toNat) (hb' : b.toNat < 0xF0)
    (hlong : b.toNat = 0xE0 → 0xA0 ≤ b₁.toNat) (hplain : b.toNat = 0xED → b₁.toNat ≤ 0x9F)
    (h₁ : 0x80 ≤ b₁.toNat) (h₁' : b₁.toNat ≤ 0xBF) (h₂ : 0x80 ≤ b₂.toNat)
    (h₂' : b₂.toNat ≤ 0xBF) :
    encodeChar (Char.ofNat
      (((b.toNat - 0xE0) * 64 + (b₁.toNat - 0x80)) * 64 + (b₂.toNat - 0x80))) = [b, b₁, b₂] := by
  have hvalid : (((b.toNat - 0xE0) * 64 + (b₁.toNat - 0x80)) * 64 +
      (b₂.toNat - 0x80)).isValidChar := by
    unfold Nat.isValidChar
    omega
  have hc := toNat_ofNat_of_isValidChar hvalid
  unfold encodeChar
  rw [hc, if_neg (by omega), if_neg (by omega), if_pos (by omega), ofNat_eq (b := b) (by omega),
    ofNat_eq (b := b₁) (by omega), ofNat_eq (b := b₂) (by omega)]

/-- Four bytes, of which the first two shut out overlong forms and what is above all characters. -/
theorem encodeChar_quadruple {b b₁ b₂ b₃ : UInt8} (hb : 0xF0 ≤ b.toNat) (hb' : b.toNat ≤ 0xF4)
    (hlong : b.toNat = 0xF0 → 0x90 ≤ b₁.toNat) (hhigh : b.toNat = 0xF4 → b₁.toNat ≤ 0x8F)
    (h₁ : 0x80 ≤ b₁.toNat) (h₁' : b₁.toNat ≤ 0xBF) (h₂ : 0x80 ≤ b₂.toNat)
    (h₂' : b₂.toNat ≤ 0xBF) (h₃ : 0x80 ≤ b₃.toNat) (h₃' : b₃.toNat ≤ 0xBF) :
    encodeChar (Char.ofNat
      ((((b.toNat - 0xF0) * 64 + (b₁.toNat - 0x80)) * 64 + (b₂.toNat - 0x80)) * 64 +
        (b₃.toNat - 0x80))) = [b, b₁, b₂, b₃] := by
  have hvalid : ((((b.toNat - 0xF0) * 64 + (b₁.toNat - 0x80)) * 64 + (b₂.toNat - 0x80)) * 64 +
      (b₃.toNat - 0x80)).isValidChar := by
    unfold Nat.isValidChar
    omega
  have hc := toNat_ofNat_of_isValidChar hvalid
  unfold encodeChar
  rw [hc, if_neg (by omega), if_neg (by omega), if_neg (by omega), ofNat_eq (b := b) (by omega),
    ofNat_eq (b := b₁) (by omega), ofNat_eq (b := b₂) (by omega), ofNat_eq (b := b₃) (by omega)]

/-! ## §2. What is open. -/

/-- What a lead byte says. -/
structure Leads (b : Nat) (s : Sequence) : Prop where
  low : 0x80 ≤ s.low
  high : s.high ≤ 0xBF
  shape :
    (0xC2 ≤ b ∧ b < 0xE0 ∧ s.missing = 1 ∧ s.value = b - 0xC0) ∨
    (0xE0 ≤ b ∧ b < 0xF0 ∧ s.missing = 2 ∧ s.value = b - 0xE0 ∧
      (b = 0xE0 → 0xA0 ≤ s.low) ∧ (b = 0xED → s.high ≤ 0x9F)) ∨
    (0xF0 ≤ b ∧ b ≤ 0xF4 ∧ s.missing = 3 ∧ s.value = b - 0xF0 ∧
      (b = 0xF0 → 0x90 ≤ s.low) ∧ (b = 0xF4 → s.high ≤ 0x8F))

theorem leads_of_opening {i b : Nat} {s : Sequence} (h : opening i b = .lead s) : Leads b s := by
  unfold opening at h
  -- one case for each row of the table
  repeat' split at h
  all_goals cases h
  all_goals refine ⟨by simp, by simp, ?_⟩
  all_goals dsimp only
  all_goals omega

theorem eq_of_opening {i b : Nat} {c : Char} (h : opening i b = .single c) :
    b < 0x80 ∧ c = Char.ofNat b := by
  unfold opening at h
  split at h
  · next hlt =>
    cases h
    exact ⟨hlt, rfl⟩
  · repeat' split at h
    all_goals cases h

/-- Inside a character there is a next byte, within its bounds. -/
theorem exists_of_decodeFrom_some {i : Nat} {s : Sequence} {done t : List Char}
    {bytes : List UInt8} (h : decodeFrom i (some s) done bytes = .ok t) :
    ∃ b rest, bytes = b :: rest ∧ s.low ≤ b.toNat ∧ b.toNat ≤ s.high ∧
      (if s.missing ≤ 1 then
        decodeFrom (i + 1) none (Char.ofNat (s.value * 64 + (b.toNat - 0x80)) :: done) rest
      else
        decodeFrom (i + 1) (some ⟨s.start, s.seen + 1, s.missing - 1,
          s.value * 64 + (b.toNat - 0x80), 0x80, 0xBF⟩) done rest) = .ok t := by
  cases bytes with
  | nil => cases h
  | cons b rest =>
      unfold decodeFrom at h
      dsimp only at h
      split at h
      · next hbounds => exact ⟨b, rest, rfl, hbounds.1, hbounds.2, h⟩
      · cases h

/-- **A character that was begun is finished** by the bytes that it is written with. -/
theorem exists_char_of_lead {i : Nat} {b : UInt8} {s : Sequence} {done t : List Char}
    {bytes : List UInt8} (hs : Leads b.toNat s)
    (h : decodeFrom i (some s) done bytes = .ok t) :
    ∃ j c rest, b :: bytes = encodeChar c ++ rest ∧ decodeFrom j none (c :: done) rest = .ok t ∧
      rest.length < bytes.length := by
  obtain ⟨hlow, hhigh, hshape⟩ := hs
  obtain ⟨b₁, rest, rfl, h₁, h₁', h⟩ := exists_of_decodeFrom_some h
  rcases hshape with ⟨hb, hb', hmissing, hvalue⟩ | ⟨hb, hb', hmissing, hvalue, hlong, hplain⟩ |
    ⟨hb, hb', hmissing, hvalue, hlong, hhigh'⟩
  · rw [if_pos (by omega), hvalue] at h
    refine ⟨_, _, rest, ?_, h, by simp⟩
    rw [encodeChar_pair hb hb' (by omega) (by omega)]
    rfl
  · rw [if_neg (by omega), hvalue, hmissing] at h
    obtain ⟨b₂, rest, rfl, h₂, h₂', h⟩ := exists_of_decodeFrom_some h
    dsimp only at h₂ h₂' h
    rw [if_pos (by omega)] at h
    refine ⟨_, _, rest, ?_, h, by simp only [List.length_cons]; omega⟩
    rw [encodeChar_triple hb hb' (by omega) (by omega) (by omega) (by omega) h₂ h₂']
    rfl
  · rw [if_neg (by omega), hvalue, hmissing] at h
    obtain ⟨b₂, rest, rfl, h₂, h₂', h⟩ := exists_of_decodeFrom_some h
    dsimp only at h₂ h₂' h
    rw [if_neg (by omega)] at h
    obtain ⟨b₃, rest, rfl, h₃, h₃', h⟩ := exists_of_decodeFrom_some h
    dsimp only at h₃ h₃' h
    rw [if_pos (by omega)] at h
    refine ⟨_, _, rest, ?_, h, by simp only [List.length_cons]; omega⟩
    rw [encodeChar_quadruple hb hb' (by omega) (by omega) (by omega) (by omega) h₂ h₂' h₃ h₃']
    rfl

/-! ## §3. Texts. -/

theorem exists_of_decodeFrom_none {i : Nat} {done t : List Char} {bytes : List UInt8}
    (h : decodeFrom i none done bytes = .ok t) :
    ∃ s, bytes = encode s ∧ t = done.reverse ++ s := by
  -- Character by character: one of them takes up to four bytes at once.
  induction hn : bytes.length using Nat.strongRecOn generalizing i done bytes with
  | ind n ih =>
      subst hn
      cases bytes with
      | nil => exact ⟨[], rfl, by rw [List.append_nil]; exact (Except.ok.inj h).symm⟩
      | cons b rest =>
          have hnext : ∃ j c more, b :: rest = encodeChar c ++ more ∧
              decodeFrom j none (c :: done) more = .ok t ∧ more.length < (b :: rest).length := by
            unfold decodeFrom at h
            dsimp only at h
            split at h
            · next c hsingle =>
              obtain ⟨hlt, rfl⟩ := eq_of_opening hsingle
              exact ⟨_, _, rest, by rw [encodeChar_single hlt]; rfl, h, by simp⟩
            · next s hlead =>
              obtain ⟨j, c, more, hsplit, hmore, hlt⟩ :=
                exists_char_of_lead (leads_of_opening hlead) h
              exact ⟨j, c, more, hsplit, hmore, by simp only [List.length_cons]; omega⟩
            · cases h
          obtain ⟨j, c, more, hsplit, hmore, hlt⟩ := hnext
          obtain ⟨s, rfl, rfl⟩ := ih more.length hlt hmore rfl
          exact ⟨c :: s, hsplit, by simp⟩

/-- **Bytes are read as a string exactly if they are the bytes of that string.** -/
theorem textOf_eq_ok_iff {bytes : List UInt8} {s : String} :
    textOf bytes = .ok s ↔ bytes = bytesOf s := by
  refine ⟨fun h => ?_, fun h => h ▸ textOf_bytesOf s⟩
  unfold textOf at h
  cases hdecode : decode bytes with
  | error m => rw [hdecode] at h; cases h
  | ok t =>
      rw [hdecode] at h
      obtain rfl : String.ofList t = s := Except.ok.inj h
      obtain ⟨u, rfl, rfl⟩ := exists_of_decodeFrom_none hdecode
      unfold bytesOf
      rw [String.toList_ofList]

end Failover.Text.Utf8
