/-
  Failover.Proofs.Text.Ascii
  ──────────────────────────
  **Seven-bit characters among the bytes of a text.** Such a character is
  one byte, its code point, and no byte of any other character is below
  80₁₆.  So whatever is looked for among the bytes of a text by a byte of
  seven bits — a newline, a quotation mark — is a character of the text.

  Main statements: `encodeChar_of_ascii` and `toNat_of_mem_encodeChar`.
-/
import Failover.Text.Utf8

namespace Failover.Text.Utf8

theorem encodeChar_of_ascii {c : Char} (h : c.toNat < 0x80) :
    encodeChar c = [UInt8.ofNat c.toNat] := by
  unfold encodeChar
  simp only [if_pos h]

/-- A text of seven-bit characters has one byte for each of them. -/
theorem encode_of_ascii {s : List Char} (h : ∀ c ∈ s, c.toNat < 0x80) :
    encode s = s.map fun c => UInt8.ofNat c.toNat := by
  induction s with
  | nil => rfl
  | cons c s ih =>
      obtain ⟨hc, hs⟩ := List.forall_mem_cons.1 h
      have hsplit : encode (c :: s) = encodeChar c ++ encode s := rfl
      rw [hsplit, encodeChar_of_ascii hc, ih hs]
      rfl

/-- A text has a byte for each of its characters at the least. -/
theorem length_le_length_encode (s : List Char) : s.length ≤ (encode s).length := by
  induction s with
  | nil => exact Nat.zero_le _
  | cons c s ih =>
      have hsplit : encode (c :: s) = encodeChar c ++ encode s := rfl
      have hc := length_encodeChar_pos c
      rw [hsplit, List.length_append, List.length_cons]
      omega

theorem toNat_ofNat_of_ascii {n : Nat} (h : n < 0x80) : (UInt8.ofNat n).toNat = n := by
  simp only [UInt8.toNat_ofNat']
  omega

/-- The bytes of the other characters have their highest bit set. -/
theorem le_toNat_of_mem_encodeChar {c : Char} (h : ¬c.toNat < 0x80) {b : UInt8}
    (hb : b ∈ encodeChar c) : 0x80 ≤ b.toNat := by
  have hlt : c.toNat < 0x110000 := by
    rcases c.valid with hv | ⟨-, hv⟩
    · exact Nat.lt_trans hv (by decide)
    · exact hv
  unfold encodeChar at hb
  simp only [if_neg h] at hb
  split at hb
  · simp only [List.mem_cons, List.not_mem_nil, or_false] at hb
    rcases hb with rfl | rfl <;> simp only [UInt8.toNat_ofNat'] <;> omega
  · split at hb
    · simp only [List.mem_cons, List.not_mem_nil, or_false] at hb
      rcases hb with rfl | rfl | rfl <;> simp only [UInt8.toNat_ofNat'] <;> omega
    · simp only [List.mem_cons, List.not_mem_nil, or_false] at hb
      rcases hb with rfl | rfl | rfl | rfl <;> simp only [UInt8.toNat_ofNat'] <;> omega

/-- **A byte of seven bits is the code point of the character that it belongs to.** -/
theorem toNat_of_mem_encodeChar {c : Char} {b : UInt8} (hb : b ∈ encodeChar c)
    (h : b.toNat < 0x80) : c.toNat = b.toNat := by
  by_cases hc : c.toNat < 0x80
  · rw [encodeChar_of_ascii hc, List.mem_singleton] at hb
    rw [hb, toNat_ofNat_of_ascii hc]
  · exact absurd (le_toNat_of_mem_encodeChar hc hb) (Nat.not_le.2 h)

/-- The byte of a seven-bit character belongs to no other character. -/
theorem eq_of_mem_encodeChar {c d : Char} (hd : d.toNat < 0x80)
    (h : UInt8.ofNat d.toNat ∈ encodeChar c) : c = d := by
  have hbyte := toNat_ofNat_of_ascii hd
  have hnat := toNat_of_mem_encodeChar h (by rwa [hbyte])
  exact Char.toNat_inj.1 (hnat.trans hbyte)

/-- The byte of a seven-bit character is among those of a text only if the character is. -/
theorem mem_of_mem_bytesOf {s : String} {d : Char} (hd : d.toNat < 0x80)
    (h : UInt8.ofNat d.toNat ∈ bytesOf s) : d ∈ s.toList := by
  obtain ⟨c, hc, hmem⟩ := List.mem_flatMap.1 h
  rwa [← eq_of_mem_encodeChar hd hmem]

/-- It is the last byte of a text only if the character is the last one. -/
theorem getLast?_of_getLast?_bytesOf {s : String} {d : Char} (hd : d.toNat < 0x80)
    (h : (bytesOf s).getLast? = some (UInt8.ofNat d.toNat)) : s.toList.getLast? = some d := by
  unfold bytesOf at h
  rcases List.eq_nil_or_concat s.toList with hnil | ⟨front, c, hs⟩
  · rw [hnil] at h
    cases h
  · rw [List.concat_eq_append] at hs
    have hne : encodeChar c ≠ [] := List.ne_nil_of_length_pos (length_encodeChar_pos c)
    rw [hs, encode_append] at h
    have hlast : (encodeChar c).getLast? = some (UInt8.ofNat d.toNat) := by
      simpa [encode, List.getLast?_append, Option.or_eq_some_iff, hne] using h
    rw [hs, List.getLast?_concat, eq_of_mem_encodeChar hd (List.mem_of_getLast? hlast)]

end Failover.Text.Utf8
