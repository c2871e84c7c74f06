/-
  Failover.Proofs.Bytes.Base64
  ────────────────────────────
  **What is written in symbols is read back.** Writing takes two steps:
  bytes are regrouped into values of six bits, and every value has a
  symbol.  Reading undoes them one after the other:

      bytes ── sextets ──▶ values ── symbol ──▶ text
      bytes ◀── ungroup ── values ◀── value? ── text

  What strict reading asks for besides — a whole number of groups, just
  the padding that the last group needs, no bits left over — holds of
  every text that is written.

  Main statement: `decode_encode`.
-/
import Failover.Bytes.Base64
import Failover.Proofs.Text.Ascii

namespace Failover.Bytes.Base64

/-! ## §1. Values of six bits. -/

/-- Bytes regrouped into values of six bits; the last of them is filled up with zeros. -/
def sextets : List UInt8 → List Nat
  | a :: b :: c :: rest =>
      let n := a.toNat * 65536 + b.toNat * 256 + c.toNat
      n / 262144 :: n / 4096 % 64 :: n / 64 % 64 :: n % 64 :: sextets rest
  | [a, b] =>
      let n := a.toNat * 1024 + b.toNat * 4
      [n / 4096, n / 64 % 64, n % 64]
  | [a] => [a.toNat * 16 / 64, a.toNat * 16 % 64]
  | [] => []

/-- The padding behind the symbols of so many bytes. -/
def padding (bytes : Nat) : List Char := List.replicate ((3 - bytes % 3) % 3) '='

/-- Writing is regrouping, then a symbol for each value, then the padding. -/
theorem encodeWith_eq (padded : Bool) (bytes : List UInt8) :
    encodeWith padded bytes =
      (sextets bytes).map symbol ++ if padded then padding bytes.length else [] := by
  fun_induction sextets bytes with
  | case1 a b c rest n ih =>
      -- Three more bytes ask for no other padding.
      have hpadding : padding (a :: b :: c :: rest).length = padding rest.length := by
        unfold padding
        rw [List.length_cons, List.length_cons, List.length_cons, Nat.add_assoc, Nat.add_assoc,
          Nat.add_mod_right]
      rw [encodeWith, ih, hpadding]
      rfl
  | case2 a b n => cases padded <;> rfl
  | case3 a => cases padded <;> rfl
  | case4 => cases padded <;> rfl

theorem sextets_lt (bytes : List UInt8) : ∀ v ∈ sextets bytes, v < 64 := by
  fun_induction sextets bytes with
  | case1 a b c rest n ih =>
      have ha := a.toNat_lt
      have hb := b.toNat_lt
      have hc := c.toNat_lt
      simp only [List.forall_mem_cons]
      exact ⟨by omega, by omega, by omega, by omega, ih⟩
  | case2 a b n =>
      have ha := a.toNat_lt
      have hb := b.toNat_lt
      simp only [List.forall_mem_cons, List.not_mem_nil, false_implies, implies_true, and_true]
      exact ⟨by omega, by omega, by omega⟩
  | case3 a =>
      have ha := a.toNat_lt
      simp only [List.forall_mem_cons, List.not_mem_nil, false_implies, implies_true, and_true]
      exact ⟨by omega, by omega⟩
  | case4 => simp

theorem ofNat_eq {n : Nat} {b : UInt8} (h : n % 256 = b.toNat) : UInt8.ofNat n = b := by
  apply UInt8.toNat_inj.1
  rw [UInt8.toNat_ofNat', h]

/-- Values are regrouped into the bytes that they came from. -/
theorem ungroup_sextets (bytes : List UInt8) : ungroup (sextets bytes) = bytes := by
  fun_induction sextets bytes with
  | case1 a b c rest n ih =>
      have ha := a.toNat_lt
      have hb := b.toNat_lt
      have hc := c.toNat_lt
      rw [ungroup, ih, ofNat_eq (b := a) (by omega), ofNat_eq (b := b) (by omega),
        ofNat_eq (b := c) (by omega)]
  | case2 a b n =>
      have ha := a.toNat_lt
      have hb := b.toNat_lt
      rw [ungroup, ofNat_eq (b := a) (by omega), ofNat_eq (b := b) (by omega)]
  | case3 a =>
      have ha := a.toNat_lt
      rw [ungroup, ofNat_eq (b := a) (by omega)]
  | case4 => rfl

/-- The values make whole groups with the padding. -/
theorem length_sextets (bytes : List UInt8) :
    ((sextets bytes).length + (3 - bytes.length % 3) % 3) % 4 = 0 := by
  fun_induction sextets bytes with
  | case1 a b c rest n ih =>
      simp only [List.length_cons]
      omega
  | case2 a b n => simp
  | case3 a => simp
  | case4 => simp

theorem slack_add (n : Nat) : slack (n + 4) = slack n := by
  unfold slack
  rw [Nat.add_mod_right]

/-- The last value carries no bits that no byte needs. -/
theorem last_sextets (bytes : List UInt8) :
    ∀ v ∈ (sextets bytes).getLast?, v % slack (sextets bytes).length = 0 := by
  fun_induction sextets bytes with
  | case1 a b c rest n ih =>
      -- A whole group leaves nothing over, and the last value is that of the rest.
      simp only [List.length_cons, Nat.add_assoc, Nat.reduceAdd]
      rw [slack_add]
      cases hs : sextets rest with
      | nil => exact fun v _ => Nat.mod_one v
      | cons w ws =>
          rw [hs] at ih
          simpa [List.getLast?_cons_cons] using ih
  | case2 a b n =>
      intro v hv
      cases hv
      exact (by omega : (a.toNat * 1024 + b.toNat * 4) % 64 % 4 = 0)
  | case3 a =>
      intro v hv
      cases hv
      exact (by omega : a.toNat * 16 % 64 % 16 = 0)
  | case4 => simp

/-- Bytes are regrouped into values that no others are regrouped into. -/
theorem sextets_injective {bytes bytes' : List UInt8} (h : sextets bytes = sextets bytes') :
    bytes = bytes' := by
  rw [← ungroup_sextets bytes, h, ungroup_sextets]

/-! ## §2. Symbols. -/

theorem symbol_ascii : ∀ v < 64, (symbol v).toNat < 0x80 := by decide

theorem value?_symbolByte : ∀ v < 64, value? (symbolByte v) = some v := by decide

/-- A written text has no other characters than symbols and padding. -/
theorem mem_encode {bytes : List UInt8} {c : Char} (h : c ∈ encode bytes) :
    (∃ v < 64, c = symbol v) ∨ c = '=' := by
  have hwritten : encode bytes = (sextets bytes).map symbol ++ padding bytes.length :=
    encodeWith_eq true bytes
  rw [hwritten] at h
  rcases List.mem_append.1 h with hsymbol | hpadding
  · obtain ⟨v, hv, rfl⟩ := List.mem_map.1 hsymbol
    exact .inl ⟨v, sextets_lt bytes v hv, rfl⟩
  · exact .inr (List.eq_of_mem_replicate hpadding)

/-- The bytes of a written text: symbols, then padding. -/
theorem bytes_encode (bytes : List UInt8) :
    Text.Utf8.encode (encode bytes) =
      (sextets bytes).map symbolByte ++
        List.replicate ((3 - bytes.length % 3) % 3) padByte := by
  have hascii : ∀ c ∈ encode bytes, c.toNat < 0x80 := by
    intro c hc
    rcases mem_encode hc with ⟨v, hv, rfl⟩ | rfl
    · exact symbol_ascii v hv
    · decide
  have hwritten : encode bytes = (sextets bytes).map symbol ++ padding bytes.length :=
    encodeWith_eq true bytes
  rw [Text.Utf8.encode_of_ascii hascii, hwritten, List.map_append, List.map_map, padding,
    List.map_replicate]
  rfl

theorem isSymbol_of_mem {bytes : List UInt8} : ∀ b ∈ (sextets bytes).map symbolByte,
    isSymbol b = true := by
  intro b hb
  obtain ⟨v, hv, rfl⟩ := List.mem_map.1 hb
  rw [isSymbol, value?_symbolByte v (sextets_lt bytes v hv)]
  rfl

theorem filterMap_symbols (bytes : List UInt8) :
    ((sextets bytes).map symbolByte).filterMap value? = sextets bytes := by
  have hlt := sextets_lt bytes
  generalize sextets bytes = values at hlt
  induction values with
  | nil => rfl
  | cons v values ih =>
      obtain ⟨hv, hrest⟩ := List.forall_mem_cons.1 hlt
      rw [List.map_cons, List.filterMap_cons_some (value?_symbolByte v hv), ih hrest]

/-- Different bytes are written differently without padding, too. -/
theorem encodeBare_injective {bytes bytes' : List UInt8}
    (h : encodeBare bytes = encodeBare bytes') : bytes = bytes' := by
  have hsymbols : (sextets bytes).map symbol = (sextets bytes').map symbol := by
    simpa [encodeBare, encodeWith_eq] using h
  -- The symbols are read back one by one; nothing of strict reading is needed here.
  have hbytes : (sextets bytes).map symbolByte = (sextets bytes').map symbolByte := by
    have hmap := congrArg (List.map fun c => UInt8.ofNat c.toNat) hsymbols
    rw [List.map_map, List.map_map] at hmap
    exact hmap
  apply sextets_injective
  rw [← filterMap_symbols, hbytes, filterMap_symbols]

/-! ## §3. Strict reading. -/

/-- Symbols before padding are found. -/
theorem takeWhile_isSymbol {symbols : List UInt8} (h : ∀ b ∈ symbols, isSymbol b = true) (k : Nat) :
    (symbols ++ List.replicate k padByte).takeWhile isSymbol = symbols := by
  rw [List.takeWhile_append_of_pos h]
  cases k with
  | zero => simp
  | succ k =>
      rw [List.replicate_succ, List.takeWhile_cons_of_neg (by decide), List.append_nil]

/-- Up to two padding characters that make a whole group are padding. -/
theorem isPadding_replicate {symbols k : Nat} (h : (symbols + k) % 4 = 0) (hk : k ≤ 2) :
    isPadding symbols (List.replicate k padByte) = true := by
  unfold isPadding
  rcases Nat.eq_zero_or_pos k with rfl | hpos
  · rfl
  · simp only [List.length_replicate, List.all_replicate, beq_self_eq_true, Bool.or_eq_true,
      Bool.and_eq_true, decide_eq_true_eq]
    refine .inr ⟨⟨by omega, by simp⟩, by omega⟩

theorem checkLast_symbols (bytes : List UInt8) :
    checkLast ((sextets bytes).map symbolByte) = .ok () := by
  unfold checkLast
  rw [List.getLast?_map, List.length_map]
  cases hlast : (sextets bytes).getLast? with
  | none => rfl
  | some v =>
      have hv := sextets_lt bytes v (List.mem_of_getLast? hlast)
      have hslack := last_sextets bytes v hlast
      simp only [Option.map_some, value?_symbolByte v hv, Option.getD_some]
      rw [if_neg (not_not_intro hslack)]

/-- **What is written is read back.** -/
theorem decode_encode (bytes : List UInt8) :
    decode (Text.Utf8.encode (encode bytes)) = .ok bytes := by
  rw [bytes_encode]
  generalize hk : (3 - bytes.length % 3) % 3 = k
  generalize hsymbols : (sextets bytes).map symbolByte = symbols
  -- Strict reading compares numbers: of symbols, of padding, and of both together.
  have hlen : symbols.length = (sextets bytes).length := by rw [← hsymbols, List.length_map]
  have hgroups : (symbols.length + k) % 4 = 0 := by
    rw [hlen, ← hk]
    exact length_sextets bytes
  have hfour : (symbols ++ List.replicate k padByte).length % 4 = 0 := by
    rwa [List.length_append, List.length_replicate]
  have hlength : checkLength (symbols ++ List.replicate k padByte) = .ok () := by
    rw [checkLength, if_neg (by omega)]
  have htake : (symbols ++ List.replicate k padByte).takeWhile isSymbol = symbols :=
    takeWhile_isSymbol (hsymbols ▸ isSymbol_of_mem) k
  have hpadding : isPadding symbols.length (List.replicate k padByte) = true :=
    isPadding_replicate hgroups (by omega)
  unfold decode
  rw [hlength, htake]
  simp only [List.drop_left, hpadding, hfour]
  rw [← hsymbols, checkLast_symbols, filterMap_symbols, ungroup_sextets]
  rfl

end Failover.Bytes.Base64
