/-
  Failover.Proofs.Connection.Sharing
  ──────────────────────────────────
  **A shared connection arrives.**  The text that a connection is shared as
  has three layers, and reading takes them off from the outside:

      blanks    version    symbols        around the text, trimmed
                           document       base64
                           three texts    an object

  No character of the shared text is blank, so trimming stops right at it,
  whatever it was pasted between; the document is given back by
  `Base64.decode_encode`, and the three texts by `recordOf_writeRecord`.
  All that is lost are the flags and the id, which is derived anew.

  Main statement: `decode_shared`.
-/
import Failover.Connection
import Failover.Proofs.Bytes.Base64
import Failover.Proofs.Json.Record

namespace Failover.Connection

open Bytes Text

/-! ## §1. The layers of a shared text. -/

theorem isBlank_symbol : ∀ v < 64, isBlank (Base64.symbol v) = false := by decide

theorem toList_encode (c : Connection) :
    c.encode.toList = version ++ Base64.encode (Utf8.encode c.sharedDocument) :=
  String.toList_ofList

/-- No character of a shared text is blank. -/
theorem not_isBlank_of_mem_encode {c : Connection} {char : Char} (h : char ∈ c.encode.toList) :
    isBlank char = false := by
  rw [toList_encode] at h
  rcases List.mem_append.1 h with hversion | hsymbols
  · simp only [version, List.mem_cons, List.not_mem_nil, or_false] at hversion
    rcases hversion with rfl | rfl <;> decide
  · rcases Base64.mem_encode hsymbols with ⟨v, hv, rfl⟩ | rfl
    · exact isBlank_symbol v hv
    · decide

/-- There is something behind the version. -/
theorem two_lt_length_encode (c : Connection) : 2 < c.encode.toList.length := by
  have hdocument : Base64.encode (Utf8.encode c.sharedDocument) ≠ [] := by
    -- Else the document would be read back as no bytes, but it has its braces.
    intro hnil
    have hread := Base64.decode_encode (Utf8.encode c.sharedDocument)
    rw [hnil] at hread
    cases hread
  have hpos := List.length_pos_iff.2 hdocument
  have hversion : version.length = 2 := rfl
  rw [toList_encode, List.length_append]
  omega

/-- Trimming gives the shared text back, whatever blanks stand around it. -/
theorem trimChars_encode (c : Connection) {before after : String}
    (hbefore : ∀ b ∈ before.toList, isBlank b = true)
    (hafter : ∀ b ∈ after.toList, isBlank b = true) :
    trimChars (before ++ c.encode ++ after).toList = c.encode.toList := by
  have hne : c.encode.toList ≠ [] := List.ne_nil_of_length_pos (by
    have := c.two_lt_length_encode
    omega)
  rw [String.toList_append, String.toList_append]
  exact trim_surround hbefore hafter
    (fun _ h => not_isBlank_of_mem_encode (List.mem_of_mem_head? h))
    (fun _ h => not_isBlank_of_mem_encode (List.mem_of_getLast? h)) hne

theorem unambiguous_sharedRecord : Json.Unambiguous sharedRecord.fields where
  names := by decide
  legible := by
    intro f hf
    simp only [sharedRecord, List.mem_cons, List.not_mem_nil, or_false] at hf
    rcases hf with rfl | rfl | rfl <;> exact Json.legible_text

/-- The three texts of the document are read back. -/
theorem recordOf_sharedDocument (c : Connection) :
    Json.recordOf sharedRecord (Utf8.encode c.sharedDocument) =
      .ok (c.transport, c.secret, c.addr, ()) :=
  Json.recordOf_writeRecord sharedRecord unambiguous_sharedRecord _

theorem decode_encode (c : Connection) {before after : String}
    (hbefore : ∀ b ∈ before.toList, isBlank b = true)
    (hafter : ∀ b ∈ after.toList, isBlank b = true) :
    decode (before ++ c.encode ++ after) = .ok (make c.transport c.secret c.addr) := by
  have hlong : ¬(Utf8.encode c.encode.toList).length < 3 := by
    have hchars := c.two_lt_length_encode
    have hbytes := Utf8.length_le_length_encode c.encode.toList
    omega
  have hversion : c.encode.toList.take 2 = version := by rw [toList_encode]; rfl
  have hsymbols : c.encode.toList.drop 2 = Base64.encode (Utf8.encode c.sharedDocument) := by
    rw [toList_encode]
    rfl
  unfold decode
  rw [c.trimChars_encode hbefore hafter]
  simp only [if_neg hlong, hversion, hsymbols, Base64.decode_encode, recordOf_sharedDocument]
  rfl

/-! ## §2. The round trip. -/

/-- A connection that is made of three texts has no flags, and the id that belongs to them. -/
theorem make_eq (transport secret addr : String) :
    make transport secret addr =
      ⟨transport, secret, addr, false, false, derivedId transport secret addr⟩ := rfl

/-- The three texts decide what a connection is shared as. -/
theorem encode_eq_iff (c d : Connection) :
    c.encode = d.encode ↔ c.transport = d.transport ∧ c.secret = d.secret ∧ c.addr = d.addr := by
  constructor
  · intro h
    have hnone : ∀ b ∈ "".toList, isBlank b = true := List.all_eq_true.1 rfl
    have hc := c.decode_encode hnone hnone
    have hd := d.decode_encode hnone hnone
    rw [h, hd, make_eq, make_eq, Except.ok.injEq, mk.injEq] at hc
    obtain ⟨htransport, hsecret, haddr, -⟩ := hc
    exact ⟨htransport.symm, hsecret.symm, haddr.symm⟩
  · rintro ⟨htransport, hsecret, haddr⟩
    unfold encode sharedDocument
    rw [htransport, hsecret, haddr]

/-- **A shared connection arrives**: what is read from its text, with any blanks around it, is the
connection made of the same three texts, without flags and with the id that belongs to them.  So
two connections are shared as the same text just if they have the same three texts. -/
theorem decode_shared (c : Connection) (before after : String)
    (hbefore : ∀ b ∈ before.toList, isBlank b = true)
    (hafter : ∀ b ∈ after.toList, isBlank b = true) :
    decode (before ++ c.encode ++ after) = .ok (make c.transport c.secret c.addr) ∧
      make c.transport c.secret c.addr =
        ⟨c.transport, c.secret, c.addr, false, false, derivedId c.transport c.secret c.addr⟩ ∧
      ∀ d : Connection, c.encode = d.encode ↔
        c.transport = d.transport ∧ c.secret = d.secret ∧ c.addr = d.addr :=
  ⟨c.decode_encode hbefore hafter, make_eq .., c.encode_eq_iff⟩

/-- A connection with a secret of which each character is written in another way. -/
def intricate : Connection :=
  ⟨"obfs4", "\"\\\n\x01/é😀", "198.51.100.3:443", true, true, "an older id"⟩

theorem decode_shared_intricate :
    (∀ b ∈ "\t\u3000".toList, isBlank b = true) ∧ (∀ b ∈ "\r\n".toList, isBlank b = true) ∧
      decode ("\t\u3000" ++ intricate.encode ++ "\r\n") =
        .ok (make "obfs4" "\"\\\n\x01/é😀" "198.51.100.3:443") := by
  have hbefore : ∀ b ∈ "\t\u3000".toList, isBlank b = true := List.all_eq_true.1 (by decide)
  have hafter : ∀ b ∈ "\r\n".toList, isBlank b = true := List.all_eq_true.1 (by decide)
  exact ⟨hbefore, hafter, (decode_shared intricate _ _ hbefore hafter).1⟩

end Failover.Connection
