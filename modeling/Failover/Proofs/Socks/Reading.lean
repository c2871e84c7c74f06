/-
  Failover.Proofs.Socks.Reading
  ─────────────────────────────
  **What an address comes to, whatever the bytes.**  A type byte tells how
  many bytes belong to the address, and the two behind it are the port:

      type 1     a a a a              high low
      type 4     a a … a (16 bytes)   high low
      type 3     n  b₁ b₂ … bₙ        high low
      others     nothing is read

  Bytes of such a shape are an address with its port, but for a name that
  is no text.  So a stream behind a type byte comes to one of four things:
  an address, a name that is no text, its end within the address, or a
  type that nobody knows; in all of them exactly the bytes of the address
  are read.

  Main statements: `encode_eq_ok_iff` — what is written of an address is
  what means it — and `yields_read_of_reads` with `exists_reads`.
-/
import Mathlib.Data.List.Basic
import Failover.Proofs.Text.Utf8
import Failover.Proofs.Socks.Messages

namespace Failover.Socks.Address

open Bytes Net Exchange Text

/-! ## §1. Shapes. -/

/-- The types of addresses. -/
def types : List UInt8 := [1, 3, 4]

/-- **The bytes of an address** of a type, whatever they are. -/
inductive Shaped : UInt8 → List UInt8 → Prop where
  | v4 {bytes : List UInt8} (h : bytes.length = 4) : Shaped 1 bytes
  | v6 {bytes : List UInt8} (h : bytes.length = 16) : Shaped 4 bytes
  | domain {n : UInt8} {bytes : List UInt8} (h : bytes.length = n.toNat) : Shaped 3 (n :: bytes)

/-- **The address that they are.** -/
inductive Denotes : UInt8 → List UInt8 → Address → Prop where
  | v4 (octets : Octets 4) : Denotes 1 octets.bytes (.ip (.v4 octets))
  | v6 (octets : Octets 16) : Denotes 4 octets.bytes (.ip (.v6 octets))
  | domain {n : UInt8} {name : String} (h : (Utf8.bytesOf name).length = n.toNat) :
      Denotes 3 (n :: Utf8.bytesOf name) (.domain name)

/-- An address of a type with two bytes for a port. -/
def Complete (type : UInt8) (place : List UInt8) : Prop :=
  ∃ body high low, place = body ++ [high, low] ∧ Shaped type body

/-- **What bytes spell**: an address and, high byte first, a port. -/
def Spells (type : UInt8) (place : List UInt8) (a : Address) (port : UInt16) : Prop :=
  ∃ body high low, place = body ++ [high, low] ∧ Denotes type body a ∧
    port.toNat = high.toNat * 256 + low.toNat

/-- A name that is no text, with two bytes for a port. -/
def Garbles (type : UInt8) (place : List UInt8) (m : Utf8.Malformed) : Prop :=
  type = 3 ∧ ∃ n name high low, place = n :: (name ++ [high, low]) ∧ name.length = n.toNat ∧
    Utf8.textOf name = .error m

/-- How many bytes an address of a type has with its port, if these are the first ones. -/
def extent (type : UInt8) (bytes : List UInt8) : Nat :=
  match type with
  | 1 => 6
  | 3 =>
      match bytes.head? with
      | some n => n.toNat + 3
      | none => 1
  | 4 => 18
  | _ => 0

variable {type : UInt8} {body place rest bytes : List UInt8} {a : Address} {port : UInt16}
  {m : Utf8.Malformed}

/-- Two bytes at the end. -/
theorem exists_port {n : Nat} (h : place.length = n + 2) :
    ∃ body high low, place = body ++ [high, low] ∧ body.length = n := by
  have hport : (place.drop n).length = 2 := by
    rw [List.length_drop]
    omega
  obtain ⟨high, low, hport⟩ := List.length_eq_two.1 hport
  refine ⟨place.take n, high, low, ?_, ?_⟩
  · rw [← hport, List.take_append_drop]
  · rw [List.length_take]
    omega

/-- **An address is complete** if its type is known and no byte is missing. -/
theorem complete_iff : Complete type place ↔ type ∈ types ∧ place.length = extent type place := by
  constructor
  · rintro ⟨body, high, low, rfl, hbody⟩
    cases hbody with
    | v4 h | v6 h => exact ⟨by decide, by rw [List.length_append, h]; rfl⟩
    | domain h =>
        refine ⟨by decide, ?_⟩
        rw [List.cons_append, List.length_cons, List.length_append, h]
        rfl
  · rintro ⟨htype, hlength⟩
    simp only [types, List.mem_cons, List.not_mem_nil, or_false] at htype
    rcases htype with rfl | rfl | rfl
    · obtain ⟨body, high, low, hplace, hbody⟩ := exists_port (n := 4) hlength
      exact ⟨body, high, low, hplace, .v4 hbody⟩
    · cases place with
      | nil => cases hlength
      | cons n name =>
          have hname : name.length = n.toNat + 2 := Nat.succ.inj hlength
          obtain ⟨body, high, low, rfl, hbody⟩ := exists_port hname
          exact ⟨n :: body, high, low, rfl, .domain hbody⟩
    · obtain ⟨body, high, low, hplace, hbody⟩ := exists_port (n := 16) hlength
      exact ⟨body, high, low, hplace, .v6 hbody⟩

/-- How many bytes there are is told by the first one. -/
theorem extent_append (h : place ≠ []) (rest : List UInt8) :
    extent type (place ++ rest) = extent type place := by
  unfold extent
  rw [List.head?_append_of_ne_nil _ h]

theorem extent_pos (h : type ∈ types) (bytes : List UInt8) : 0 < extent type bytes := by
  simp only [types, List.mem_cons, List.not_mem_nil, or_false] at h
  rcases h with rfl | rfl | rfl
  · exact Nat.succ_pos _
  · cases bytes <;> exact Nat.succ_pos _
  · exact Nat.succ_pos _

/-- No byte belongs to an address of an unknown type. -/
theorem extent_of_unknown (h : type ∉ types) : extent type bytes = 0 := by
  simp only [types, List.mem_cons, List.not_mem_nil, or_false, not_or] at h
  unfold extent
  split
  · exact absurd rfl h.1
  · exact absurd rfl h.2.1
  · exact absurd rfl h.2.2
  · rfl

/-- Behind a complete address there is the rest. -/
theorem Complete.drop_extent (h : Complete type place) (rest : List UInt8) :
    (place ++ rest).drop (extent type (place ++ rest)) = rest := by
  obtain ⟨htype, hlength⟩ := complete_iff.1 h
  have hne : place ≠ [] := by
    rintro rfl
    have hpos := extent_pos htype []
    rw [← hlength] at hpos
    exact absurd hpos (Nat.lt_irrefl 0)
  rw [extent_append hne, List.drop_left' hlength]

/-- With enough bytes there is a complete address. -/
theorem exists_complete (htype : type ∈ types) (h : extent type bytes ≤ bytes.length) :
    ∃ place rest, bytes = place ++ rest ∧ Complete type place := by
  refine ⟨bytes.take (extent type bytes), bytes.drop (extent type bytes),
    (List.take_append_drop ..).symm, complete_iff.2 ⟨htype, ?_⟩⟩
  have hpos := extent_pos htype bytes
  have hne : bytes.take (extent type bytes) ≠ [] := by
    refine List.ne_nil_of_length_pos ?_
    rw [List.length_take]
    omega
  have hsame : extent type (bytes.take (extent type bytes) ++ bytes.drop (extent type bytes)) =
      extent type (bytes.take (extent type bytes)) := extent_append hne _
  rw [List.take_append_drop] at hsame
  rw [← hsame, List.length_take, Nat.min_eq_left h]

/-! ## §2. Meanings. -/

theorem Denotes.shaped (h : Denotes type body a) : Shaped type body := by
  cases h with
  | v4 octets => exact .v4 octets.length_eq
  | v6 octets => exact .v6 octets.length_eq
  | domain h => exact .domain h

theorem Spells.complete (h : Spells type place a port) : Complete type place := by
  obtain ⟨body, high, low, hplace, hbody, -⟩ := h
  exact ⟨body, high, low, hplace, hbody.shaped⟩

theorem Garbles.complete (h : Garbles type place m) : Complete type place := by
  obtain ⟨rfl, n, name, high, low, rfl, hname, -⟩ := h
  exact ⟨n :: name, high, low, rfl, .domain hname⟩

/-- **A complete address is one, or a name that is no text.** -/
theorem Complete.spells_or_garbles (h : Complete type place) :
    (∃ a port, Spells type place a port) ∨ ∃ m, Garbles type place m := by
  obtain ⟨body, high, low, rfl, hbody⟩ := h
  have hlt : high.toNat * 256 + low.toNat < UInt16.size := by
    have hhigh := high.toNat_lt
    have hlow := low.toNat_lt
    simp only [UInt16.size]
    omega
  have hport : (UInt16.ofNat (high.toNat * 256 + low.toNat)).toNat =
      high.toNat * 256 + low.toNat := UInt16.toNat_ofNat_of_lt hlt
  cases hbody with
  | v4 h => exact .inl ⟨_, _, _, _, _, rfl, .v4 ⟨body, h⟩, hport⟩
  | v6 h => exact .inl ⟨_, _, _, _, _, rfl, .v6 ⟨body, h⟩, hport⟩
  | @domain n bytes h =>
      cases htext : Utf8.textOf bytes with
      | ok name =>
          obtain rfl := Utf8.textOf_eq_ok_iff.1 htext
          exact .inl ⟨_, _, _, _, _, rfl, .domain h, hport⟩
      | error m => exact .inr ⟨m, rfl, n, bytes, high, low, rfl, h, htext⟩

/-- **What is written of an address is what means it.** -/
theorem encode_eq_ok_iff : a.encode = .ok (type :: body) ↔ Denotes type body a := by
  constructor
  · intro h
    rcases a with (octets | octets) | name
    · obtain ⟨rfl, rfl⟩ := List.cons.inj (Except.ok.inj h)
      exact .v4 octets
    · obtain ⟨rfl, rfl⟩ := List.cons.inj (Except.ok.inj h)
      exact .v6 octets
    · unfold encode at h
      dsimp only at h
      split at h
      · cases h
      · next hfits =>
        obtain ⟨rfl, rfl⟩ := List.cons.inj (Except.ok.inj h)
        refine .domain ?_
        rw [UInt8.toNat_ofNat']
        omega
  · intro h
    cases h with
    | v4 octets => rfl
    | v6 octets => rfl
    | @domain n name h =>
        have hlt : n.toNat < 256 := n.toNat_lt
        unfold encode
        dsimp only
        rw [if_neg (by omega), h, UInt8.ofNat_toNat]

/-- So is the port that is written of it. -/
theorem portBytes_eq {high low : UInt8} (h : port.toNat = high.toNat * 256 + low.toNat) :
    portBytes port = [high, low] := by
  have hhigh : port.toNat / 256 = high.toNat := by
    have hlt := low.toNat_lt
    omega
  have hlow : UInt8.ofNat port.toNat = low := by
    apply UInt8.toNat_inj.1
    have hlt : low.toNat < 256 := low.toNat_lt
    rw [UInt8.toNat_ofNat']
    omega
  unfold portBytes
  rw [hhigh, hlow, UInt8.ofNat_toNat]

/-- What bytes spell is what they would be written for. -/
theorem Spells.eq_append (h : Spells type place a port) :
    ∃ body, a.encode = .ok (type :: body) ∧ place = body ++ portBytes port := by
  obtain ⟨body, high, low, rfl, hbody, hport⟩ := h
  exact ⟨body, encode_eq_ok_iff.2 hbody, by rw [portBytes_eq hport]⟩

/-! ## §3. Streams. -/

/-- **What an address comes to**, of a type and behind its type byte. -/
inductive Reads (type : UInt8) (ending : Ending) (bytes : List UInt8) :
    Except Fault (Address × UInt16) → Prop where
  | spelled {place rest : List UInt8} {a : Address} {port : UInt16} (h : bytes = place ++ rest)
      (hplace : Spells type place a port) : Reads type ending bytes (.ok (a, port))
  | garbled {place rest : List UInt8} {m : Utf8.Malformed} (h : bytes = place ++ rest)
      (hplace : Garbles type place m) : Reads type ending bytes (.error (.parse (.domain m)))
  | short (htype : type ∈ types) (h : bytes.length < extent type bytes) :
      Reads type ending bytes (.error (.io ending.cause))
  | unknown (htype : type ∉ types) :
      Reads type ending bytes (.error (.protocol (.addressType type)))

/-- Every stream comes to something. -/
theorem exists_reads (type : UInt8) (ending : Ending) (bytes : List UInt8) :
    ∃ r, Reads type ending bytes r := by
  by_cases htype : type ∈ types
  · by_cases hlength : bytes.length < extent type bytes
    · exact ⟨_, .short htype hlength⟩
    · obtain ⟨place, rest, h, hplace⟩ := exists_complete htype (Nat.not_lt.1 hlength)
      rcases hplace.spells_or_garbles with ⟨a, port, hspells⟩ | ⟨m, hgarbles⟩
      · exact ⟨_, .spelled h hspells⟩
      · exact ⟨_, .garbled h hgarbles⟩
  · exact ⟨_, .unknown htype⟩

/-- Nothing is read of an unknown type. -/
theorem read_of_unknown (htype : type ∉ types) :
    read type = throw (.protocol (.addressType type)) := by
  simp only [types, List.mem_cons, List.not_mem_nil, or_false, not_or] at htype
  unfold read
  split
  · exact absurd rfl htype.1
  · exact absurd rfl htype.2.1
  · exact absurd rfl htype.2.2
  · rfl

/-- A name that is no text is read to its end and refused. -/
theorem yields_read_garbled (h : Garbles type place m) (rest : List UInt8) (ending : Ending)
    (written : List UInt8) :
    (read type).Yields ⟨place ++ rest, ending, written⟩ (.error (.parse (.domain m)))
      ⟨rest, ending, written⟩ := by
  obtain ⟨rfl, n, name, high, low, rfl, hname, htext⟩ := h
  have hlength : (name ++ [high, low]).length = n.toNat + 2 := by
    rw [List.length_append, hname]
    rfl
  refine (yields_readExact [n] (name ++ [high, low] ++ rest) rfl ending written).bind ?_
  refine (yields_readExact _ rest hlength ending written).bind ?_
  have hmake : split ofName n.toNat (name ++ [high, low]) = .error (.parse (.domain m)) := by
    unfold split ofName
    rw [List.take_left' hname, htext]
  show (ofResult (split ofName n.toNat (name ++ [high, low]))).Yields _ _ _
  rw [hmake]
  exact yields_ofResult _ _

/-- A stream that ends within the address is read to its end. -/
theorem yields_read_short (htype : type ∈ types) (h : bytes.length < extent type bytes)
    (ending : Ending) (written : List UInt8) :
    (read type).Yields ⟨bytes, ending, written⟩ (.error (.io ending.cause))
      ⟨[], ending, written⟩ := by
  simp only [types, List.mem_cons, List.not_mem_nil, or_false] at htype
  rcases htype with rfl | rfl | rfl
  · exact (yields_readExact_short h ending written).bind_error
  · cases bytes with
    | nil => exact (yields_readExact_short h ending written).bind_error
    | cons n name =>
        -- the length of the name is there, so the stream ends in the name or the port
        have hname : name.length < n.toNat + 2 := Nat.lt_of_succ_lt_succ h
        refine (yields_readExact [n] name rfl ending written).bind ?_
        exact (yields_readExact_short hname ending written).bind_error
  · exact (yields_readExact_short h ending written).bind_error

/-- **What an address comes to is what is made of it**, and its bytes are read and no others. -/
theorem yields_read_of_reads {ending : Ending} {r : Except Fault (Address × UInt16)}
    (h : Reads type ending bytes r) (written : List UInt8) :
    (read type).Yields ⟨bytes, ending, written⟩ r
      ⟨bytes.drop (extent type bytes), ending, written⟩ := by
  cases h with
  | @spelled place rest a port h hplace =>
      obtain ⟨body, hencode, rfl⟩ := hplace.eq_append
      rw [h, hplace.complete.drop_extent]
      exact yields_read hencode port rest ending written
  | @garbled place rest m h hplace =>
      rw [h, hplace.complete.drop_extent]
      exact yields_read_garbled hplace rest ending written
  | short htype h =>
      rw [List.drop_of_length_le (Nat.le_of_lt h)]
      exact yields_read_short htype h ending written
  | unknown htype =>
      rw [read_of_unknown htype, extent_of_unknown htype]
      exact yields_throw _ _

end Failover.Socks.Address

namespace Failover.Socks

/-- In front of an address there are four bytes, the last of which is its type; or the stream ends
before. -/
theorem short_or_header (bytes : List UInt8) :
    bytes.length < 4 ∨ ∃ a b c type rest, bytes = a :: b :: c :: type :: rest := by
  rcases bytes with _ | ⟨a, _ | ⟨b, _ | ⟨c, _ | ⟨type, rest⟩⟩⟩⟩
  iterate 4 exact .inl (by simp)
  exact .inr ⟨a, b, c, type, rest, rfl⟩

end Failover.Socks
