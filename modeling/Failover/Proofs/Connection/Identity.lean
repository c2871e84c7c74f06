/-
  Failover.Proofs.Connection.Identity
  ───────────────────────────────────
  **Which connections have the same id.**  An id is the digest, in symbols,
  of one text in which each part stands behind its label:

      ADDR addr TRANSPORT transport SECRET secret

  As far as the digest tells texts apart, two connections have the same id
  just if these texts are the same.  But nothing keeps a label out of the
  parts, and then the text can be taken apart in more than one way:

      ADDR TRANSPORT a SECRET b SECRET c      transport a, secret bSECRETc
                                              transport aSECRETb, secret c

  Where every label is found behind its part and nowhere before, there is
  only one way.  A connection like that is plain, and every id belongs to
  exactly one plain connection.

  Main statement: `make_id_eq_iff`.
-/
import Failover.Proofs.Connection.Sharing

namespace Failover.Connection

open Bytes Text

/-! ## §1. Labels. -/

/-- A label that follows a part begins nowhere before the end of the part. -/
def Marks (label part : List Char) : Prop := ¬label <:+: part ++ label.dropLast

instance (label part : List Char) : Decidable (Marks label part) :=
  inferInstanceAs (Decidable (¬label <:+: part ++ label.dropLast))

/-- A label at the beginning of a text is found in as much of the text as it needs. -/
theorem isPrefix_dropLast {label between rest : List Char} (hne : between ≠ [])
    (h : label <+: between ++ (label ++ rest)) : label <+: between ++ label.dropLast := by
  have hlen : label.length ≤ (between ++ label.dropLast).length := by
    have hpos := List.length_pos_iff.2 hne
    rw [List.length_append, List.length_dropLast]
    omega
  have hpre : between ++ label.dropLast <+: between ++ (label ++ rest) :=
    (List.prefix_append_right_inj between).2 ((List.dropLast_prefix label).trans
      (List.prefix_append label rest))
  exact List.prefix_of_prefix_length_le h hpre hlen

/-- Of two parts with the same label behind them, neither goes on where the other one ends. -/
theorem Marks.eq_nil {label part between rest rest' : List Char}
    (hm : Marks label (part ++ between)) (h : label ++ rest = between ++ (label ++ rest')) :
    between = [] := by
  refine Classical.byContradiction fun hne => hm ?_
  have hpre : label <+: between ++ label.dropLast :=
    isPrefix_dropLast hne (h ▸ List.prefix_append label rest)
  rw [List.append_assoc]
  exact hpre.isInfix.trans (List.suffix_append part _).isInfix

/-- **A label that marks the part before it is found**: there is one way to take the text apart. -/
theorem Marks.append_inj {label part part' rest rest' : List Char} (hm : Marks label part)
    (hm' : Marks label part') (h : part ++ (label ++ rest) = part' ++ (label ++ rest')) :
    part = part' ∧ rest = rest' := by
  have hparts : part = part' := by
    rcases List.append_eq_append_iff.1 h with ⟨between, rfl, heq⟩ | ⟨between, rfl, heq⟩
    · rw [hm'.eq_nil heq, List.append_nil]
    · rw [hm.eq_nil heq, List.append_nil]
  subst hparts
  exact ⟨rfl, List.append_cancel_left (List.append_cancel_left h)⟩

/-- Every text with a label in it can be taken apart at a place where the label marks the part
before it; what was behind the label stays behind it. -/
theorem exists_marks (label : List Char) (hne : label ≠ []) (part rest : List Char) :
    ∃ part' between, Marks label part' ∧
      part ++ (label ++ rest) = part' ++ (label ++ (between ++ rest)) := by
  by_cases hm : Marks label part
  · exact ⟨part, [], hm, rfl⟩
  · obtain ⟨before, after, heq⟩ := Classical.not_not.1 hm
    -- The label begins earlier, with at least its last character to spare.
    have hlast : label = label.dropLast ++ [label.getLast hne] :=
      (List.dropLast_concat_getLast hne).symm
    have hlen : before.length < part.length := by
      have hcount := congrArg List.length heq
      have hpos := List.length_pos_iff.2 hne
      simp only [List.length_append, List.length_dropLast] at hcount
      omega
    obtain ⟨part', between, hm', hcut⟩ :=
      exists_marks label hne before (after ++ label.getLast hne :: rest)
    refine ⟨part', between ++ after ++ [label.getLast hne], hm', ?_⟩
    calc part ++ (label ++ rest)
        = part ++ ((label.dropLast ++ [label.getLast hne]) ++ rest) := by rw [← hlast]
      _ = (part ++ label.dropLast) ++ label.getLast hne :: rest := by simp
      _ = before ++ (label ++ (after ++ label.getLast hne :: rest)) := by simp [← heq]
      _ = part' ++ (label ++ (between ++ after ++ [label.getLast hne] ++ rest)) := by simp [hcut]
termination_by part.length

/-! ## §2. The text of an id. -/

/-- The three parts of a connection behind their labels. -/
def labelled (transport secret addr : String) : List Char :=
  "ADDR".toList ++ (addr.toList ++ ("TRANSPORT".toList ++ (transport.toList ++
    ("SECRET".toList ++ secret.toList))))

/-- An id is the digest of the bytes of this text. -/
theorem idSource_eq (transport secret addr : String) :
    idSource transport secret addr = Utf8.encode (labelled transport secret addr) := by
  unfold idSource labelled Utf8.bytesOf
  simp only [Utf8.encode_append, List.append_assoc]

/-- The labels behind the address and behind the transport are found nowhere before. -/
structure IsPlain (transport addr : String) : Prop where
  addr : Marks "TRANSPORT".toList addr.toList
  transport : Marks "SECRET".toList transport.toList

variable {transport secret addr transport' secret' addr' : String}

/-- The text of a plain connection decides its three parts. -/
theorem IsPlain.labelled_inj (h : IsPlain transport addr) (h' : IsPlain transport' addr')
    (heq : labelled transport secret addr = labelled transport' secret' addr') :
    transport = transport' ∧ secret = secret' ∧ addr = addr' := by
  have hbody := List.append_cancel_left heq
  obtain ⟨haddr, hrest⟩ := h.addr.append_inj h'.addr hbody
  obtain ⟨htransport, hsecret⟩ := h.transport.append_inj h'.transport hrest
  exact ⟨String.toList_injective htransport, String.toList_injective hsecret,
    String.toList_injective haddr⟩

/-- Every text can be read as that of a plain connection. -/
theorem exists_isPlain (transport secret addr : String) :
    ∃ t s a, IsPlain t a ∧ labelled t s a = labelled transport secret addr := by
  obtain ⟨a, between, ha, hcut⟩ := exists_marks "TRANSPORT".toList (by decide) addr.toList
    (transport.toList ++ ("SECRET".toList ++ secret.toList))
  obtain ⟨t, between', ht, hcut'⟩ := exists_marks "SECRET".toList (by decide)
    (between ++ transport.toList) secret.toList
  have hlist (l : List Char) : (String.ofList l).toList = l := String.toList_ofList
  refine ⟨String.ofList t, String.ofList (between' ++ secret.toList), String.ofList a, ⟨?_, ?_⟩, ?_⟩
  · rw [hlist a]
    exact ha
  · rw [hlist t]
    exact ht
  · unfold labelled
    rw [hlist a, hlist t, hlist (between' ++ _), hcut, ← hcut', List.append_assoc between]

/-! ## §3. Ids. -/

/-- Ids are the same just if the digests are. -/
theorem make_id_eq_iff_digest :
    (make transport secret addr).id = (make transport' secret' addr').id ↔
      Sha256.digest (idSource transport secret addr) =
        Sha256.digest (idSource transport' secret' addr') := by
  rw [make_eq, make_eq]
  unfold derivedId
  constructor
  · intro h
    exact Base64.encodeBare_injective (String.ofList_injective h)
  · intro h
    rw [h]

/-- Where the digest tells two texts apart, ids are the same just if the texts are. -/
theorem make_id_eq_iff_labelled
    (hdigest : Sha256.digest (idSource transport secret addr) =
        Sha256.digest (idSource transport' secret' addr') →
      idSource transport secret addr = idSource transport' secret' addr') :
    (make transport secret addr).id = (make transport' secret' addr').id ↔
      labelled transport secret addr = labelled transport' secret' addr' := by
  rw [make_id_eq_iff_digest]
  constructor
  · intro h
    have hsource := hdigest h
    rw [idSource_eq, idSource_eq] at hsource
    exact Utf8.encode_injective hsource
  · intro h
    rw [idSource_eq, idSource_eq, h]

/-- **Which connections have the same id.**  If the digest tells their texts apart, just those
whose parts make the same text behind their labels.  So the ids of plain connections are the same
just if all three parts are; and every connection has the id of some plain one. -/
theorem make_id_eq_iff
    (hdigest : Sha256.digest (idSource transport secret addr) =
        Sha256.digest (idSource transport' secret' addr') →
      idSource transport secret addr = idSource transport' secret' addr') :
    ((make transport secret addr).id = (make transport' secret' addr').id ↔
        labelled transport secret addr = labelled transport' secret' addr') ∧
      (IsPlain transport addr → IsPlain transport' addr' →
        ((make transport secret addr).id = (make transport' secret' addr').id ↔
          transport = transport' ∧ secret = secret' ∧ addr = addr')) ∧
      ∃ t s a, IsPlain t a ∧ (make t s a).id = (make transport secret addr).id := by
  refine ⟨make_id_eq_iff_labelled hdigest, fun h h' => ?_, ?_⟩
  · rw [make_id_eq_iff_labelled hdigest]
    constructor
    · exact h.labelled_inj h'
    · rintro ⟨rfl, rfl, rfl⟩
      rfl
  · obtain ⟨t, s, a, hplain, hlabelled⟩ := exists_isPlain transport secret addr
    refine ⟨t, s, a, hplain, make_id_eq_iff_digest.2 ?_⟩
    rw [idSource_eq, idSource_eq, hlabelled]

/-- A connection with a label as its secret is told from the one without a secret. -/
theorem make_id_eq_iff_secrets :
    (Sha256.digest (idSource "obfs4" "" "198.51.100.3:443") =
        Sha256.digest (idSource "obfs4" "SECRET" "198.51.100.3:443") →
      idSource "obfs4" "" "198.51.100.3:443" = idSource "obfs4" "SECRET" "198.51.100.3:443") ∧
    IsPlain "obfs4" "198.51.100.3:443" ∧
    (make "obfs4" "" "198.51.100.3:443").id ≠ (make "obfs4" "SECRET" "198.51.100.3:443").id := by
  have hdigest : Sha256.digest (idSource "obfs4" "" "198.51.100.3:443") =
        Sha256.digest (idSource "obfs4" "SECRET" "198.51.100.3:443") →
      idSource "obfs4" "" "198.51.100.3:443" = idSource "obfs4" "SECRET" "198.51.100.3:443" := by
    intro h
    exact absurd h (by decide +kernel)
  have hplain : IsPlain "obfs4" "198.51.100.3:443" := ⟨by decide +kernel, by decide +kernel⟩
  refine ⟨hdigest, hplain, fun h => ?_⟩
  obtain ⟨-, hsecret, -⟩ := ((make_id_eq_iff hdigest).2.1 hplain hplain).1 h
  exact absurd hsecret (by decide)

/-- **Ids do not tell all connections apart**, whatever the digest does: with a label inside a
secret or a transport, two connections have the very same text. -/
theorem not_make_id_injective :
    ¬∀ transport secret addr transport' secret' addr' : String,
      (Sha256.digest (idSource transport secret addr) =
          Sha256.digest (idSource transport' secret' addr') →
        idSource transport secret addr = idSource transport' secret' addr') →
      ((make transport secret addr).id = (make transport' secret' addr').id ↔
        transport = transport' ∧ secret = secret' ∧ addr = addr') := by
  intro h
  have htext : labelled "a" "bSECRETc" "" = labelled "aSECRETb" "c" "" := by decide +kernel
  have hsource : idSource "a" "bSECRETc" "" = idSource "aSECRETb" "c" "" := by
    rw [idSource_eq, idSource_eq, htext]
  have hid : (make "a" "bSECRETc" "").id = (make "aSECRETb" "c" "").id := by
    rw [make_id_eq_iff_digest, hsource]
  have hparts := (h "a" "bSECRETc" "" "aSECRETb" "c" "" fun _ => hsource).1 hid
  exact absurd hparts.1 (by decide)

end Failover.Connection
