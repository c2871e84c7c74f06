/-
  Failover.Proofs.Json.Record
  ───────────────────────────
  **A record that was written is read back.**  Writing puts all members in
  the order of the fields, so reading finds the members of a document

      { m₀ , m₁ , … }

  one after the other, and when `k` of them were read just the first `k`
  slots of the draft are filled (`Draft.upTo`).  One member moves the draft
  from `k` to `k + 1` (`readInto_upTo`), because no earlier field answers to
  its name; the members that are left fill all slots (`yields_readMembers`).

  Main statement: `recordOf_writeRecord`.
-/
import Failover.Json.Record
import Failover.Proofs.Json.Reading

namespace Failover

/-- The draft in which the first `k` slots are filled. -/
def Draft.upTo : Nat → (fields : List Field) → Values fields → Draft fields
  | _, [], _ => ()
  | 0, _ :: rest, (_, vs) => (none, upTo 0 rest vs)
  | k + 1, _ :: rest, (v, vs) => (some v, upTo k rest vs)

theorem Draft.upTo_zero (fields : List Field) (vs : Values fields) :
    upTo 0 fields vs = blank fields := by
  induction fields with
  | nil => rfl
  | cons f rest ih =>
      obtain ⟨v, vs⟩ := vs
      exact congrArg (Prod.mk none) (ih vs)

theorem Draft.upTo_of_length_le {fields : List Field} (vs : Values fields) {k : Nat}
    (h : fields.length ≤ k) : upTo k fields vs = full fields vs := by
  induction fields generalizing k with
  | nil => rfl
  | cons f rest ih =>
      obtain ⟨v, vs⟩ := vs
      cases k with
      | zero => exact absurd h (Nat.not_succ_le_zero _)
      | succ k => exact congrArg (Prod.mk (some v)) (ih vs (Nat.le_of_succ_le_succ h))

namespace Json

open Reader

/-! ## §1. Values. -/

theorem yields_firstByte {b : UInt8} (h : isBlank b = false) (rest : List UInt8) :
    Yields firstByte (b :: rest) b (b :: rest) :=
  (yields_afterBlanks h rest).bind (.pure b _)

/-- A quoted text is read back. -/
theorem yields_readString (expected : String) (s : String) (rest : List UInt8) :
    Yields (readString expected) (Text.Utf8.encode (quoted s.toList) ++ rest) s rest := by
  rw [encode_quoted]
  refine .placed ((yields_firstByte (by decide) _).bind ?_)
  rw [if_pos rfl]
  exact (yields_skip _ _).bind (yields_readText s rest)

/-- Values of this type are read back, whatever follows them. -/
def Legible (t : Scalar) : Prop :=
  ∀ (v : t.Value) (rest : List UInt8),
    Yields (readScalar t) (Text.Utf8.encode (writeScalar t v) ++ rest) v rest

theorem legible_text : Legible .text := yields_readString "a string"

/-! ## §2. One member. -/

theorem yields_colon (rest : List UInt8) : Yields colon (byte ':' :: rest) () rest := by
  refine (yields_afterBlanks (by decide) _).bind ?_
  exact yields_skip _ _

/-- A value under a name takes the draft `before` to the draft `after`. -/
def Fills (fields : List Field) (name : String) (value : List Char)
    (before after : Draft fields) : Prop :=
  ∃ x, readInto fields name before = some x ∧
    ∀ rest, Yields x (byte ':' :: (Text.Utf8.encode value ++ rest)) after rest

section
variable {f : Field} {more : List Field} {name : String}

theorem readInto_cons (slot : Option f.type.Value) (others : Draft more) :
    readInto (f :: more) name (slot, others) =
      if f.answers name then
        some (if slot.isSome then raise (.duplicateField f.name)
          else do
            colon
            return (some (← readScalar f.type), others))
      else (readInto more name others).map fun x => do return (slot, ← x) := rfl

/-- The first field takes the value if it answers to the name. -/
theorem fills_here (hname : f.answers name = true) (htype : Legible f.type) (v : f.type.Value)
    (others : Draft more) :
    Fills (f :: more) name (writeScalar f.type v) (none, others) (some v, others) := by
  refine ⟨do colon; return (some (← readScalar f.type), others), ?_, fun rest => ?_⟩
  · rw [readInto_cons, if_pos hname]
    rfl
  · exact (yields_colon _).bind ((htype v rest).bind (.pure _ _))

/-- Else the value goes to the fields behind it. -/
theorem fills_there {value : List Char} {before after : Draft more}
    (hname : f.answers name = false) (h : Fills more name value before after)
    (slot : Option f.type.Value) :
    Fills (f :: more) name value (slot, before) (slot, after) := by
  obtain ⟨x, hx, hyields⟩ := h
  refine ⟨do return (slot, ← x), ?_, fun rest => (hyields rest).bind (.pure _ _)⟩
  rw [readInto_cons, hname, hx]
  rfl

end

/-- Fields whose written names and values are not mistaken for others. -/
structure Unambiguous (fields : List Field) : Prop where
  /-- No field answers to the name of a later one. -/
  names : fields.Pairwise fun f g => f.answers g.name = false
  legible : ∀ f ∈ fields, Legible f.type

/-- The member behind `k` others fills the slot with the number `k`. -/
theorem fills_upTo {fields : List Field} (h : Unambiguous fields) (vs : Values fields) {k : Nat}
    {member : List Char} (hk : (writeMembers fields vs)[k]? = some member) :
    ∃ f ∈ fields, ∃ value, member = quoted f.name.toList ++ ':' :: value ∧
      Fills fields f.name value (.upTo k fields vs) (.upTo (k + 1) fields vs) := by
  induction fields generalizing k with
  | nil => cases hk
  | cons f more ih =>
      obtain ⟨v, vs⟩ := vs
      obtain ⟨hfirst, hnames⟩ := List.pairwise_cons.1 h.names
      obtain ⟨htype, htypes⟩ := List.forall_mem_cons.1 h.legible
      cases k with
      | zero =>
          cases hk
          refine ⟨f, List.mem_cons_self, _, rfl, fills_here ?_ htype v _⟩
          simp only [Field.answers, beq_self_eq_true, Bool.true_or]
      | succ k =>
          -- The name belongs to a later field, to which the first one does not answer.
          obtain ⟨g, hg, value, hmember, hfills⟩ := ih ⟨hnames, htypes⟩ vs hk
          exact ⟨g, List.mem_cons_of_mem _ hg, value, hmember,
            fills_there (hfirst g hg) hfills (some v)⟩

/-! ## §3. All members. -/

/-- Members with a comma between each two, and one before them unless the object begins there. -/
def separated (first : Bool) (members : List (List Char)) : List Char :=
  if first then commaSeparated members else members.flatMap (',' :: ·)

theorem separated_cons (first : Bool) (member : List Char) (others : List (List Char)) :
    separated first (member :: others) =
      (if first then [] else [',']) ++ (member ++ separated false others) := by
  cases first with
  | false => rfl
  | true =>
      change commaSeparated (member :: others) = member ++ others.flatMap (',' :: ·)
      induction others generalizing member with
      | nil => exact (List.append_nil member).symm
      | cons next others ih =>
          rw [List.flatMap_cons, List.cons_append, ← ih next]
          rfl

/-- There is a comma for each member but the first. -/
theorem length_le_separated (members : List (List Char)) :
    members.length ≤ (separated true members).length + 1 := by
  have hcommas : ∀ others : List (List Char), others.length ≤ (separated false others).length := by
    intro others
    induction others with
    | nil => exact Nat.zero_le _
    | cons member others ih =>
        rw [separated_cons]
        simp only [Bool.false_eq_true, if_false, List.length_append, List.length_cons,
          List.length_nil]
        omega
  cases members with
  | nil => exact Nat.zero_le _
  | cons member others =>
      have hothers := hcommas others
      rw [separated_cons]
      simp only [if_true, List.nil_append, List.length_append, List.length_cons]
      omega

theorem length_writeMembers (fields : List Field) (vs : Values fields) :
    (writeMembers fields vs).length = fields.length := by
  induction fields with
  | nil => rfl
  | cons f rest ih =>
      obtain ⟨v, vs⟩ := vs
      exact congrArg (· + 1) (ih vs)

/-- A quotation mark, behind a comma unless it is the first member, begins a member. -/
theorem yields_hasMember (first : Bool) (rest : List UInt8) :
    Yields (hasMember first)
      ((if first then [] else [byte ',']) ++ byte '"' :: rest) true (byte '"' :: rest) := by
  cases first with
  | true => exact (yields_afterBlanks (by decide) _).bind (.pure _ _)
  | false =>
      refine (yields_afterBlanks (by decide) _).bind ?_
      exact (yields_skip _ _).bind ((yields_afterBlanks (by decide) _).bind (.pure _ _))

theorem yields_hasMember_end (first : Bool) (rest : List UInt8) :
    Yields (hasMember first) (byte '\x7d' :: rest) false (byte '\x7d' :: rest) :=
  (yields_afterBlanks (by decide) _).bind (.pure _ _)

/-- One round: a member is read into the draft, and reading goes on behind it. -/
theorem yields_readMembers_cons {fields : List Field} {name : String} {value : List Char}
    {before after done : Draft fields} (hfills : Fills fields name value before after)
    {fuel : Nat} (first : Bool) {others rest : List UInt8}
    (hothers : Yields (readMembers fields fuel false after) others done rest) :
    Yields (readMembers fields (fuel + 1) first before)
      ((if first then [] else [byte ',']) ++
        (Text.Utf8.encode (quoted name.toList ++ ':' :: value) ++ others)) done rest := by
  obtain ⟨x, hx, hyields⟩ := hfills
  have hname : Text.Utf8.encode (quoted name.toList ++ ':' :: value) ++ others =
      byte '"' :: (Text.Utf8.encode (name.toList.flatMap escaped) ++
        byte '"' :: (byte ':' :: (Text.Utf8.encode value ++ others))) := by
    rw [Text.Utf8.encode_append, List.append_assoc, encode_quoted]
    rfl
  rw [hname]
  unfold readMembers
  refine (yields_hasMember first _).bind ?_
  rw [if_pos rfl]
  refine (yields_skip _ _).bind ((yields_readText name _).bind ?_)
  simp only [hx]
  exact (hyields others).bind hothers

/-- **The members behind the first `k` fill the slots that are left.** -/
theorem yields_readMembers {fields : List Field} (h : Unambiguous fields) (vs : Values fields)
    (rest : List UInt8) {members : List (List Char)} {k fuel : Nat} (first : Bool)
    (hk : (writeMembers fields vs).drop k = members) (hfuel : members.length < fuel) :
    Yields (readMembers fields fuel first (.upTo k fields vs))
      (Text.Utf8.encode (separated first members) ++ byte '\x7d' :: rest)
      (.full fields vs) (byte '\x7d' :: rest) := by
  -- Induction on the members that are left: `k` are read, and each round reads one more.
  induction members generalizing k fuel first with
  | nil =>
      obtain ⟨fuel, rfl⟩ := Nat.exists_eq_add_of_lt hfuel
      have hlength : fields.length ≤ k := by
        rw [← length_writeMembers fields vs]
        exact List.drop_eq_nil_iff.1 hk
      have hnone : separated first [] = [] := by cases first <;> rfl
      rw [Draft.upTo_of_length_le vs hlength, hnone]
      exact (yields_hasMember_end first rest).bind (.pure _ _)
  | cons member others ih =>
      obtain ⟨fuel, rfl⟩ := Nat.exists_eq_add_of_lt hfuel
      have hmember : (writeMembers fields vs)[k]? = some member := by
        rw [← List.head?_drop, hk, List.head?_cons]
      have hothers : (writeMembers fields vs).drop (k + 1) = others := by
        rw [← List.tail_drop, hk, List.tail_cons]
      obtain ⟨f, -, value, rfl, hfills⟩ := fills_upTo h vs hmember
      have hround := yields_readMembers_cons hfills first
        (ih false hothers (show others.length < others.length + 1 + fuel by omega))
      rw [separated_cons, Text.Utf8.encode_append, Text.Utf8.encode_append, List.append_assoc,
        List.append_assoc]
      cases first <;> exact hround

/-! ## §4. Records. -/

theorem yields_endObject (rest : List UInt8) : Yields endObject (byte '\x7d' :: rest) () rest :=
  (yields_afterBlanks (by decide) _).bind (yields_skip _ _)

/-- **A record that was written is read back.** -/
theorem recordOf_writeRecord (r : Record) (h : Unambiguous r.fields) (vs : Values r.fields) :
    recordOf r (Text.Utf8.encode (writeRecord r.fields vs)) = .ok vs := by
  apply whole_of_yields
  have hbytes : Text.Utf8.encode (writeRecord r.fields vs) =
      byte '\x7b' ::
        (Text.Utf8.encode (separated true (writeMembers r.fields vs)) ++ [byte '\x7d']) := by
    unfold writeRecord
    rw [Text.Utf8.encode_append]
    rfl
  -- There are at least as many bytes as members, so the rounds suffice.
  have hrounds : (writeMembers r.fields vs).length <
      (Text.Utf8.encode (separated true (writeMembers r.fields vs)) ++
        [byte '\x7d']).length + 1 := by
    have hchars := length_le_separated (writeMembers r.fields vs)
    have hbytes := Text.Utf8.length_le_length_encode (separated true (writeMembers r.fields vs))
    rw [List.length_append, List.length_singleton]
    omega
  have hmembers := yields_readMembers (k := 0) h vs [] true rfl hrounds
  rw [Draft.upTo_zero] at hmembers
  rw [hbytes]
  refine .placed ((yields_firstByte (by decide) _).bind ?_)
  rw [if_pos rfl]
  refine (yields_skip _ _).bind (.closing ?_ (yields_endObject []))
  refine (yields_left _).bind (hmembers.bind ?_)
  simp only [Draft.complete_full]
  exact .pure vs _

end Json

end Failover
