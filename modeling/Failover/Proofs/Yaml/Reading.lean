/-
  Failover.Proofs.Yaml.Reading
  ────────────────────────────
  **What stands in a document is read from it.**  Writing puts all fields
  of a record under their own names; reading looks for each field among
  all members, under any of its names.  So a record is read back if no
  field answers to the name of another one: of the members

      m₀ , … , mₖ₋₁ │ mₖ , mₖ₊₁ , …

  just `mₖ` answers to the field with the number `k`, and reading the
  fields from there on takes nothing from the members before.

  Main statements: `scalar_of_isAt`, `record_of_isAt` and
  `member_of_areMembers` — single values, records, and members that are
  read in ways of their own.
-/
import Failover.Yaml.Value
import Mathlib.Data.List.Forall2

namespace Failover.Yaml

namespace Value

variable {d : Document}

/-! ## §1. Lists and mappings, one by one. -/

theorem areItems_iff {vs : List Value} {ns : List Node} :
    areItems d vs ns = true ↔ List.Forall₂ (fun v n => v.isAt d n = true) vs ns := by
  induction vs generalizing ns with
  | nil => cases ns <;> simp [areItems]
  | cons v vs ih => cases ns <;> simp [areItems, ih]

theorem areMembers_iff {ms : List (String × Value)} {l : List (String × Node)} :
    areMembers d ms l = true ↔
      List.Forall₂ (fun m p => m.1 = p.1 ∧ m.2.isAt d p.2 = true) ms l := by
  induction ms generalizing l with
  | nil => cases l <;> simp [areMembers]
  | cons m ms ih => cases l <;> simp [areMembers, ih]

/-- The names are those of the data. -/
theorem names_of_areMembers {ms : List (String × Value)} {l : List (String × Node)}
    (h : areMembers d ms l = true) : l.map (·.1) = ms.map (·.1) := by
  induction areMembers_iff.1 h with
  | nil => rfl
  | cons hm hms ih => exact congrArg₂ List.cons hm.1.symm (ih (areMembers_iff.2 hms))

/-- Each member of the data stands under its name. -/
theorem exists_of_areMembers {ms : List (String × Value)} {l : List (String × Node)}
    (h : areMembers d ms l = true) {name : String} {v : Value} (hmem : (name, v) ∈ ms) :
    ∃ n, (name, n) ∈ l ∧ v.isAt d n = true := by
  induction areMembers_iff.1 h with
  | nil => cases hmem
  | @cons m p ms l hm hms ih =>
      rcases List.mem_cons.1 hmem with rfl | hmem
      · exact ⟨p.2, List.mem_cons.2 (.inl (Prod.ext hm.1 rfl)), hm.2⟩
      · obtain ⟨n, hn, hat⟩ := ih (areMembers_iff.2 hms) hmem
        exact ⟨n, List.mem_cons_of_mem p hn, hat⟩

theorem items_of_isAt {vs : List Value} {n : Node} (h : isAt d (.list vs) n = true) :
    ∃ ns, d.items n = some ns ∧ areItems d vs ns = true := by
  unfold isAt at h
  split at h
  · next ns hns => exact ⟨ns, hns, h⟩
  · cases h

theorem members_of_isAt {ms : List (String × Value)} {n : Node}
    (h : isAt d (.mapping ms) n = true) :
    ∃ l, d.members n = some l ∧ areMembers d ms l = true := by
  unfold isAt at h
  split at h
  · next l hl => exact ⟨l, hl, h⟩
  · cases h

end Value

namespace Document

open Value

variable {d : Document}

/-! ## §2. Single values. -/

theorem text_of_isAt {s : String} {n : Node} (h : isAt d (.text s) n = true) :
    d.text n = some s := by
  unfold isAt at h
  exact beq_iff_eq.1 (Bool.and_eq_true_iff.1 h).1

theorem maybeText_of_isAt {s : Option String} {n : Node}
    (h : (Value.maybeText s).isAt d n = true) : d.maybeText n = some s := by
  cases s with
  | none => exact beq_iff_eq.1 h
  | some s => exact beq_iff_eq.1 (Bool.and_eq_true_iff.1 h).2

/-- Reading a list is reading one after the other. -/
theorem mapM_eq_some_iff {α β : Type} {f : α → Option β} {l : List α} {bs : List β} :
    l.mapM f = some bs ↔ List.Forall₂ (fun a b => f a = some b) l bs := by
  induction l generalizing bs with
  | nil => simp [eq_comm]
  | cons a l ih =>
      rw [List.mapM_cons, List.forall₂_cons_left_iff, Option.bind_eq_bind, Option.bind_eq_some_iff]
      constructor
      · rintro ⟨b, hb, h⟩
        obtain ⟨rest, hrest, h⟩ := Option.bind_eq_some_iff.1 h
        exact ⟨b, rest, hb, ih.1 hrest, (Option.some.inj h).symm⟩
      · rintro ⟨b, rest, hb, hrest, rfl⟩
        exact ⟨b, hb, Option.bind_eq_some_iff.2 ⟨rest, ih.2 hrest, rfl⟩⟩

/-- **A value of a field is read back**, whatever its type is, if there are such fields. -/
theorem scalar_of_isAt {t : Scalar} (ht : t ≠ .double) {v : t.Value} {n : Node}
    (h : (ofScalar t v).isAt d n = true) : d.scalar t n = some v := by
  cases t with
  | text => exact text_of_isAt h
  | flag => exact beq_iff_eq.1 h
  | natural => exact beq_iff_eq.1 h
  | double => exact absurd rfl ht
  | texts =>
      obtain ⟨ns, hns, hitems⟩ := items_of_isAt h
      have hread : List.Forall₂ (fun n s => d.text n = some s) ns v := by
        have hall := List.forall₂_map_left_iff.1 (areItems_iff.1 hitems)
        exact (hall.imp fun _ _ hat => text_of_isAt hat).flip
      show (d.items n).bind (fun l => l.mapM d.text) = some v
      rw [hns]
      exact mapM_eq_some_iff.2 hread
  | path => exact maybeText_of_isAt h
  | maybeText => exact maybeText_of_isAt h

/-! ## §3. Members. -/

/-- A field takes the only member that answers to it. -/
theorem member_of_append {α : Type} {before behind : List (String × Node)} {name : String}
    {n : Node} {answers : String → Bool} (hbefore : ∀ m ∈ before, answers m.1 = false)
    (hname : answers name = true) (hbehind : ∀ m ∈ behind, answers m.1 = false)
    (default : Option α) (read : Node → Option α) :
    member (before ++ (name, n) :: behind) answers default read = read n := by
  have hnone {l : List (String × Node)} (hl : ∀ m ∈ l, answers m.1 = false) :
      l.filter (fun m => answers m.1) = [] := by
    refine List.filter_eq_nil_iff.2 fun m hm hans => ?_
    rw [hl m hm] at hans
    cases hans
  unfold member
  rw [List.filter_append, List.filter_cons_of_pos (by exact hname), hnone hbefore, hnone hbehind]
  rfl

/-- **A member is read back** in whatever way the data is read, if all names are different. -/
theorem member_of_areMembers {α : Type} {ms : List (String × Value)} {l : List (String × Node)}
    (h : areMembers d ms l = true) (hnames : (ms.map (·.1)).Nodup) {name : String} {v : Value}
    (hmem : (name, v) ∈ ms) {read : Node → Option α} {x : α}
    (hread : ∀ n, v.isAt d n = true → read n = some x) (default : Option α) :
    member l (· == name) default read = some x := by
  obtain ⟨n, hn, hat⟩ := exists_of_areMembers h hmem
  obtain ⟨before, behind, rfl⟩ := List.append_of_mem hn
  have hnodup : ((before ++ (name, n) :: behind).map (·.1)).Nodup :=
    (names_of_areMembers h) ▸ hnames
  rw [List.map_append, List.map_cons, List.nodup_append, List.nodup_cons] at hnodup
  obtain ⟨-, ⟨hbehind, -⟩, hbefore⟩ := hnodup
  refine (@member_of_append α before behind name n (· == name) (fun m hm => ?_)
    (beq_self_eq_true name) (fun m hm => ?_) default read).trans (hread n hat)
  · exact beq_eq_false_iff_ne.2
      (hbefore m.1 (List.mem_map_of_mem hm) name List.mem_cons_self)
  · have hmem : m.1 ∈ behind.map (·.1) := List.mem_map_of_mem hm
    exact beq_eq_false_iff_ne.2 fun hsame => hbehind (hsame ▸ hmem)

/-! ## §4. Records. -/

/-- Fields that are told apart by the names under which they are written, and whose values a
document can hold. -/
structure Writable (fields : List Field) : Prop where
  /-- No field answers to the name of another one. -/
  names : fields.Pairwise fun f g => f.answers g.name = false ∧ g.answers f.name = false
  types : ∀ f ∈ fields, f.type ≠ .double

/-- Every name of a record is that of a field. -/
theorem exists_field_of_mem_members {fields : List Field} {vs : Values fields} {name : String}
    (h : name ∈ (Value.members fields vs).map (·.1)) : ∃ f ∈ fields, f.name = name := by
  induction fields with
  | nil => cases h
  | cons f rest ih =>
      obtain ⟨v, vs⟩ := vs
      rcases List.mem_cons.1 h with rfl | h
      · exact ⟨f, List.mem_cons_self, rfl⟩
      · obtain ⟨g, hg, hname⟩ := ih h
        exact ⟨g, List.mem_cons_of_mem f hg, hname⟩

/-- **The fields that are left are read from the members that are left**, whatever stands before
them. -/
theorem fields_of_areMembers {fields : List Field} (hfields : Writable fields)
    (vs : Values fields) {before l : List (String × Node)}
    (hbefore : ∀ m ∈ before, ∀ f ∈ fields, f.answers m.1 = false)
    (h : areMembers d (Value.members fields vs) l = true) :
    d.fields (before ++ l) fields = some vs := by
  -- Induction on the fields: reading one of them moves its member to those before.
  induction fields generalizing before l with
  | nil => rfl
  | cons f rest ih =>
      obtain ⟨v, vs⟩ := vs
      obtain ⟨hfirst, hnames⟩ := List.pairwise_cons.1 hfields.names
      obtain ⟨htype, htypes⟩ := List.forall_mem_cons.1 hfields.types
      cases l with
      | nil => cases h
      | cons p l =>
          obtain ⟨name, n⟩ := p
          obtain ⟨hhere, hrest⟩ := Bool.and_eq_true_iff.1 h
          obtain ⟨hname, hat⟩ := Bool.and_eq_true_iff.1 hhere
          obtain rfl : f.name = name := beq_iff_eq.1 hname
          have hown : f.answers f.name = true := by
            unfold Field.answers
            rw [beq_self_eq_true, Bool.true_or]
          have hbehind : ∀ m ∈ l, f.answers m.1 = false := by
            intro m hm
            have hmem : m.1 ∈ (Value.members rest vs).map (·.1) :=
              names_of_areMembers hrest ▸ List.mem_map_of_mem hm
            obtain ⟨g, hg, hsame⟩ := exists_field_of_mem_members hmem
            rw [← hsame]
            exact (hfirst g hg).1
          have hread : member (before ++ (f.name, n) :: l) f.answers f.default (d.scalar f.type) =
              some v := by
            rw [member_of_append (fun m hm => hbefore m hm f List.mem_cons_self) hown hbehind]
            exact scalar_of_isAt htype hat
          have hothers : d.fields (before ++ (f.name, n) :: l) rest = some vs := by
            rw [List.append_cons]
            refine ih ⟨hnames, htypes⟩ vs (fun m hm g hg => ?_) hrest
            rcases List.mem_append.1 hm with hm | hm
            · exact hbefore m hm g (List.mem_cons_of_mem f hg)
            · obtain rfl := List.mem_singleton.1 hm
              exact (hfirst g hg).2
          unfold fields
          rw [hread, hothers]
          rfl

/-- **A record is read back.** -/
theorem record_of_isAt {fields : List Field} (hfields : Writable fields) {vs : Values fields}
    {n : Node} (h : (ofRecord fields vs).isAt d n = true) : d.record fields n = some vs := by
  obtain ⟨l, hl, hmembers⟩ := members_of_isAt h
  have hread : d.fields ([] ++ l) fields = some vs :=
    fields_of_areMembers hfields vs (fun m hm => nomatch hm) hmembers
  unfold record
  rw [hl]
  exact hread

end Document

end Failover.Yaml
