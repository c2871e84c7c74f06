/-
  Failover.Named
  ──────────────
  **Things by their names, in the order of the names.** Every name has at
  most one value, a later one replaces an earlier one, and the list of all
  of them goes by name.  Variables are texts by their names: a request to
  a transport, and its response.

  Main statements: `get?_insert` (what was put is found, and nothing else
  changes), `get?_erase` (what was dropped is gone, and nothing else),
  `sorted_insert` and `sorted_erase` (the order by name is kept), and
  `ofList_of_perm` (the order in which all are put in does not count).
-/

namespace Failover

/-- Values by their names, as pairs. -/
structure Named (α : Type) where
  pairs : List (String × α)
  deriving DecidableEq, Repr

/-- Texts by their names. -/
abbrev Variables : Type := Named String

namespace Named

variable {α : Type}

/-! ## §1. Operations. -/

/-- Nothing. -/
def empty : Named α := ⟨[]⟩

instance : Inhabited (Named α) := ⟨empty⟩

/-- The pairs with the value of one name replaced or put in at its place. -/
def insertPair (key : String) (value : α) : List (String × α) → List (String × α)
  | [] => [(key, value)]
  | (k, v) :: rest =>
      if key = k then (key, value) :: rest
      else if key < k then (key, value) :: (k, v) :: rest
      else (k, v) :: insertPair key value rest

/-- Set the value of a name. -/
def insert (vs : Named α) (key : String) (value : α) : Named α := ⟨insertPair key value vs.pairs⟩

/-- The value of a name. -/
def get? (vs : Named α) (key : String) : Option α := vs.pairs.lookup key

/-- All names, in their order. -/
def keys (vs : Named α) : List String := vs.pairs.map (·.1)

/-- All values, in the order of their names. -/
def values (vs : Named α) : List α := vs.pairs.map (·.2)

/-- Drop a name. -/
def erase (vs : Named α) (key : String) : Named α := ⟨vs.pairs.filter (·.1 != key)⟩

/-- Whether a name has a value. -/
def contains (vs : Named α) (key : String) : Bool := (vs.get? key).isSome

/-- How many names have a value. -/
def size (vs : Named α) : Nat := vs.pairs.length

/-- The same names with other values. -/
def map {β : Type} (f : String → α → β) (vs : Named α) : Named β :=
  ⟨vs.pairs.map fun p => (p.1, f p.1 p.2)⟩

/-- Values from pairs; the last value of a name counts. -/
def ofList (l : List (String × α)) : Named α :=
  l.foldl (fun vs (k, v) => vs.insert k v) empty

/-! ## §2. What is found. -/

@[simp] theorem get?_empty (key : String) : (empty : Named α).get? key = none := rfl

private theorem lookup_pair (k key : String) (value : α) (l : List (String × α)) :
    ((key, value) :: l).lookup k = if k = key then some value else l.lookup k := by
  by_cases h : k = key <;> simp [List.lookup_cons, h]
  simp [beq_eq_false_iff_ne.2 h]

theorem lookup_insertPair (key : String) (value : α) (k : String) (l : List (String × α)) :
    (insertPair key value l).lookup k = if k = key then some value else l.lookup k := by
  induction l with
  | nil => exact lookup_pair k key value []
  | cons p rest ih =>
      obtain ⟨k', v⟩ := p
      simp only [insertPair]
      split
      · next e => grind [lookup_pair]
      · split
        · grind [lookup_pair]
        · grind [lookup_pair]

/-- What was set is found; the others are what they were. -/
@[simp] theorem get?_insert (vs : Named α) (key : String) (value : α) (k : String) :
    (vs.insert key value).get? k = if k = key then some value else vs.get? k :=
  lookup_insertPair key value k vs.pairs

theorem lookup_filter_ne (l : List (String × α)) (key k : String) :
    (l.filter (·.1 != key)).lookup k = if k = key then none else l.lookup k := by
  induction l with
  | nil => simp
  | cons p rest ih =>
      obtain ⟨k', v⟩ := p
      by_cases h : k' = key
      · subst h
        by_cases hk : k = k'
        · subst hk
          simp [ih]
        · simp [ih, List.lookup_cons, hk, beq_eq_false_iff_ne.2 hk]
      · by_cases hk : k = k'
        · subst hk
          simp [h]
        · simp [h, ih, List.lookup_cons, beq_eq_false_iff_ne.2 hk]

/-- A name that was dropped has no value; the others are what they were. -/
@[simp] theorem get?_erase (vs : Named α) (key k : String) :
    (vs.erase key).get? k = if k = key then none else vs.get? k :=
  lookup_filter_ne vs.pairs key k

/-! ## §3. The names and their order. -/

/-- Whether the names are strictly increasing. -/
def Sorted (vs : Named α) : Prop := vs.pairs.Pairwise (·.1 < ·.1)

theorem sorted_empty : (empty : Named α).Sorted := List.Pairwise.nil

private theorem mem_insertPair {key : String} {value : α} {l : List (String × α)}
    {p : String × α} (h : p ∈ insertPair key value l) : p = (key, value) ∨ p ∈ l := by
  induction l with
  | nil => simpa [insertPair] using h
  | cons q rest ih =>
      simp only [insertPair] at h
      split at h
      · rcases List.mem_cons.1 h with h | h
        · exact .inl h
        · exact .inr (List.mem_cons_of_mem _ h)
      · split at h
        · rcases List.mem_cons.1 h with h | h
          · exact .inl h
          · exact .inr h
        · rcases List.mem_cons.1 h with h | h
          · exact .inr (h ▸ List.mem_cons_self ..)
          · exact (ih h).imp id (List.mem_cons_of_mem _)

private theorem pairwise_insertPair (key : String) (value : α) {l : List (String × α)}
    (h : l.Pairwise (·.1 < ·.1)) : (insertPair key value l).Pairwise (·.1 < ·.1) := by
  induction l with
  | nil => simp [insertPair]
  | cons q rest ih =>
      obtain ⟨hq, hr⟩ := List.pairwise_cons.1 h
      simp only [insertPair]
      split
      · next e => exact List.pairwise_cons.2 ⟨fun p hp => by simpa [e] using hq p hp, hr⟩
      · split
        · next hlt =>
          refine List.pairwise_cons.2 ⟨fun p hp => ?_, h⟩
          rcases List.mem_cons.1 hp with rfl | hp
          · exact hlt
          · exact String.lt_trans hlt (hq p hp)
        · next hne hge =>
          refine List.pairwise_cons.2 ⟨fun p hp => ?_, ih hr⟩
          rcases mem_insertPair hp with rfl | hp
          · have hle : q.1 ≤ key := String.not_lt.1 hge
            exact Classical.byContradiction fun hn =>
              hne (String.le_antisymm (String.not_lt.1 hn) hle)
          · exact hq p hp

/-- Setting a value keeps the order. -/
theorem sorted_insert {vs : Named α} (h : vs.Sorted) (key : String) (value : α) :
    (vs.insert key value).Sorted := pairwise_insertPair key value h

/-- Setting a value adds its name and no other. -/
theorem mem_keys_insert {vs : Named α} {key k : String} {value : α}
    (h : k ∈ (vs.insert key value).keys) : k = key ∨ k ∈ vs.keys := by
  obtain ⟨p, hp, rfl⟩ := List.mem_map.1 h
  rcases mem_insertPair hp with rfl | hp
  · exact .inl rfl
  · exact .inr (List.mem_map_of_mem hp)

/-- Setting a value adds its pair and no other. -/
theorem mem_pairs_insert {vs : Named α} {key : String} {value : α} {p : String × α}
    (h : p ∈ (vs.insert key value).pairs) : p = (key, value) ∨ p ∈ vs.pairs := mem_insertPair h

/-- What is found is one of the pairs. -/
theorem mem_pairs_of_get? {vs : Named α} {key : String} {value : α}
    (h : vs.get? key = some value) : (key, value) ∈ vs.pairs := by
  obtain ⟨before, behind, hpairs, -⟩ := List.lookup_eq_some_iff.1 h
  rw [hpairs]
  exact List.mem_append_right _ List.mem_cons_self

/-- Where the names are in order, each pair is what is found by its name. -/
theorem get?_of_mem_pairs {vs : Named α} (hs : vs.Sorted) {key : String} {value : α}
    (h : (key, value) ∈ vs.pairs) : vs.get? key = some value := by
  obtain ⟨before, behind, hpairs⟩ := List.append_of_mem h
  unfold Sorted at hs
  rw [hpairs, List.pairwise_append] at hs
  refine List.lookup_eq_some_iff.2 ⟨before, behind, hpairs, fun p hp => ?_⟩
  have hlt : p.1 < key := hs.2.2 p hp (key, value) List.mem_cons_self
  rw [bne_iff_ne]
  rintro rfl
  exact String.lt_irrefl _ hlt

/-- Dropping a name keeps the order. -/
theorem sorted_erase {vs : Named α} (h : vs.Sorted) (key : String) : (vs.erase key).Sorted :=
  List.Pairwise.filter _ h

/-! ## §4. From pairs. -/

/-- Putting pairs in one after the other keeps the order. -/
theorem sorted_ofList (l : List (String × α)) : (ofList l).Sorted := by
  have hfold : ∀ vs : Named α, vs.Sorted →
      (l.foldl (fun vs (k, v) => vs.insert k v) vs).Sorted := by
    induction l with
    | nil => exact fun vs hs => hs
    | cons p rest ih => exact fun vs hs => ih _ (sorted_insert hs p.1 p.2)
  exact hfold empty sorted_empty

/-- Other values under the same names keep the order. -/
theorem sorted_map {β : Type} {vs : Named α} (h : vs.Sorted) (f : String → α → β) :
    (vs.map f).Sorted := List.pairwise_map.2 h

/-- No name stands twice where the names are in order. -/
theorem nodup_of_sorted {vs : Named α} (h : vs.Sorted) : (vs.pairs.map (·.1)).Nodup := by
  refine List.pairwise_map.2 (List.Pairwise.imp (fun {p q} hlt hsame => ?_) h)
  rw [hsame] at hlt
  exact String.lt_irrefl _ hlt

/-- A new name adds its pair somewhere. -/
theorem perm_insertPair {key : String} (value : α) {l : List (String × α)}
    (h : key ∉ l.map (·.1)) : (insertPair key value l).Perm ((key, value) :: l) := by
  induction l with
  | nil => exact List.Perm.refl _
  | cons q rest ih =>
      rw [List.map_cons, List.mem_cons, not_or] at h
      unfold insertPair
      rw [if_neg h.1]
      split
      · exact List.Perm.refl _
      · exact ((ih h.2).cons q).trans (List.Perm.swap ..)

/-- New names add their pairs, if they are all different. -/
theorem perm_foldl_insert (l : List (String × α)) {vs : Named α}
    (h : (l.map (·.1) ++ vs.pairs.map (·.1)).Nodup) :
    (l.foldl (fun vs (k, v) => vs.insert k v) vs).pairs.Perm (l ++ vs.pairs) := by
  induction l generalizing vs with
  | nil => exact List.Perm.refl _
  | cons p rest ih =>
      rw [List.map_cons, List.cons_append] at h
      have hnew : p.1 ∉ vs.pairs.map (·.1) := fun hmem =>
        (List.nodup_cons.1 h).1 (List.mem_append_right _ hmem)
      have hput : (vs.insert p.1 p.2).pairs.Perm (p :: vs.pairs) := perm_insertPair p.2 hnew
      have hnames : (rest.map (·.1) ++ (vs.insert p.1 p.2).pairs.map (·.1)).Perm
          (p.1 :: (rest.map (·.1) ++ vs.pairs.map (·.1))) :=
        ((hput.map (·.1)).append_left _).trans List.perm_middle
      exact (ih (hnames.nodup_iff.2 h)).trans
        ((hput.append_left rest).trans List.perm_middle)

/-- **Pairs can be put in in any order**, if there is one for each name. -/
theorem ofList_of_perm {vs : Named α} (hs : vs.Sorted) {l : List (String × α)}
    (h : l.Perm vs.pairs) : ofList l = vs := by
  have hnodup : (l.map (·.1)).Nodup := (h.map (·.1)).nodup_iff.2 (nodup_of_sorted hs)
  have hnames : (l.map (·.1) ++ (empty : Named α).pairs.map (·.1)).Nodup := by
    rwa [show (empty : Named α).pairs.map (·.1) = [] from rfl, List.append_nil]
  have hall : (ofList l).pairs.Perm (l ++ []) := perm_foldl_insert l hnames
  rw [List.append_nil] at hall
  -- two lists with the same pairs, both in the order of the names
  have hpairs : (ofList l).pairs = vs.pairs := by
    refine List.Perm.eq_of_pairwise (fun p q _ _ hlt hgt => ?_) (sorted_ofList l) hs
      (hall.trans h)
    exact absurd (String.lt_trans hlt hgt) (String.lt_irrefl _)
  cases vs
  exact congrArg mk hpairs

end Named

end Failover
