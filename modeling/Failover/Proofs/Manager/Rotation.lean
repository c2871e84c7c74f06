/-
  Failover.Proofs.Manager.Rotation
  ────────────────────────────────
  **What a rotation holds, and where it stands.** Lists of connections come
  at any time, with disabled entries, with entries twice, with ids of their
  own or without.  Taking over a list goes one of two ways:

      same set of ids    every connection is renewed in its place, and
                         neither the order nor the position changes
      any other set      an order is drawn of what may be tried, and the
                         position is that of the active connection, or
                         else the old one as far as the new order goes

  Both ways lead to the same: exactly the ids of the latest list are held,
  each with an entry of that list, and the position is one of the order.

  Main statements: `updates_update` — what taking over a list does, from any
  rotation — and `rotation_law` — what holds after any run of lists and
  turns, for every outcome of the draws.
-/
import Failover.Manager.Rotation
import Mathlib.Data.List.Nodup
import Mathlib.Data.List.Perm.Basic

namespace Failover.Manager.Rotation

variable {r : Rotation} {l next : List Connection} {c c' : Connection} {id : String} {i : Nat}
  {active : Option String}

/-! ## §1. Lists of connections and their ids. -/

/-- No two connections of a list that may be tried have the same id. -/
def IsSimple (l : List Connection) : Prop := (ids (enabled l)).Nodup

/-- Connections with distinct ids are known by them. -/
theorem eq_of_id_eq (h : (ids l).Nodup) (hc : c ∈ l) (hc' : c' ∈ l) (hid : c.id = c'.id) :
    c = c' :=
  List.inj_on_of_nodup_map h hc hc' hid

/-- The first connection with an id is the one that has it. -/
theorem withIdIn_eq_some (h : (ids l).Nodup) (hc : c ∈ l) : withIdIn l c.id = some c := by
  unfold withIdIn
  cases hfind : l.find? (·.id == c.id) with
  | none =>
      have hnone := List.find?_eq_none.1 hfind c hc
      simp at hnone
  | some x =>
      have hx : x.id = c.id := by simpa using List.find?_some hfind
      rw [eq_of_id_eq h (List.mem_of_find?_eq_some hfind) hc hx]

/-- What is found in a list is one of it. -/
theorem mem_of_withIdIn (h : withIdIn l id = some c) : c ∈ l ∧ c.id = id :=
  ⟨List.mem_of_find?_eq_some h, by simpa using List.find?_some h⟩

theorem sameIds_iff : sameIds next l = true ↔ ∀ id, id ∈ ids next ↔ id ∈ ids l := by
  unfold sameIds
  rw [Bool.and_eq_true, List.all_eq_true, List.all_eq_true]
  simp only [List.contains_iff_mem]
  exact ⟨fun h id => ⟨h.1 id, h.2 id⟩, fun h => ⟨fun id => (h id).1, fun id => (h id).2⟩⟩

/-- Lists with the same ids have a connection for each of them. -/
theorem exists_of_sameIds (h : sameIds next l = true) (hc : c ∈ l) :
    ∃ c' ∈ next, c'.id = c.id :=
  List.mem_map.1 ((sameIds_iff.1 h c.id).2 (List.mem_map_of_mem hc))

theorem sameIds_symm (h : sameIds next l = true) : sameIds l next = true :=
  sameIds_iff.2 fun id => (sameIds_iff.1 h id).symm

theorem changedBy_eq_false :
    r.changedBy next = false ↔ r.connections ≠ [] ∧ sameIds next r.connections = true := by
  unfold changedBy
  rw [Bool.or_eq_false_iff, List.isEmpty_eq_false_iff, Bool.not_eq_false']

/-! ## §2. The same set of ids. -/

/-- **Renewed connections** come one for one, each with the id of the old one. -/
theorem renew_connections (h : sameIds next r.connections = true) :
    (r.renew next).connections =
      r.connections.map fun c => (withIdIn next c.id).getD c := by
  show r.connections.filterMap (fun c => withIdIn next c.id) = _
  rw [← List.filterMap_eq_map]
  refine List.filterMap_congr fun c hc => ?_
  obtain ⟨x, hx, hid⟩ := exists_of_sameIds h hc
  cases hfind : withIdIn next c.id with
  | none =>
      -- a fresh connection has the id
      have hnone := List.find?_eq_none.1 hfind x hx
      simp [hid] at hnone
  | some y => simp [hfind]

/-- Renewing keeps the order of the ids. -/
theorem ids_renew (h : sameIds next r.connections = true) :
    ids (r.renew next).connections = ids r.connections := by
  unfold ids
  rw [renew_connections h, List.map_map]
  refine List.map_congr_left fun c _ => ?_
  show ((withIdIn next c.id).getD c).id = c.id
  cases hfind : withIdIn next c.id with
  | none => rfl
  | some y => exact (mem_of_withIdIn hfind).2

/-- Nothing is held after renewing but fresh connections. -/
theorem mem_of_renew (hc : c ∈ (r.renew next).connections) : c ∈ next := by
  obtain ⟨old, -, hfind⟩ := List.mem_filterMap.1 hc
  exact (mem_of_withIdIn hfind).1

/-- Renewed connections are the fresh ones in another order. -/
theorem perm_renew (h : sameIds next r.connections = true) (hr : (ids r.connections).Nodup)
    (hnext : (ids next).Nodup) : (r.renew next).connections.Perm next := by
  have hnodup : (r.renew next).connections.Nodup := by
    have hids : (ids (r.renew next).connections).Nodup := by rw [ids_renew h]; exact hr
    exact List.Nodup.of_map _ hids
  refine (List.perm_ext_iff_of_nodup hnodup (List.Nodup.of_map _ hnext)).2 fun x => ?_
  refine ⟨mem_of_renew, fun hx => ?_⟩
  obtain ⟨c, hc, hid⟩ := exists_of_sameIds (sameIds_symm h) hx
  exact List.mem_filterMap.2 ⟨c, hc, by rw [hid]; exact withIdIn_eq_some hnext hx⟩

/-! ## §3. A new order. -/

/-- The position of an id is the first place where it stands. -/
theorem position_eq (r : Rotation) (id : String) :
    r.position id =
      if id ∈ ids r.connections then some ((ids r.connections).idxOf id) else none := by
  have hmap : r.position id = (ids r.connections).findIdx? (· == id) := by
    unfold position ids
    rw [List.findIdx?_map]
    rfl
  rw [hmap]
  split
  · next hmem =>
    rw [List.findIdx?_eq_some_iff_findIdx_eq]
    exact ⟨List.idxOf_lt_length_of_mem hmem, rfl⟩
  · next hmem =>
    rw [List.findIdx?_eq_none_iff]
    intro x hx
    rw [beq_eq_false_iff_ne]
    rintro rfl
    exact hmem hx

theorem reorder_connections (r : Rotation) (next : List Connection) (active : Option String) :
    (r.reorder next active).connections = next := by
  unfold reorder
  dsimp only
  split
  · rfl
  · split <;> rfl

/-- **A new order stands at the active connection**, if that is still there. -/
theorem reorder_index_of_mem (r : Rotation) (h : id ∈ ids next) :
    (r.reorder next (some id)).index = (ids next).idxOf id := by
  have hpos : (some id).bind (Rotation.position ⟨next, r.index % next.length⟩) =
      some ((ids next).idxOf id) := by
    rw [Option.bind_some, position_eq]
    exact if_pos h
  unfold reorder
  dsimp only
  rw [hpos]

/-- Else it stands where it stood, as far as it goes. -/
theorem reorder_index_of_not_mem (r : Rotation) (h : ∀ id, active = some id → id ∉ ids next) :
    (r.reorder next active).index = if next = [] then 0 else r.index % next.length := by
  have hpos : active.bind (Rotation.position ⟨next, r.index % next.length⟩) = none := by
    rw [Option.bind_eq_none_iff]
    intro id hid
    rw [position_eq]
    exact if_neg (h id hid)
  unfold reorder
  dsimp only
  rw [hpos]
  cases next <;> rfl

/-- The first place of an id is that of the connection that has it. -/
theorem getElem?_idxOf (h : (ids l).Nodup) (hc : c ∈ l) :
    l[(ids l).idxOf c.id]? = some c := by
  obtain ⟨i, hi, rfl⟩ := List.getElem_of_mem hc
  have hi' : i < (ids l).length := by simpa [ids] using hi
  have hget : l[i].id = (ids l)[i] := by simp [ids]
  rw [hget, h.idxOf_getElem i hi', List.getElem?_eq_getElem hi]

/-- **A new order has the active connection at its position**, if that is still there. -/
theorem current_reorder (r : Rotation) (h : (ids next).Nodup) (hc : c ∈ next) :
    (r.reorder next (some c.id)).current = some c := by
  unfold current
  rw [reorder_connections, reorder_index_of_mem r (List.mem_map_of_mem hc)]
  exact getElem?_idxOf h hc

/-! ## §4. Taking over a list. -/

/-- **The two ways** of taking over a list. -/
theorem update_cases (r : Rotation) (shuffle : Shuffle) (l : List Connection)
    (active : Option String) :
    (r.connections ≠ [] ∧ sameIds (enabled l) r.connections = true ∧
        r.update shuffle l active = (false, r.renew (enabled l))) ∨
      (¬(r.connections ≠ [] ∧ sameIds (enabled l) r.connections = true) ∧
        r.update shuffle l active = (true, r.reorder (shuffle.apply (enabled l)) active)) := by
  by_cases hsame : r.changedBy (enabled l) = false
  · obtain ⟨hne, hids⟩ := changedBy_eq_false.1 hsame
    exact .inl ⟨hne, hids, update_of_same hsame shuffle active⟩
  · refine .inr ⟨fun h => hsame (changedBy_eq_false.2 h), ?_⟩
    exact if_pos (by simpa using hsame)

/-- A drawn order has the ids of the list. -/
theorem mem_ids_shuffle (shuffle : Shuffle) (id : String) :
    id ∈ ids (shuffle.apply l) ↔ id ∈ ids l :=
  ((shuffle.perm l).map Connection.id).mem_iff

/-- What is held after a list was taken over is what may be tried of it. -/
theorem perm_update (shuffle : Shuffle) (active : Option String)
    (hr : (ids r.connections).Nodup) (hl : IsSimple l) :
    (r.update shuffle l active).2.connections.Perm (enabled l) := by
  rcases update_cases r shuffle l active with ⟨-, hsame, heq⟩ | ⟨-, heq⟩
  · rw [heq]
    exact perm_renew hsame hr hl
  · rw [heq]
    show (r.reorder _ active).connections.Perm _
    rw [reorder_connections]
    exact shuffle.perm _

/-- **Taking over a list keeps the position** at the connection that was tried last, if that may
still be tried. -/
theorem update_current (shuffle : Shuffle) (hl : IsSimple l)
    (hcur : ∀ c ∈ r.connections, c.id = id → r.current = some c)
    (hc : c ∈ (r.update shuffle l (some id)).2.connections) (hid : c.id = id) :
    (r.update shuffle l (some id)).2.current = some c := by
  subst hid
  rcases update_cases r shuffle l (some c.id) with ⟨-, hsame, heq⟩ | ⟨-, heq⟩
  · rw [heq] at hc ⊢
    -- the old connection with the id had the position, and so has the fresh one
    have hfresh : c ∈ enabled l := mem_of_renew hc
    obtain ⟨old, hold, hid⟩ := exists_of_sameIds (sameIds_symm hsame) hfresh
    have hpos : r.connections[r.index]? = some old := hcur old hold hid
    show (r.renew (enabled l)).connections[r.index]? = some c
    rw [renew_connections hsame, List.getElem?_map, hpos, Option.map_some, hid,
      withIdIn_eq_some hl hfresh]
    rfl
  · rw [heq] at hc ⊢
    have hmem : c ∈ shuffle.apply (enabled l) := by
      have hc : c ∈ (r.reorder _ (some c.id)).connections := hc
      rwa [reorder_connections] at hc
    have hnext : (ids (shuffle.apply (enabled l))).Nodup :=
      (((shuffle.perm (enabled l)).map Connection.id).nodup_iff).2 hl
    exact current_reorder r hnext hmem

theorem placed_update (shuffle : Shuffle) (l : List Connection) (active : Option String)
    (h : r.Placed) : (r.update shuffle l active).2.Placed := by
  rcases update_cases r shuffle l active with ⟨hne, hsame, heq⟩ | ⟨-, heq⟩
  · rw [heq]
    refine .inl ?_
    show r.index < (r.renew (enabled l)).connections.length
    rw [renew_connections hsame, List.length_map]
    exact h.resolve_right fun hnil => hne hnil.1
  · rw [heq]
    exact placed_reorder ..

/-- **What taking over a list does** to a rotation: whether an order is drawn, what the order and
the position are then. -/
structure Updates (r : Rotation) (l : List Connection) (active : Option String)
    (result : Bool × Rotation) : Prop where
  /-- No order is drawn exactly if there is one already, of the same set of ids. -/
  kept_iff : result.1 = false ↔
    r.connections ≠ [] ∧ ∀ id, id ∈ ids (enabled l) ↔ id ∈ ids r.connections
  /-- Then the ids stay in their places, and the position stays too. -/
  kept : result.1 = false →
    ids result.2.connections = ids r.connections ∧ result.2.index = r.index
  /-- Else what may be tried of the list is put in some order. -/
  drawn : result.1 = true → result.2.connections.Perm (enabled l)
  /-- The position is the first place of the active id. -/
  atActive : result.1 = true → ∀ id, active = some id → id ∈ ids (enabled l) →
    result.2.index = (ids result.2.connections).idxOf id
  /-- Without an active connection in the list, the old position counts as far as it goes. -/
  atRest : result.1 = true → (∀ id, active = some id → id ∉ ids (enabled l)) →
    result.2.index =
      if result.2.connections = [] then 0 else r.index % result.2.connections.length

/-- **Every list is taken over like this**, whatever order is drawn. -/
theorem updates_update (r : Rotation) (shuffle : Shuffle) (l : List Connection)
    (active : Option String) : r.Updates l active (r.update shuffle l active) := by
  rcases update_cases r shuffle l active with ⟨hne, hsame, heq⟩ | ⟨hchanged, heq⟩
  · rw [heq]
    exact
      { kept_iff := iff_of_true rfl ⟨hne, sameIds_iff.1 hsame⟩
        kept := fun _ => ⟨ids_renew hsame, rfl⟩
        drawn := fun h => by cases h
        atActive := fun h => by cases h
        atRest := fun h => by cases h }
  · rw [heq]
    refine ⟨?_, fun h => (by cases h), fun _ => ?_, fun _ id hactive hid => ?_, fun _ hnone => ?_⟩
    · exact iff_of_false (by simp) fun h => hchanged ⟨h.1, sameIds_iff.2 h.2⟩
    · show (r.reorder _ active).connections.Perm _
      rw [reorder_connections]
      exact shuffle.perm _
    · subst hactive
      show (r.reorder _ (some id)).index = (ids (r.reorder _ (some id)).connections).idxOf id
      rw [reorder_connections]
      exact reorder_index_of_mem r ((mem_ids_shuffle shuffle id).2 hid)
    · show (r.reorder _ active).index =
        if (r.reorder _ active).connections = [] then 0
        else r.index % (r.reorder _ active).connections.length
      rw [reorder_connections]
      exact reorder_index_of_not_mem r fun id hid =>
        mt (mem_ids_shuffle shuffle id).1 (hnone id hid)

/-! ## §5. The next turn. -/

/-- Who has the turn is one of the rotation. -/
theorem mem_of_current (h : r.current = some c) : c ∈ r.connections := List.mem_of_getElem? h

theorem advance_connections (r : Rotation) : r.advance.connections = r.connections := by
  unfold advance
  split <;> rfl

theorem advance_index (hne : r.connections ≠ []) :
    r.advance.index = (r.index + 1) % r.connections.length := by
  unfold advance
  rw [if_neg (by simpa using hne)]

/-- Somebody has the turn as long as there is anybody. -/
theorem current_isSome_iff (h : r.Placed) : r.current.isSome = true ↔ r.connections ≠ [] := by
  unfold current
  rw [isSome_getElem?, ← List.length_pos_iff]
  rcases h with hlt | ⟨hnil, -⟩
  · exact iff_of_true hlt (Nat.zero_lt_of_lt hlt)
  · rw [hnil]
    exact iff_of_false (Nat.not_lt_zero _) (Nat.not_lt_zero _)

/-- **The next turn** is that of a connection of the rotation, which is not the one that has it now
unless there is no other one. -/
theorem current_advance (h : r.Placed) (hr : (ids r.connections).Nodup)
    (hne : r.connections ≠ []) :
    ∃ c ∈ r.connections, r.advance.current = some c ∧
      (2 ≤ r.connections.length → ∀ c', r.current = some c' → c'.id ≠ c.id) := by
  have hlen : 0 < r.connections.length := List.length_pos_iff.2 hne
  have hi : r.index < r.connections.length := h.resolve_right fun hnil => hne hnil.1
  have hj : (r.index + 1) % r.connections.length < r.connections.length := Nat.mod_lt _ hlen
  refine ⟨r.connections[(r.index + 1) % r.connections.length], List.getElem_mem hj, ?_, ?_⟩
  · unfold current
    rw [advance_connections, advance_index hne]
    exact List.getElem?_eq_getElem hj
  · intro htwo c' hc' heq
    have hget : r.connections[r.index]? = some c' := hc'
    rw [List.getElem?_eq_getElem hi] at hget
    have hsame := eq_of_id_eq hr (mem_of_current hc') (List.getElem_mem hj) heq
    rw [← Option.some.inj hget] at hsame
    -- equal connections of a rotation have the same position
    have hindex := (List.Nodup.getElem_inj_iff (List.Nodup.of_map _ hr)).1 hsame
    by_cases hlast : r.index + 1 = r.connections.length
    · rw [hlast, Nat.mod_self] at hindex
      omega
    · rw [Nat.mod_eq_of_lt (by omega)] at hindex
      omega

/-! ## §6. Runs. -/

/-- What can happen to a rotation. -/
inductive Move where
  /-- A list comes in; an id may be active by then. -/
  | update (shuffle : Shuffle) (l : List Connection) (active : Option String)
  /-- The next connection has its turn. -/
  | advance

/-- The list that comes in. -/
def Move.list? : Move → Option (List Connection)
  | .update _ l _ => some l
  | .advance => none

/-- The rotation after a move. -/
def move (r : Rotation) : Move → Rotation
  | .update shuffle l active => (r.update shuffle l active).2
  | .advance => r.advance

/-- A rotation, and the list that it has taken over last. -/
structure Supplied where
  rotation : Rotation
  latest : List Connection

namespace Supplied

/-- A rotation that is made of a list. -/
def opening (shuffle : Shuffle) (l : List Connection) : Supplied := ⟨ofList shuffle l, l⟩

def move (s : Supplied) (mv : Move) : Supplied :=
  ⟨s.rotation.move mv, mv.list?.getD s.latest⟩

def run (s : Supplied) (moves : List Move) : Supplied := moves.foldl move s

end Supplied

/-- **A rotation reflects a list**: it holds its ids and no other, every connection is an entry of
the list that may be tried, and the position is one of the order. -/
structure Reflects (r : Rotation) (l : List Connection) : Prop where
  ids_iff : ∀ id, id ∈ ids r.connections ↔ id ∈ ids (enabled l)
  fresh : ∀ c ∈ r.connections, c ∈ enabled l
  placed : r.Placed

/-- After a list was taken over, the rotation reflects it; what it reflected before does not
count. -/
theorem reflects_update (shuffle : Shuffle) (l : List Connection) (active : Option String)
    (h : r.Placed) : (r.update shuffle l active).2.Reflects l where
  placed := placed_update shuffle l active h
  ids_iff id := by
    rcases update_cases r shuffle l active with ⟨-, hsame, heq⟩ | ⟨-, heq⟩
    · rw [heq, ids_renew hsame]
      exact (sameIds_iff.1 hsame id).symm
    · rw [heq]
      show id ∈ ids (r.reorder _ active).connections ↔ _
      rw [reorder_connections]
      exact mem_ids_shuffle shuffle id
  fresh c hc := by
    rcases update_cases r shuffle l active with ⟨-, -, heq⟩ | ⟨-, heq⟩
    · rw [heq] at hc
      exact mem_of_renew hc
    · rw [heq] at hc
      have hc : c ∈ (r.reorder _ active).connections := hc
      rw [reorder_connections] at hc
      exact (shuffle.perm _).mem_iff.1 hc

theorem Reflects.advance (h : r.Reflects l) : r.advance.Reflects l where
  placed := placed_advance h.placed
  ids_iff id := by
    rw [advance_connections]
    exact h.ids_iff id
  fresh c hc := by
    rw [advance_connections] at hc
    exact h.fresh c hc

namespace Supplied

variable {s : Supplied} {moves : List Move}

/-- A rotation is made like an empty one takes over a list. -/
theorem reflects_opening (shuffle : Shuffle) (l : List Connection) :
    (opening shuffle l).rotation.Reflects (opening shuffle l).latest :=
  reflects_update shuffle l none (.inr ⟨rfl, rfl⟩)

theorem reflects_move (h : s.rotation.Reflects s.latest) (mv : Move) :
    (s.move mv).rotation.Reflects (s.move mv).latest := by
  cases mv with
  | update shuffle l active => exact reflects_update shuffle l active h.placed
  | advance => exact h.advance

/-- **Every run reflects the latest list.** -/
theorem reflects_run (h : s.rotation.Reflects s.latest) (moves : List Move) :
    (s.run moves).rotation.Reflects (s.run moves).latest := by
  induction moves generalizing s with
  | nil => exact h
  | cons mv rest ih => exact ih (reflects_move h mv)

/-- A rotation holds what may be tried of the latest list, which has distinct ids. -/
structure Exact (s : Supplied) : Prop where
  held : s.rotation.connections.Perm (enabled s.latest)
  simple : IsSimple s.latest

theorem Exact.nodup (h : s.Exact) : (ids s.rotation.connections).Nodup :=
  ((h.held.map Connection.id).nodup_iff).2 h.simple

theorem exact_opening (shuffle : Shuffle) (h : IsSimple l) : (opening shuffle l).Exact :=
  ⟨perm_update shuffle none List.nodup_nil h, h⟩

theorem Exact.move (h : s.Exact) {mv : Move} (hmv : ∀ l, mv.list? = some l → IsSimple l) :
    (s.move mv).Exact := by
  cases mv with
  | update shuffle l active =>
      have hl : IsSimple l := hmv l rfl
      exact ⟨perm_update shuffle active h.nodup hl, hl⟩
  | advance =>
      refine ⟨?_, h.simple⟩
      show s.rotation.advance.connections.Perm (enabled s.latest)
      rw [advance_connections]
      exact h.held

/-- **Every run with distinct ids holds exactly what may be tried of the latest list.** -/
theorem Exact.run (h : s.Exact) (hmoves : ∀ l ∈ moves.filterMap Move.list?, IsSimple l) :
    (s.run moves).Exact := by
  induction moves generalizing s with
  | nil => exact h
  | cons mv rest ih =>
      refine ih (h.move fun l hl => hmoves l ?_) fun l hl => hmoves l ?_
      · exact List.mem_filterMap.2 ⟨mv, List.mem_cons_self, hl⟩
      · obtain ⟨mv', hmv', hlist⟩ := List.mem_filterMap.1 hl
        exact List.mem_filterMap.2 ⟨mv', List.mem_cons_of_mem _ hmv', hlist⟩

end Supplied

/-- **The rotation law.** A rotation is made of a list, then lists come in and turns are taken, in
any order and with any draws.  At any time the rotation reflects the latest list, and somebody has
the turn exactly if anybody is held; the next list, whatever it is, is taken over as `Updates` says.
If no list has an id twice among what may be tried, then what is held is what may be tried of the
latest list, each connection once and as it stands there. -/
theorem rotation_law (shuffle : Shuffle) (l : List Connection) (moves : List Move) :
    let s := (Supplied.opening shuffle l).run moves
    s.rotation.Reflects s.latest ∧
      (s.rotation.current.isSome = true ↔ s.rotation.connections ≠ []) ∧
      (∀ shuffle' l' active,
        s.rotation.Updates l' active (s.rotation.update shuffle' l' active)) ∧
      ((∀ l' ∈ l :: moves.filterMap Move.list?, IsSimple l') →
        s.rotation.connections.Perm (enabled s.latest)) := by
  intro s
  have hreflects : s.rotation.Reflects s.latest :=
    Supplied.reflects_run (Supplied.reflects_opening shuffle l) moves
  refine ⟨hreflects, current_isSome_iff hreflects.placed, fun shuffle' l' active =>
    updates_update s.rotation shuffle' l' active, fun hsimple => ?_⟩
  have hopening := Supplied.exact_opening shuffle (hsimple l List.mem_cons_self)
  exact (hopening.run fun l' hl' => hsimple l' (List.mem_cons_of_mem _ hl')).held

/-- A connection with an id of its own. -/
def entry (id : String) (disabled : Bool) : Connection :=
  ⟨"x", "", "198.51.100.3:3", disabled, false, id⟩

/-- The shuffle that turns a list round. -/
def turned : Shuffle := ⟨List.reverse, List.reverse_perm⟩

/-- A list loses one connection and gets another one, and what is active moves in the order. -/
theorem rotation_law_turned :
    let lists := [[entry "x" false, entry "y" true, entry "z" false],
      [entry "y" false, entry "z" false, entry "x" true]]
    let moves := [.advance, .update turned lists[1] (some "z"), .advance]
    let s := (Supplied.opening turned lists[0]).run moves
    (∀ l ∈ lists[0] :: moves.filterMap Move.list?, IsSimple l) ∧
      s.rotation = ⟨[entry "z" false, entry "y" false], 1⟩ ∧
      s.rotation.connections.Perm (enabled lists[1]) ∧
      s.rotation.current.isSome = true := by
  intro lists moves s
  have hsimple : ∀ l ∈ lists[0] :: moves.filterMap Move.list?, IsSimple l := by
    unfold IsSimple
    decide +kernel
  have hrotation : s.rotation = ⟨[entry "z" false, entry "y" false], 1⟩ := by decide +kernel
  obtain ⟨-, hcurrent, -, hperm⟩ := rotation_law turned lists[0] moves
  exact ⟨hsimple, hrotation, hperm hsimple, hcurrent.2 (by rw [hrotation]; simp)⟩

end Failover.Manager.Rotation
