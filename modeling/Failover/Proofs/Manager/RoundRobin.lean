/-
  Failover.Proofs.Manager.RoundRobin
  ──────────────────────────────────
  **Everybody has a turn.** As long as the set of ids stays the same, lists
  may come in between any two turns, in any order and with other flags, and
  name any id as the active one: the connections are renewed in their
  places, and the position is nobody's but `advance`'s to move.

      turn 0                         the id behind the position
      turn i                         the id i places further on, round and round
      a round, from any turn on      the ids of the rotation, begun elsewhere

  Main statements: `getElem?_turns` — who has turn `i` — and `round_robin` —
  every round gives each id one turn, and then begins again.
-/
import Failover.Proofs.Manager.Rotation
import Mathlib.Data.List.Rotate

namespace Failover.Manager.Rotation

variable {r : Rotation} {moves : List Move} {i k : Nat}

/-! ## §1. Turns. -/

/-- The ids that have a turn while a rotation goes through some moves. -/
def turns (r : Rotation) : List Move → List (Option String)
  | [] => []
  | .update shuffle l active :: rest => turns (r.update shuffle l active).2 rest
  | .advance :: rest => r.advance.current.map (·.id) :: turns r.advance rest

/-- A move that leaves the set of ids as it is. -/
def Move.Keeps (held : List String) : Move → Prop
  | .update _ l _ => ∀ id, id ∈ ids (enabled l) ↔ id ∈ held
  | .advance => True

/-- A list with the same set of ids changes neither the places of the ids nor the position. -/
theorem update_keeps (hne : r.connections ≠ []) {shuffle : Shuffle} {l : List Connection}
    {active : Option String} (h : (Move.update shuffle l active).Keeps (ids r.connections)) :
    ids (r.update shuffle l active).2.connections = ids r.connections ∧
      (r.update shuffle l active).2.index = r.index :=
  have hupdates := updates_update r shuffle l active
  hupdates.kept (hupdates.kept_iff.2 ⟨hne, h⟩)

theorem connections_ne_nil_iff : r.connections ≠ [] ↔ ids r.connections ≠ [] := by
  unfold ids
  rw [ne_eq, ne_eq, List.map_eq_nil_iff]

/-- **Moves that keep the set of ids** keep every id in its place. -/
theorem ids_move (hne : r.connections ≠ []) {mv : Move} (hmv : mv.Keeps (ids r.connections)) :
    ids (r.move mv).connections = ids r.connections := by
  cases mv with
  | update shuffle l active => exact (update_keeps hne hmv).1
  | advance =>
      show ids r.advance.connections = _
      rw [advance_connections]

/-- After the first of such moves there is still somebody to have a turn, and the others keep the set
of ids as it is then. -/
theorem keeps_rest (hne : r.connections ≠ []) {mv : Move} {rest : List Move}
    (h : ∀ mv' ∈ mv :: rest, mv'.Keeps (ids r.connections)) :
    (r.move mv).connections ≠ [] ∧
      ∀ mv' ∈ rest, mv'.Keeps (ids (r.move mv).connections) := by
  rw [connections_ne_nil_iff, ids_move hne (h mv List.mem_cons_self)]
  exact ⟨connections_ne_nil_iff.1 hne, fun mv' hmv' => h mv' (List.mem_cons_of_mem _ hmv')⟩

/-- **Runs that keep the set of ids** keep every id in its place. -/
theorem ids_run (hne : r.connections ≠ [])
    (hmoves : ∀ mv ∈ moves, mv.Keeps (ids r.connections)) :
    ids (moves.foldl move r).connections = ids r.connections := by
  induction moves generalizing r with
  | nil => rfl
  | cons mv rest ih =>
      obtain ⟨hne', hrest⟩ := keeps_rest hne hmoves
      rw [List.foldl_cons, ih hne' hrest]
      exact ids_move hne (hmoves mv List.mem_cons_self)

/-! ## §2. Who has which turn. -/

/-- **Turn `i`** is that of the id `i` places behind the next one. -/
theorem getElem?_turns (hne : r.connections ≠ [])
    (hmoves : ∀ mv ∈ moves, mv.Keeps (ids r.connections)) (hi : i < (r.turns moves).length) :
    (r.turns moves)[i]? =
      some (ids r.connections)[(r.index + 1 + i) % (ids r.connections).length]? := by
  induction moves generalizing r i with
  | nil => cases hi
  | cons mv rest ih =>
      obtain ⟨hne', hrest⟩ := keeps_rest hne hmoves
      have ih := fun j => ih (i := j) hne' hrest
      rw [ids_move hne (hmoves mv List.mem_cons_self)] at ih
      cases mv with
      | update shuffle l active =>
          have hindex : (r.move (.update shuffle l active)).index = r.index :=
            (update_keeps hne (hmoves _ List.mem_cons_self)).2
          rw [hindex] at ih
          exact ih i hi
      | advance =>
          have hindex : (r.move .advance).index = (r.index + 1) % (ids r.connections).length := by
            unfold ids
            rw [List.length_map]
            exact advance_index hne
          cases i with
          | zero =>
              -- the first turn is that of the place that is advanced to
              show some (r.advance.connections[(r.move .advance).index]?.map (·.id)) = _
              rw [hindex, advance_connections, ← List.getElem?_map, Nat.add_zero]
              rfl
          | succ j =>
              have hj : j < ((r.move .advance).turns rest).length := Nat.lt_of_succ_lt_succ hi
              refine (ih j hj).trans ?_
              rw [hindex, Nat.add_assoc, Nat.mod_add_mod, Nat.add_comm 1 j, Nat.add_assoc]

/-- The turns of one round, from any turn on, are the ids of the rotation, begun elsewhere. -/
theorem window_turns (hne : r.connections ≠ [])
    (hmoves : ∀ mv ∈ moves, mv.Keeps (ids r.connections))
    (hk : k + r.connections.length ≤ (r.turns moves).length) :
    ((r.turns moves).drop k).take r.connections.length =
      ((ids r.connections).rotate (r.index + 1 + k)).map some := by
  have hlen : (ids r.connections).length = r.connections.length := List.length_map _
  refine List.ext_getElem? fun i => ?_
  rw [List.getElem?_map, List.getElem?_take]
  by_cases hi : i < r.connections.length
  · have hplace : (r.index + 1 + k + i) % (ids r.connections).length <
        (ids r.connections).length :=
      Nat.mod_lt _ (by omega)
    rw [if_pos hi, List.getElem?_drop, getElem?_turns hne hmoves (by omega),
      List.getElem?_rotate (by omega), ← Nat.add_assoc, Nat.add_comm i,
      List.getElem?_eq_getElem hplace]
    rfl
  · rw [if_neg hi, List.getElem?_eq_none (by rw [List.length_rotate]; omega)]
    rfl

/-! ## §3. Rounds. -/

/-- **Round robin.** Let a rotation hold connections with distinct ids, and let turns be taken while
lists come in that have the same set of ids.  Then the rotation goes on holding just these ids.  In
any row of as many turns as there are connections each id has exactly one, and the turn that follows
is again that of the id at the beginning of the row. -/
theorem round_robin (r : Rotation) (moves : List Move) (hne : r.connections ≠ [])
    (hdistinct : (ids r.connections).Nodup)
    (hmoves : ∀ mv ∈ moves, mv.Keeps (ids r.connections)) :
    ids (moves.foldl move r).connections = ids r.connections ∧
      ∀ k, k + r.connections.length ≤ (r.turns moves).length →
        (((r.turns moves).drop k).take r.connections.length).Perm
            ((ids r.connections).map some) ∧
          (∀ id ∈ ids r.connections,
            (((r.turns moves).drop k).take r.connections.length).count (some id) = 1) ∧
          (k + r.connections.length < (r.turns moves).length →
            (r.turns moves)[k + r.connections.length]? = (r.turns moves)[k]?) := by
  refine ⟨ids_run hne hmoves, fun k hk => ?_⟩
  have hperm : (((r.turns moves).drop k).take r.connections.length).Perm
      ((ids r.connections).map some) := by
    rw [window_turns hne hmoves hk]
    exact (List.rotate_perm _ _).map some
  refine ⟨hperm, fun id hid => ?_, fun hnext => ?_⟩
  · have hturns : ((ids r.connections).map some).Nodup :=
      hdistinct.map fun _ _ => Option.some.inj
    rw [hperm.count_eq]
    exact List.count_eq_one_of_mem hturns (List.mem_map_of_mem hid)
  · have hlen : (ids r.connections).length = r.connections.length := List.length_map _
    have hpos : 0 < r.connections.length := List.length_pos_iff.2 hne
    rw [getElem?_turns hne hmoves hnext, getElem?_turns hne hmoves (by omega), ← Nat.add_assoc,
      hlen, Nat.add_mod_right]

/-- Three connections take turns.  Between the turns the list comes in turned round, with the entry
at the position as the active one, and then with other flags. -/
def refreshed : List Move :=
  [.advance, .update turned [entry "z" false, entry "y" false, entry "x" false] (some "z"),
    .advance, .advance,
    .update turned [entry "w" true, { entry "x" false with undeletable := true },
      entry "y" false, entry "z" false] none, .advance, .advance]

/-- The turns go round in the order of the beginning. -/
theorem round_robin_refreshed :
    let r : Rotation := ⟨[entry "x" false, entry "y" false, entry "z" false], 0⟩
    (r.connections ≠ [] ∧ (ids r.connections).Nodup ∧
        ∀ mv ∈ refreshed, mv.Keeps (ids r.connections)) ∧
      r.turns refreshed = [some "y", some "z", some "x", some "y", some "z"] ∧
      (((r.turns refreshed).drop 1).take 3).Perm [some "x", some "y", some "z"] ∧
      (r.turns refreshed)[4]? = (r.turns refreshed)[1]? := by
  intro r
  have hne : r.connections ≠ [] := by simp [r]
  have hdistinct : (ids r.connections).Nodup := by decide
  have hmoves : ∀ mv ∈ refreshed, mv.Keeps (ids r.connections) := by
    have hkeeps : ∀ l, sameIds (enabled l) r.connections = true → ∀ shuffle active,
        (Move.update shuffle l active).Keeps (ids r.connections) := fun l h _ _ => sameIds_iff.1 h
    intro mv hmv
    simp only [refreshed, List.mem_cons, List.not_mem_nil, or_false] at hmv
    rcases hmv with rfl | rfl | rfl | rfl | rfl | rfl | rfl
    · trivial
    · exact hkeeps _ (by decide +kernel) _ _
    · trivial
    · trivial
    · exact hkeeps _ (by decide +kernel) _ _
    · trivial
    · trivial
  have hturns : r.turns refreshed = [some "y", some "z", some "x", some "y", some "z"] := by
    decide +kernel
  obtain ⟨-, hrounds⟩ := round_robin r refreshed hne hdistinct hmoves
  obtain ⟨hperm, -, hnext⟩ := hrounds 1 (by rw [hturns]; decide)
  exact ⟨⟨hne, hdistinct, hmoves⟩, hturns, hperm, hnext (by rw [hturns]; decide)⟩

end Failover.Manager.Rotation
