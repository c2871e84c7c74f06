/-
  Failover.Manager.Rotation
  ─────────────────────────
  **Whose turn it is.** A rotation holds the enabled connections in an
  order of its own and goes round them.  The order is drawn anew whenever
  the set of their ids changes; as long as it does not, the order and the
  position stay, and only the other parts of the connections are renewed.

  Main statements: `placed_reorder` and `placed_advance` — the position is
  one of the order unless that is empty — and `update_of_same` — the same
  set of ids keeps the order.
-/
import Failover.Connection

namespace Failover.Manager

/-! ## §1. Rotations. -/

/-- A way to draw an order. -/
structure Shuffle where
  apply : List Connection → List Connection
  perm : ∀ l, (apply l).Perm l

/-- The shuffle that leaves everything where it is. -/
def Shuffle.keep : Shuffle := ⟨id, fun _ => .refl _⟩

/-- Enabled connections in their order, and the position of the one whose turn it is. -/
structure Rotation where
  connections : List Connection
  index : Nat
  deriving DecidableEq, Repr

namespace Rotation

/-- No connection at all. -/
def empty : Rotation := ⟨[], 0⟩

/-- The connections of a list that may be tried, with their ids. -/
def enabled (l : List Connection) : List Connection :=
  (l.filter Connection.isEnabled).map Connection.withId

/-- The ids of a list. -/
def ids (l : List Connection) : List String := l.map (·.id)

/-- Whether two lists have the same ids, in any order and number. -/
def sameIds (l l' : List Connection) : Bool :=
  (ids l).all (ids l').contains && (ids l').all (ids l).contains

/-- The first connection with an id. -/
def withIdIn (l : List Connection) (id : String) : Option Connection := l.find? (·.id == id)

/-- The position of an id. -/
def position (r : Rotation) (id : String) : Option Nat := r.connections.findIdx? (·.id == id)

/-- The connection whose turn it is. -/
def current (r : Rotation) : Option Connection := r.connections[r.index]?

/-! ## §2. Changes. -/

/-- The same order with the fresh values of a list. -/
def renew (r : Rotation) (fresh : List Connection) : Rotation :=
  { r with connections := r.connections.filterMap fun c => withIdIn fresh c.id }

/-- A new order.  The position is that of the active connection if it is still there, else it stays
as far as the order goes. -/
def reorder (r : Rotation) (next : List Connection) (active : Option String) : Rotation :=
  let r' : Rotation := ⟨next, r.index % next.length⟩
  match active.bind r'.position with
  | some i => { r' with index := i }
  | none => if next.isEmpty then { r' with index := 0 } else r'

/-- Whether a list asks for a new order. -/
def changedBy (r : Rotation) (next : List Connection) : Bool :=
  r.connections.isEmpty || !sameIds next r.connections

/-- Take over a list of connections.  It tells whether a new order was drawn. -/
def update (r : Rotation) (shuffle : Shuffle) (l : List Connection) (active : Option String) :
    Bool × Rotation :=
  let next := enabled l
  if r.changedBy next then (true, r.reorder (shuffle.apply next) active) else (false, r.renew next)

/-- The rotation of a list of connections. -/
def ofList (shuffle : Shuffle) (l : List Connection) : Rotation := (empty.update shuffle l none).2

/-- The next connection's turn. -/
def advance (r : Rotation) : Rotation :=
  if r.connections.isEmpty then r
  else { r with index := (r.index + 1) % r.connections.length }

/-! ## §3. The position. -/

/-- Whether the position is one of the order. -/
def Placed (r : Rotation) : Prop := r.index < r.connections.length ∨ r.connections = [] ∧ r.index = 0

theorem placed_reorder (r : Rotation) (next : List Connection) (active : Option String) :
    (r.reorder next active).Placed := by
  unfold reorder
  dsimp only
  split
  · next i h =>
    obtain ⟨id, -, h⟩ := Option.bind_eq_some_iff.1 h
    exact .inl (List.findIdx?_eq_some_iff_getElem.1 h).1
  · cases next with
    | nil => exact .inr ⟨rfl, rfl⟩
    | cons c rest => exact .inl (Nat.mod_lt _ (by simp))

theorem placed_advance {r : Rotation} (h : r.Placed) : r.advance.Placed := by
  unfold advance
  split
  · exact h
  · next hne =>
    refine .inl (Nat.mod_lt _ (List.length_pos_iff.2 fun e => hne ?_))
    rw [e]
    rfl

/-- The same set of ids keeps the order. -/
theorem update_of_same {r : Rotation} {l : List Connection} (h : r.changedBy (enabled l) = false)
    (shuffle : Shuffle) (active : Option String) :
    r.update shuffle l active = (false, r.renew (enabled l)) := by
  simp [update, h]

end Rotation

end Failover.Manager
