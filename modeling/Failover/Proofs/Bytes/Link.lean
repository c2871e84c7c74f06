/-
  Failover.Proofs.Bytes.Link
  ──────────────────────────
  **Two conversations with each other.**  What the one writes comes to the
  other, in its order, but in pieces of any size and at any time:

      first  ── said ──▶  toSecond ++ [piece] ++ …  ──▶  second
      first  ◀──  … ++ [piece] ++ toFirst  ◀── said ──  second

  A side that has not got enough does not write; this is how it reads a
  stream that ends too early, so what a side has said is read off from
  what has arrived at it.  For conversations that are steady it only ever
  grows.

  So a run is bounded by any two texts of which each is all that the one
  side says to the other (`After.arrived_within`, `After.le_length`), and
  where nothing is left to deliver each side has got all that the other
  one said, which brings it at least as far as any part of it
  (`Settled.toFirst_of`, `Settled.toSecond_of`).
-/
import Failover.Proofs.Bytes.Conversation

namespace Failover.Bytes

/-- A fresh endpoint to which these pieces come. -/
def Endpoint.fresh (pieces : List (List UInt8)) (ending : Ending) : Endpoint :=
  ⟨⟨pieces, ending⟩, .empty none⟩

/-- What a conversation has written when these pieces have arrived. -/
def Exchange.said {α : Type} (x : Exchange α) (pieces : List (List UInt8)) : List UInt8 :=
  (x.outcome (.fresh pieces .closed)).2.sink.written

/-- The pieces that have arrived at two sides. -/
structure Link where
  toFirst : List (List UInt8)
  toSecond : List (List UInt8)

namespace Link

variable {α β : Type} {x : Exchange α} {y : Exchange β} {l l' : Link} {n : Nat}

/-! ## §1. Runs. -/

/-- **A piece arrives** of what the other side has said. -/
inductive Step (x : Exchange α) (y : Exchange β) : Link → Link → Prop
  | toFirst {l : Link} {piece : List UInt8} (nonempty : piece ≠ [])
      (next : l.toFirst.flatten ++ piece <+: y.said l.toSecond) :
      Step x y l { l with toFirst := l.toFirst ++ [piece] }
  | toSecond {l : Link} {piece : List UInt8} (nonempty : piece ≠ [])
      (next : l.toSecond.flatten ++ piece <+: x.said l.toFirst) :
      Step x y l { l with toSecond := l.toSecond ++ [piece] }

/-- What there is after a number of steps. -/
inductive After (x : Exchange α) (y : Exchange β) : Nat → Link → Prop
  | start : After x y 0 ⟨[], []⟩
  | step {n : Nat} {l l' : Link} : After x y n l → Step x y l l' → After x y (n + 1) l'

/-- Nothing is left to deliver. -/
def Final (x : Exchange α) (y : Exchange β) (l : Link) : Prop := ∀ l', ¬Step x y l l'

/-- Each side has got what the other one said. -/
structure Settled (x : Exchange α) (y : Exchange β) (l : Link) : Prop where
  first : l.toFirst.flatten = y.said l.toSecond
  second : l.toSecond.flatten = x.said l.toFirst

/-! ## §2. What is said. -/

/-- **The more arrives, the more is said**, whatever the pieces. -/
theorem said_mono (hx : x.Steady) {pieces pieces' : List (List UInt8)}
    (h : pieces.flatten <+: pieces'.flatten) : x.said pieces <+: x.said pieces' := by
  obtain ⟨more, hmore⟩ := h
  have hextended : Endpoint.Extended more (.fresh pieces .closed) (.fresh pieces' .closed) :=
    ⟨hmore.symm, rfl, rfl⟩
  exact hx.speaks hextended

/-- What is calculated of a conversation holds of it where these pieces have arrived. -/
theorem outcome_fresh {pieces : List (List UInt8)} {ending : Ending} {r : Except Fault α} {v : View}
    (h : x.Yields ⟨pieces.flatten, ending, []⟩ r v) :
    (x.outcome (.fresh pieces ending)).1 = r ∧
      (x.outcome (.fresh pieces ending)).2.source.bytes = v.unread ∧
      (x.outcome (.fresh pieces ending)).2.sink.written = v.written := by
  obtain ⟨e, hout, he⟩ := h (.fresh pieces ending) ⟨rfl, rfl, rfl, rfl⟩
  rw [hout]
  exact ⟨rfl, he.unread, he.written⟩

theorem said_eq {bytes : List UInt8} {r : Except Fault α} {v : View}
    (h : x.Yields ⟨bytes, .closed, []⟩ r v) : x.said [bytes] = v.written :=
  (outcome_fresh (by rwa [List.flatten_singleton])).2.2

/-! ## §3. What a step and a run preserve. -/

/-- What has arrived was said. -/
structure Sound (x : Exchange α) (y : Exchange β) (l : Link) : Prop where
  first : l.toFirst.flatten <+: y.said l.toSecond
  second : l.toSecond.flatten <+: x.said l.toFirst

theorem Step.sound (hx : x.Steady) (hy : y.Steady) (h : Step x y l l') (hl : Sound x y l) :
    Sound x y l' := by
  cases h with
  | toFirst _ next =>
      refine ⟨by rwa [List.flatten_concat], hl.second.trans (said_mono hx ?_)⟩
      rw [List.flatten_concat]
      exact List.prefix_append ..
  | toSecond _ next =>
      refine ⟨hl.first.trans (said_mono hy ?_), by rwa [List.flatten_concat]⟩
      rw [List.flatten_concat]
      exact List.prefix_append ..

theorem After.sound (hx : x.Steady) (hy : y.Steady) (h : After x y n l) : Sound x y l := by
  induction h with
  | start => exact ⟨List.nil_prefix, List.nil_prefix⟩
  | step _ hstep ih => exact hstep.sound hx hy ih

/-- **Where nothing is left to deliver, all that was said has arrived.** -/
theorem After.settled (hx : x.Steady) (hy : y.Steady) (h : After x y n l) (hfinal : Final x y l) :
    Settled x y l := by
  obtain ⟨⟨rest, hfirst⟩, ⟨rest', hsecond⟩⟩ := h.sound hx hy
  constructor
  · cases rest with
    | nil => rwa [List.append_nil] at hfirst
    | cons b bs =>
        have hnext : l.toFirst.flatten ++ b :: bs <+: y.said l.toSecond := by
          simp only [hfirst, List.prefix_refl]
        exact absurd (.toFirst (List.cons_ne_nil b bs) hnext) (hfinal _)
  · cases rest' with
    | nil => rwa [List.append_nil] at hsecond
    | cons b bs =>
        have hnext : l.toSecond.flatten ++ b :: bs <+: x.said l.toFirst := by
          simp only [hsecond, List.prefix_refl]
        exact absurd (.toSecond (List.cons_ne_nil b bs) hnext) (hfinal _)

/-- **Two texts that answer each other bound what arrives.** -/
theorem After.arrived_within (hx : x.Steady) (hy : y.Steady) (h : After x y n l)
    {a b : List UInt8} (ha : y.said [b] <+: a) (hb : x.said [a] <+: b) :
    l.toFirst.flatten <+: a ∧ l.toSecond.flatten <+: b := by
  induction h with
  | start => exact ⟨List.nil_prefix, List.nil_prefix⟩
  | step _ hstep ih =>
      -- what is said where less than the bound has arrived is within what is said at the bound
      obtain ⟨ihfirst, ihsecond⟩ := ih
      cases hstep with
      | toFirst _ next =>
          refine ⟨?_, ihsecond⟩
          rw [List.flatten_concat]
          exact (next.trans (said_mono hy (by rwa [List.flatten_singleton]))).trans ha
      | toSecond _ next =>
          refine ⟨ihfirst, ?_⟩
          rw [List.flatten_concat]
          exact (next.trans (said_mono hx (by rwa [List.flatten_singleton]))).trans hb

/-- Each step delivers something. -/
theorem After.le_arrived (h : After x y n l) :
    n ≤ l.toFirst.flatten.length + l.toSecond.flatten.length := by
  induction h with
  | start => exact Nat.zero_le _
  | step _ hstep ih =>
      cases hstep with
      | toFirst nonempty _ =>
          have hpos := List.length_pos_iff.2 nonempty
          dsimp only
          rw [List.flatten_concat, List.length_append]
          omega
      | toSecond nonempty _ =>
          have hpos := List.length_pos_iff.2 nonempty
          dsimp only
          rw [List.flatten_concat, List.length_append]
          omega

/-- So a run ends. -/
theorem After.le_length (hx : x.Steady) (hy : y.Steady) (h : After x y n l)
    {a b : List UInt8} (ha : y.said [b] <+: a) (hb : x.said [a] <+: b) :
    n ≤ a.length + b.length := by
  obtain ⟨hfirst, hsecond⟩ := h.arrived_within hx hy ha hb
  have hle := h.le_arrived
  have hfirst' := hfirst.length_le
  have hsecond' := hsecond.length_le
  omega

/-! ## §4. Where all has arrived. -/

/-- What has arrived at one side brings what it makes that side say to the other one. -/
theorem Settled.toSecond_of (hx : x.Steady) (h : Settled x y l) {a : List UInt8}
    (ha : a <+: l.toFirst.flatten) : x.said [a] <+: l.toSecond.flatten := by
  rw [h.second]
  exact said_mono hx (by rwa [List.flatten_singleton])

theorem Settled.toFirst_of (hy : y.Steady) (h : Settled x y l) {b : List UInt8}
    (hb : b <+: l.toSecond.flatten) : y.said [b] <+: l.toFirst.flatten := by
  rw [h.first]
  exact said_mono hy (by rwa [List.flatten_singleton])

/-- Where all has arrived nothing is left to deliver. -/
theorem Settled.final (h : Settled x y l) : Final x y l := by
  intro l' hstep
  cases hstep with
  | toFirst nonempty next =>
      rw [← h.first] at next
      have hle := next.length_le
      have hpos := List.length_pos_iff.2 nonempty
      rw [List.length_append] at hle
      omega
  | toSecond nonempty next =>
      rw [← h.second] at next
      have hle := next.length_le
      have hpos := List.length_pos_iff.2 nonempty
      rw [List.length_append] at hle
      omega

end Link

end Failover.Bytes
