/-
  Failover.Proofs.Bytes.Conversation
  ──────────────────────────────────
  **What a conversation says and what it understands.**  Ways to look at
  an `Exchange` that forget how the bytes to come are cut.

  The first one is for calculating.  `Yields x v r v'` says that on every
  endpoint with the view `v` the conversation `x` has the result `r` and
  leaves the view `v'`:

      ⟨bytes ++ rest, ending, written⟩  ── readExact ──▶  ⟨rest, ending, written⟩
      ⟨unread, ending, written⟩  ── writeAll ──▶  ⟨unread, ending, written ++ bytes⟩

  The second one compares.  A conversation is `Steady` if more bytes to
  come never change what it has done with those that were there: it may
  only say more, and where it came to a result it comes to the same one
  and leaves the rest.  Reading a fixed number of bytes is steady, writing
  is, and so is everything that is put together from them.

  One that `Fails` has written nothing on any endpoint.  Last, what a
  conversation comes to may be told for all streams at once: it `Follows`
  a table whose rows give a result and what is written.

  Main statements: `Yields.bind` and `Steady.bind`, with one lemma for
  each operation beside them, `written_of_fails` and `Follows.row_iff`.
-/
import Failover.Bytes.Stream

namespace Failover.Bytes

variable {α β : Type}

/-! ## §1. Views of endpoints. -/

/-- What there is to an endpoint apart from the cut: the bytes to come, how they end, and what was
written. -/
structure View where
  unread : List UInt8
  ending : Ending
  written : List UInt8

/-- An endpoint has a view, and takes all that is written. -/
structure Endpoint.Looks (e : Endpoint) (v : View) : Prop where
  unread : e.source.bytes = v.unread
  ending : e.source.ending = v.ending
  written : e.sink.written = v.written
  roomy : e.sink.room = none

/-- There is more to come to the second endpoint than to the first; both have written the same and
take all that is written. -/
structure Endpoint.Extended (more : List UInt8) (e d : Endpoint) : Prop where
  bytes : d.source.bytes = e.source.bytes ++ more
  sink : d.sink = e.sink
  roomy : e.sink.room = none

namespace Exchange

variable {x : Exchange α} {f : α → Exchange β} {e e' : Endpoint} {v v' v'' : View}

/-! ## §2. Outcomes. -/

theorem outcome_ofResult (r : Except Fault α) (e : Endpoint) : (ofResult r).outcome e = (r, e) := by
  cases r <;> rfl

/-- One conversation after another: after a fault there is nothing. -/
theorem outcome_bind (x : Exchange α) (f : α → Exchange β) (e : Endpoint) :
    (x >>= f).outcome e =
      match x.outcome e with
      | (.ok a, e') => (f a).outcome e'
      | (.error fault, e') => (.error fault, e') := by
  show outcome (EStateM.bind x f) e = _
  unfold outcome EStateM.bind
  rcases x e with ⟨a, e'⟩ | ⟨fault, e'⟩ <;> rfl

theorem outcome_bind_ok {a : α} (h : x.outcome e = (.ok a, e')) :
    (x >>= f).outcome e = (f a).outcome e' := by rw [outcome_bind, h]

theorem outcome_bind_error {fault : Fault} (h : x.outcome e = (.error fault, e')) :
    (x >>= f).outcome e = (.error fault, e') := by rw [outcome_bind, h]

theorem outcome_readExact (n : Nat) (e : Endpoint) :
    (readExact n).outcome e =
      ((e.source.readExact n).1.mapError .io, { e with source := (e.source.readExact n).2 }) := by
  unfold readExact ofSource outcome
  dsimp only
  rcases e.source.readExact n with ⟨_ | _, s⟩ <;> rfl

/-- What is read has the length that was asked for. -/
theorem length_of_readExact {n : Nat} {bytes : List UInt8}
    (h : ((readExact n).outcome e).1 = .ok bytes) : bytes.length = n := by
  rw [outcome_readExact] at h
  by_cases hle : n ≤ e.source.bytes.length
  · rw [(Source.readExact_of_le hle).1] at h
    rw [← Except.ok.inj h, List.length_take_of_le hle]
  · rw [(Source.readExact_of_lt (Nat.not_le.1 hle)).1] at h
    cases h

theorem outcome_writeAll (bytes : List UInt8) (e : Endpoint) :
    (writeAll bytes).outcome e =
      ((e.sink.writeAll bytes).1.mapError .io, { e with sink := (e.sink.writeAll bytes).2 }) := by
  unfold writeAll ofSink outcome
  dsimp only
  rcases e.sink.writeAll bytes with ⟨_ | _, s⟩ <;> rfl

/-- Without a limit, all that is written is taken. -/
theorem outcome_writeAll_of_roomy (h : e.sink.room = none) (bytes : List UInt8) :
    (writeAll bytes).outcome e =
      (.ok (), { e with sink := { e.sink with written := e.sink.written ++ bytes } }) := by
  rw [outcome_writeAll, Sink.writeAll_of_roomy h]
  rfl

/-- With one, as much of it as there is room for. -/
theorem sink_writeAll (bytes : List UInt8) (e : Endpoint) :
    ((writeAll bytes).outcome e).2.sink =
      e.sink.take (bytes.take (e.sink.accepts bytes.length)) := by
  rw [outcome_writeAll]
  unfold Sink.writeAll
  dsimp only
  split <;> rfl

/-- How a fault is told, if it is one of reading or writing. -/
def tell (why : IoFault → ConnectionFault) : Fault → Fault
  | .io cause => .connection (why cause)
  | fault => fault

theorem outcome_explained (x : Exchange α) (why : IoFault → ConnectionFault) (e : Endpoint) :
    (x.explained why).outcome e = ((x.outcome e).1.mapError (tell why), (x.outcome e).2) := by
  unfold explained outcome
  dsimp only
  rcases x e with ⟨a, e'⟩ | ⟨fault, e'⟩
  · rfl
  · cases fault <;> rfl

/-! ## §3. Calculating. -/

/-- **On an endpoint with a view, a conversation has a result and leaves a view.** -/
def Yields (x : Exchange α) (v : View) (r : Except Fault α) (v' : View) : Prop :=
  ∀ e, e.Looks v → ∃ e', x.outcome e = (r, e') ∧ e'.Looks v'

theorem yields_pure (a : α) (v : View) : (pure a : Exchange α).Yields v (.ok a) v :=
  fun e h => ⟨e, rfl, h⟩

theorem yields_throw (fault : Fault) (v : View) :
    (throw fault : Exchange α).Yields v (.error fault) v := fun e h => ⟨e, rfl, h⟩

theorem yields_ofResult (r : Except Fault α) (v : View) : (ofResult r).Yields v r v :=
  fun e h => ⟨e, outcome_ofResult r e, h⟩

theorem Yields.bind {a : α} {r : Except Fault β} (hx : x.Yields v (.ok a) v')
    (hf : (f a).Yields v' r v'') : (x >>= f).Yields v r v'' := by
  intro e he
  obtain ⟨e', hout, he'⟩ := hx e he
  rw [outcome_bind_ok hout]
  exact hf e' he'

theorem Yields.bind_error {fault : Fault} (hx : x.Yields v (.error fault) v') :
    (x >>= f).Yields v (.error fault) v' := by
  intro e he
  obtain ⟨e', hout, he'⟩ := hx e he
  exact ⟨e', outcome_bind_error hout, he'⟩

theorem Yields.explained {r : Except Fault α} (hx : x.Yields v r v')
    (why : IoFault → ConnectionFault) :
    (x.explained why).Yields v (r.mapError (tell why)) v' := by
  intro e he
  obtain ⟨e', hout, he'⟩ := hx e he
  exact ⟨e', by rw [outcome_explained, hout], he'⟩

/-- What is not the case is not complained about. -/
theorem Yields.unless {c : Prop} [Decidable c] {fault : Fault} {k : Unit → Exchange β}
    {r : Except Fault β} (hc : ¬c) (hk : (k ()).Yields v r v') :
    (if c then throw fault >>= k else k ()).Yields v r v' := by rwa [if_neg hc]

/-- What is the case is. -/
theorem yields_complaint {c : Prop} [Decidable c] {fault : Fault} {k : Unit → Exchange β}
    (hc : c) (v : View) : (if c then throw fault >>= k else k ()).Yields v (.error fault) v := by
  rw [if_pos hc]
  exact (yields_throw fault v).bind_error

/-- With enough bytes to come, the first ones are read and the others left. -/
theorem yields_readExact (bytes rest : List UInt8) {n : Nat} (h : bytes.length = n)
    (ending : Ending) (written : List UInt8) :
    (readExact n).Yields ⟨bytes ++ rest, ending, written⟩ (.ok bytes) ⟨rest, ending, written⟩ := by
  intro e he
  have hle : n ≤ e.source.bytes.length := by
    rw [he.unread, List.length_append]
    omega
  obtain ⟨hread, hleft⟩ := Source.readExact_of_le hle
  rw [he.unread, List.take_left' h] at hread
  rw [he.unread, List.drop_left' h] at hleft
  have hending := (e.source.ending_readExact n).trans he.ending
  refine ⟨{ e with source := (e.source.readExact n).2 }, ?_, hleft, hending, he.written, he.roomy⟩
  rw [outcome_readExact, hread]
  rfl

/-- With too few, nothing is read, and nothing is left. -/
theorem yields_readExact_short {n : Nat} {unread : List UInt8} (h : unread.length < n)
    (ending : Ending) (written : List UInt8) :
    (readExact n).Yields ⟨unread, ending, written⟩ (.error (.io ending.cause))
      ⟨[], ending, written⟩ := by
  intro e he
  obtain ⟨hread, hleft⟩ := Source.readExact_of_lt (s := e.source) (n := n) (by rwa [he.unread])
  have hending := (e.source.ending_readExact n).trans he.ending
  refine ⟨{ e with source := (e.source.readExact n).2 }, ?_, hleft, hending, he.written, he.roomy⟩
  rw [outcome_readExact, hread, he.ending]
  rfl

theorem yields_writeAll (bytes : List UInt8) (v : View) :
    (writeAll bytes).Yields v (.ok ()) { v with written := v.written ++ bytes } := by
  intro e he
  refine ⟨_, outcome_writeAll_of_roomy he.roomy bytes, he.unread, he.ending, ?_, he.roomy⟩
  exact congrArg (· ++ bytes) he.written

/-! ## §4. Comparing. -/

/-- **A conversation that more bytes to come do not disturb.** -/
structure Steady (x : Exchange α) : Prop where
  /-- What was written stays written, and a sink without a limit stays one. -/
  grows : ∀ {e}, e.sink.room = none →
    (x.outcome e).2.sink.room = none ∧ e.sink.written <+: (x.outcome e).2.sink.written
  /-- With more to come, more is said. -/
  speaks : ∀ {more e d}, e.Extended more d →
    (x.outcome e).2.sink.written <+: (x.outcome d).2.sink.written
  /-- A result stays, and what is more to come is left. -/
  stays : ∀ {more e d a e'}, e.Extended more d → x.outcome e = (.ok a, e') →
    ∃ d', x.outcome d = (.ok a, d') ∧ e'.Extended more d'

/-- What does nothing but have a result is steady. -/
theorem steady_of_idle {r : Except Fault α} (h : ∀ e, x.outcome e = (r, e)) : x.Steady where
  grows he := by
    rw [h]
    exact ⟨he, List.prefix_refl _⟩
  speaks he := by
    simp only [h, he.sink, List.prefix_refl]
  stays he hout := by
    rw [h] at hout
    obtain ⟨rfl, rfl⟩ := Prod.mk.inj hout
    exact ⟨_, h _, he⟩

theorem steady_pure (a : α) : (pure a : Exchange α).Steady := steady_of_idle fun _ => rfl

theorem steady_throw (fault : Fault) : (throw fault : Exchange α).Steady :=
  steady_of_idle fun _ => rfl

theorem steady_ofResult (r : Except Fault α) : (ofResult r).Steady :=
  steady_of_idle (outcome_ofResult r)

theorem steady_readExact (n : Nat) : (readExact n).Steady where
  grows he := by
    rw [outcome_readExact]
    exact ⟨he, List.prefix_refl _⟩
  speaks he := by
    simp only [outcome_readExact, he.sink, List.prefix_refl]
  stays := by
    intro more e d a e' he hout
    rw [outcome_readExact] at hout
    obtain ⟨hread, rfl⟩ := Prod.mk.inj hout
    -- a result means that there was enough, and there is no less with more to come
    by_cases hle : n ≤ e.source.bytes.length
    · have hle' : n ≤ d.source.bytes.length := by
        rw [he.bytes, List.length_append]
        omega
      obtain ⟨hread', hleft'⟩ := Source.readExact_of_le hle'
      rw [(Source.readExact_of_le hle).1] at hread
      rw [he.bytes, List.take_append_of_le_length hle] at hread'
      rw [he.bytes, List.drop_append_of_le_length hle,
        ← (Source.readExact_of_le hle).2] at hleft'
      refine ⟨{ d with source := (d.source.readExact n).2 }, ?_, hleft', he.sink, he.roomy⟩
      rw [outcome_readExact, hread', ← hread]
    · rw [(Source.readExact_of_lt (Nat.not_le.1 hle)).1] at hread
      cases hread

theorem steady_writeAll (bytes : List UInt8) : (writeAll bytes).Steady where
  grows he := by
    rw [outcome_writeAll_of_roomy he]
    exact ⟨he, List.prefix_append ..⟩
  speaks := by
    intro more e d he
    have hroomy : d.sink.room = none := he.sink ▸ he.roomy
    simp only [outcome_writeAll_of_roomy he.roomy, outcome_writeAll_of_roomy hroomy, he.sink,
      List.prefix_refl]
  stays he hout := by
    rw [outcome_writeAll_of_roomy he.roomy] at hout
    obtain ⟨-, rfl⟩ := Prod.mk.inj hout
    refine ⟨_, outcome_writeAll_of_roomy (he.sink ▸ he.roomy) bytes, he.bytes, ?_, he.roomy⟩
    rw [he.sink]

theorem Steady.explained (hx : x.Steady) (why : IoFault → ConnectionFault) :
    (x.explained why).Steady where
  grows he := by
    rw [outcome_explained]
    exact hx.grows he
  speaks he := by
    rw [outcome_explained, outcome_explained]
    exact hx.speaks he
  stays := by
    intro more e d a e' he hout
    rcases hx' : x.outcome e with ⟨fault | b, e''⟩
    · rw [outcome_explained, hx'] at hout
      cases hout
    · rw [outcome_explained, hx'] at hout
      obtain ⟨hb, rfl⟩ := Prod.mk.inj hout
      obtain rfl : b = a := Except.ok.inj hb
      obtain ⟨d', hout', he'⟩ := hx.stays he hx'
      refine ⟨d', ?_, he'⟩
      rw [outcome_explained, hout']
      rfl

/-- What comes after a conversation only adds to what it wrote. -/
theorem written_prefix_bind (hf : ∀ a, (f a).Steady) (he : (x.outcome e).2.sink.room = none) :
    ((x >>= f).outcome e).2.sink.room = none ∧
      (x.outcome e).2.sink.written <+: ((x >>= f).outcome e).2.sink.written := by
  rcases hout : x.outcome e with ⟨fault | a, e'⟩
  · rw [hout] at he
    rw [outcome_bind_error hout]
    exact ⟨he, List.prefix_refl _⟩
  · rw [hout] at he
    rw [outcome_bind_ok hout]
    exact (hf a).grows he

/-- **One steady conversation after another is steady.** -/
theorem Steady.bind (hx : x.Steady) (hf : ∀ a, (f a).Steady) : (x >>= f).Steady where
  grows := by
    intro e he
    obtain ⟨hroomy, hgrows⟩ := hx.grows he
    obtain ⟨hroomy', hgrows'⟩ := written_prefix_bind hf hroomy
    exact ⟨hroomy', hgrows.trans hgrows'⟩
  speaks := by
    intro more e d he
    rcases hout : x.outcome e with ⟨fault | a, e'⟩
    · -- the first one says more with more to come, and the second one only adds to it
      have hspeaks := hx.speaks he
      have hroomy := (hx.grows (e := d) (he.sink ▸ he.roomy)).1
      rw [outcome_bind_error hout]
      rw [hout] at hspeaks
      exact hspeaks.trans (written_prefix_bind hf hroomy).2
    · obtain ⟨d', hout', he'⟩ := hx.stays he hout
      rw [outcome_bind_ok hout, outcome_bind_ok hout']
      exact (hf a).speaks he'
  stays := by
    intro more e d b e' he hout
    rcases hx' : x.outcome e with ⟨fault | a, e''⟩
    · rw [outcome_bind_error hx'] at hout
      cases hout
    · rw [outcome_bind_ok hx'] at hout
      obtain ⟨d'', hout', he''⟩ := hx.stays he hx'
      rw [outcome_bind_ok hout']
      exact (hf a).stays he'' hout

/-- A complaint, or what comes without one. -/
theorem Steady.unless {c : Prop} [Decidable c] {fault : Fault} {k : Unit → Exchange β}
    (hk : ∀ u, (k u).Steady) : (if c then throw fault >>= k else k ()).Steady := by
  split
  · exact (steady_throw fault).bind hk
  · exact hk ()

/-! ## §5. Silence. -/

/-- A conversation fails, and has written nothing. -/
def Fails (x : Exchange α) : Prop :=
  ∀ e, ∃ fault, (x.outcome e).1 = .error fault ∧ (x.outcome e).2.sink = e.sink

/-- Before one that fails, a conversation writes all that is written. -/
theorem outcome_bind_of_fails (x : Exchange α) (hf : ∀ a, (f a).Fails) (e : Endpoint) :
    ∃ fault, ((x >>= f).outcome e).1 = .error fault ∧
      ((x >>= f).outcome e).2.sink = (x.outcome e).2.sink := by
  rcases hout : x.outcome e with ⟨fault | a, e'⟩
  · rw [outcome_bind_error hout]
    exact ⟨fault, rfl, rfl⟩
  · rw [outcome_bind_ok hout]
    exact hf a e'

/-- Reading comes to nothing before what fails. -/
theorem fails_readExact_bind {f : List UInt8 → Exchange β} (hf : ∀ bytes, (f bytes).Fails) (n : Nat)
    (why : IoFault → ConnectionFault) : ((readExact n).explained why >>= f).Fails := by
  intro e
  obtain ⟨fault, hfault, hsink⟩ := outcome_bind_of_fails ((readExact n).explained why) hf e
  rw [outcome_explained, outcome_readExact] at hsink
  exact ⟨fault, hfault, hsink⟩

theorem fails_ofResult_bind {r : Except Fault α} (hf : ∀ a, (f a).Fails) :
    (ofResult r >>= f).Fails := by
  intro e
  obtain ⟨fault, hfault, hsink⟩ := outcome_bind_of_fails (ofResult r) hf e
  rw [outcome_ofResult] at hsink
  exact ⟨fault, hfault, hsink⟩

/-- What is written before what fails, on a sink that may have a limit. -/
theorem written_of_fails {f : Unit → Exchange β} (hf : ∀ u, (f u).Fails) (bytes : List UInt8)
    (why : IoFault → ConnectionFault) (e : Endpoint) :
    ∃ fault k, (((writeAll bytes).explained why >>= f).outcome e).1 = .error fault ∧
      (((writeAll bytes).explained why >>= f).outcome e).2.sink.written =
        e.sink.written ++ bytes.take k := by
  obtain ⟨fault, hfault, hsink⟩ := outcome_bind_of_fails ((writeAll bytes).explained why) hf e
  refine ⟨fault, e.sink.accepts bytes.length, hfault, ?_⟩
  rw [hsink, outcome_explained, sink_writeAll]
  rfl

theorem Fails.unless {c : Prop} [Decidable c] {fault : Fault} {k : Unit → Exchange β}
    (hk : (k ()).Fails) : (if c then throw fault >>= k else k ()).Fails := by
  split
  · intro e
    exact ⟨fault, rfl, rfl⟩
  · exact hk

/-! ## §6. Tables. -/

/-- **A conversation follows a table.**  Each stream has a row, and a row tells what comes of the
stream: a result, and what is written.  Of the bytes to come as many are read as the extent says,
or all if there are fewer. -/
structure Follows (x : Exchange α) (extent : List UInt8 → Nat)
    (Row : Ending → List UInt8 → Except Fault α → List UInt8 → Prop) : Prop where
  yields : ∀ {ending bytes r said}, Row ending bytes r said → ∀ written,
    x.Yields ⟨bytes, ending, written⟩ r ⟨bytes.drop (extent bytes), ending, written ++ said⟩
  total : ∀ ending bytes, ∃ r said, Row ending bytes r said

variable {extent : List UInt8 → Nat}
  {Row : Ending → List UInt8 → Except Fault α → List UInt8 → Prop}

/-- An endpoint that takes all that is written ends in the row of its stream. -/
theorem Follows.outcome_of_row (h : x.Follows extent Row) (he : e.sink.room = none)
    {r : Except Fault α} {said : List UInt8} (hrow : Row e.source.ending e.source.bytes r said) :
    ∃ e', x.outcome e = (r, e') ∧
      e'.Looks ⟨e.source.bytes.drop (extent e.source.bytes), e.source.ending,
        e.sink.written ++ said⟩ :=
  h.yields hrow e.sink.written e ⟨rfl, rfl, rfl, he⟩

/-- **The row of a stream** is the one with the result and with what was written. -/
theorem Follows.row_iff (h : x.Follows extent Row) (he : e.sink.room = none)
    {r : Except Fault α} {said : List UInt8} :
    Row e.source.ending e.source.bytes r said ↔
      (x.outcome e).1 = r ∧ (x.outcome e).2.sink.written = e.sink.written ++ said := by
  constructor
  · intro hrow
    obtain ⟨e', hout, he'⟩ := h.outcome_of_row he hrow
    rw [hout]
    exact ⟨rfl, he'.written⟩
  · rintro ⟨hr, hsaid⟩
    obtain ⟨r', said', hrow⟩ := h.total e.source.ending e.source.bytes
    obtain ⟨e', hout, he'⟩ := h.outcome_of_row he hrow
    rw [hout] at hr hsaid
    rw [he'.written] at hsaid
    obtain rfl : r' = r := hr
    obtain rfl : said' = said := List.append_cancel_left hsaid
    exact hrow

/-- A result is that of some row, -/
theorem Follows.result_iff (h : x.Follows extent Row) (he : e.sink.room = none)
    {r : Except Fault α} :
    (x.outcome e).1 = r ↔ ∃ said, Row e.source.ending e.source.bytes r said := by
  constructor
  · rintro rfl
    obtain ⟨r, said, hrow⟩ := h.total e.source.ending e.source.bytes
    obtain ⟨e', hout, -⟩ := h.outcome_of_row he hrow
    rw [hout]
    exact ⟨said, hrow⟩
  · rintro ⟨said, hrow⟩
    exact ((h.row_iff he).1 hrow).1

/-- and what is left is what the extent leaves. -/
theorem Follows.bytes_eq (h : x.Follows extent Row) (he : e.sink.room = none) :
    (x.outcome e).2.source.bytes = e.source.bytes.drop (extent e.source.bytes) := by
  obtain ⟨r, said, hrow⟩ := h.total e.source.ending e.source.bytes
  obtain ⟨e', hout, he'⟩ := h.outcome_of_row he hrow
  rw [hout]
  exact he'.unread

end Exchange

end Failover.Bytes
