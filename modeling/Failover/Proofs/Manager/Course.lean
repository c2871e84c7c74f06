/-
  Failover.Proofs.Manager.Course
  ──────────────────────────────
  **The courses an attempt can take.** `State.followers` is the diagram of
  states: what may follow a state in the same attempt.  An event follows
  another one if its state does, the connection stays, and the service is
  named at the start of the service and kept from then on.

  Main statements: `Event.course_of_isChain` — events that follow each
  other from the first one on run along one of the eight `courses` — and
  `Event.exists_attempts` — events of which each follows the one before it,
  or is a first one after an end, are attempts one after the other.
-/
import Failover.Manager.Event
import Mathlib.Data.List.Chain

namespace Failover.Manager

/-! ## §1. The diagram of states. -/

namespace State

/-- The states that may follow a state in the same attempt. -/
def followers : State → List State
  | .init => [.serviceInit]
  | .serviceInit => [.serviceStart, .failed, .notConfigured]
  | .serviceStart => [.test, .wrongProtocol, .failed]
  | .test => [.up, .testFailed]
  | .up => [.testFailed]
  | .wrongProtocol => [.failed]
  | .testFailed => [.failed, .notConfigured]
  | .failed => [.ended]
  | .notConfigured => [.ended]
  | .ended => []

/-- The ways from a state to the end, as far as they have at most so many states. -/
def waysWithin : Nat → State → List (List State)
  | 0, _ => []
  | _ + 1, .ended => [[.ended]]
  | n + 1, s => s.followers.flatMap fun t => (waysWithin n t).map (s :: ·)

/-- The ways from a state to the end; none has more than eight states. -/
def ways (s : State) : List (List State) := waysWithin 8 s

/-- **The courses of an attempt**, from its first state to its end. -/
def courses : List (List State) :=
  [[.init, .serviceInit, .serviceStart, .test, .up, .testFailed, .failed, .ended],
    [.init, .serviceInit, .serviceStart, .test, .up, .testFailed, .notConfigured, .ended],
    [.init, .serviceInit, .serviceStart, .test, .testFailed, .failed, .ended],
    [.init, .serviceInit, .serviceStart, .test, .testFailed, .notConfigured, .ended],
    [.init, .serviceInit, .serviceStart, .wrongProtocol, .failed, .ended],
    [.init, .serviceInit, .serviceStart, .failed, .ended],
    [.init, .serviceInit, .failed, .ended],
    [.init, .serviceInit, .notConfigured, .ended]]

/-- The courses are all the ways that the diagram has from the first state to the end. -/
theorem ways_init : ways .init = courses := by decide

theorem ways_ended : ways .ended = [[.ended]] := rfl

/-- A step in front of a way is a way. -/
theorem cons_mem_ways {s t : State} (h : t ∈ s.followers) :
    ∀ w ∈ ways t, s :: w ∈ ways s := by
  cases s <;> revert h <;> cases t <;> decide

/-- From every state there is a way, and it begins there. -/
theorem exists_way (s : State) : ∃ w, s :: w ∈ ways s := by
  cases s <;> exact ⟨_, List.mem_cons_self⟩

/-- Whoever goes along the diagram has gone a part of a way. -/
theorem prefix_way_of_isChain (s : State) (l : List State)
    (h : (s :: l).IsChain fun s t => t ∈ s.followers) : ∃ w ∈ ways s, s :: l <+: w := by
  induction l generalizing s with
  | nil =>
      obtain ⟨w, hw⟩ := exists_way s
      exact ⟨s :: w, hw, by simp⟩
  | cons t rest ih =>
      rw [List.isChain_cons_cons] at h
      obtain ⟨w, hw, hp⟩ := ih t h.2
      exact ⟨s :: w, cons_mem_ways h.1 w hw, List.cons_prefix_cons.2 ⟨rfl, hp⟩⟩

/-- Whoever goes along the diagram to the end has gone a way. -/
theorem mem_ways_of_isChain (s : State) (l : List State)
    (h : (s :: l).IsChain fun s t => t ∈ s.followers)
    (hend : (s :: l).getLast? = some .ended) : s :: l ∈ ways s := by
  induction l generalizing s with
  | nil =>
      have hs : s = .ended := by simpa using hend
      rw [hs, ways_ended]
      exact List.mem_cons_self
  | cons t rest ih =>
      rw [List.isChain_cons_cons] at h
      rw [List.getLast?_cons_cons] at hend
      exact cons_mem_ways h.1 _ (ih t h.2 hend)

end State

/-! ## §2. Events of one attempt. -/

namespace Event

/-- An event that begins an attempt. -/
def IsFirst (e : Event) : Prop := e.state = .init ∧ e.service = none

/-- An event follows another one in the same attempt. -/
structure Follows (e e' : Event) : Prop where
  state : e'.state ∈ e.state.followers
  connection : e'.connection = e.connection
  service : if e'.state = .serviceStart then e.service = none ∧ e'.service.isSome
    else e'.service = e.service

/-- An event may come next after another one. -/
def Precedes (e e' : Event) : Prop := (e.state = .ended ∧ e'.IsFirst) ∨ e.Follows e'

/-- Where the service of an attempt is named: not before its start, and one and the same from
then on. -/
def NamesService (es : List Event) : Prop :=
  ∃ before after, ∃ id : String, es = before ++ after ∧
    (∀ e ∈ before, e.state ≠ .serviceStart ∧ e.service = none) ∧
    (∀ e ∈ after, e.service = some id) ∧
    (∀ e, after.head? = some e → e.state = .serviceStart)

/-- **The events of one attempt** as far as it has come: along one of the courses, about one
connection, with one service. -/
structure IsAttempt (es : List Event) : Prop where
  begun : es ≠ []
  course : ∃ w ∈ State.courses, es.map (·.state) <+: w
  connection : ∃ c : Connection, ∀ e ∈ es, e.connection = c
  service : NamesService es

/-- The events of one attempt from its beginning to its end. -/
def IsWholeAttempt (es : List Event) : Prop := IsAttempt es ∧ es.map (·.state) ∈ State.courses

theorem first_isFirst (c : Connection) : (first c).IsFirst := ⟨rfl, rfl⟩

theorem Precedes.follows {e e' : Event} (h : e.Precedes e') (hs : e.state ≠ .ended) :
    e.Follows e' :=
  h.resolve_left fun h => hs h.1

/-- The states of a chain of events go along the diagram. -/
theorem isChain_states {es : List Event} (h : es.IsChain Follows) :
    (es.map (·.state)).IsChain fun s t => t ∈ s.followers := by
  rw [List.isChain_map]
  exact h.imp fun _ _ hf => hf.state

/-- One connection goes through a chain of events. -/
theorem connection_of_isChain (e : Event) (es : List Event) (h : (e :: es).IsChain Follows) :
    ∀ x ∈ e :: es, x.connection = e.connection := by
  induction es generalizing e with
  | nil => simp
  | cons e' rest ih =>
      rw [List.isChain_cons_cons] at h
      intro x hx
      rcases List.mem_cons.1 hx with rfl | hx
      · rfl
      · rw [ih e' h.2 x hx, h.1.connection]

/-- After a service was named, or after a state that no start follows, the service stays. -/
theorem service_of_isChain (e : Event) (es : List Event) (h : (e :: es).IsChain Follows)
    (hs : e.service ≠ none) : ∀ x ∈ e :: es, x.service = e.service := by
  induction es generalizing e with
  | nil => simp
  | cons e' rest ih =>
      rw [List.isChain_cons_cons] at h
      have he : e'.service = e.service := by
        have hf := h.1.service
        split at hf
        · exact absurd hf.1 hs
        · exact hf
      intro x hx
      rcases List.mem_cons.1 hx with rfl | hx
      · rfl
      · rw [ih e' h.2 (he ▸ hs) x hx, he]

/-- A chain of events that begins without a service names one at the start of the service, if it
gets there. -/
theorem namesService_of_isChain (e : Event) (es : List Event) (h : (e :: es).IsChain Follows)
    (hn : e.service = none) (hs : e.state ≠ .serviceStart) : NamesService (e :: es) := by
  induction es generalizing e with
  | nil =>
      refine ⟨[e], [], "", rfl, ?_, by simp, by simp⟩
      intro x hx
      rw [List.mem_singleton.1 hx]
      exact ⟨hs, hn⟩
  | cons e' rest ih =>
      rw [List.isChain_cons_cons] at h
      have hf := h.1.service
      by_cases hstart : e'.state = .serviceStart
      · -- the service is named here, and stays
        rw [if_pos hstart] at hf
        obtain ⟨id, hid⟩ := Option.isSome_iff_exists.1 hf.2
        refine ⟨[e], e' :: rest, id, rfl, ?_, ?_, ?_⟩
        · intro x hx
          rw [List.mem_singleton.1 hx]
          exact ⟨hs, hn⟩
        · intro x hx
          rw [service_of_isChain e' rest h.2 (by rw [hid]; simp) x hx, hid]
        · intro x hx
          obtain rfl : e' = x := by simpa using hx
          exact hstart
      · rw [if_neg hstart, hn] at hf
        obtain ⟨before, after, id, heq, hb, ha, hh⟩ := ih e' h.2 hf hstart
        refine ⟨e :: before, after, id, by rw [heq]; rfl, ?_, ha, hh⟩
        intro x hx
        rcases List.mem_cons.1 hx with rfl | hx
        · exact ⟨hs, hn⟩
        · exact hb x hx

/-- **Events that follow each other from a first one on are an attempt.** -/
theorem isAttempt_of_isChain {e : Event} {es : List Event} (hfirst : e.IsFirst)
    (h : (e :: es).IsChain Follows) : IsAttempt (e :: es) where
  begun := List.cons_ne_nil e es
  course := by
    have hc := isChain_states h
    rw [List.map_cons] at hc ⊢
    rw [hfirst.1] at hc ⊢
    obtain ⟨w, hw, hp⟩ := State.prefix_way_of_isChain .init _ hc
    exact ⟨w, State.ways_init ▸ hw, hp⟩
  connection := ⟨e.connection, connection_of_isChain e es h⟩
  service := namesService_of_isChain e es h hfirst.2 (by rw [hfirst.1]; decide)

/-- Such an attempt is whole when it has come to its end. -/
theorem isWholeAttempt_of_isChain {e : Event} {es : List Event} (hfirst : e.IsFirst)
    (h : (e :: es).IsChain Follows)
    (hend : ∀ x, (e :: es).getLast? = some x → x.state = .ended) : IsWholeAttempt (e :: es) := by
  refine ⟨isAttempt_of_isChain hfirst h, ?_⟩
  have hc := isChain_states h
  have hlast : ((e :: es).map (·.state)).getLast? = some .ended := by
    rw [List.getLast?_map, List.getLast?_eq_some_getLast (List.cons_ne_nil e es)]
    have hx := hend _ (List.getLast?_eq_some_getLast (List.cons_ne_nil e es))
    simpa using hx
  rw [List.map_cons] at hc hlast ⊢
  rw [hfirst.1] at hc hlast ⊢
  rw [← State.ways_init]
  exact State.mem_ways_of_isChain .init _ hc hlast

/-! ## §3. Attempts one after the other. -/

/-- A list of events in which each may come next after the one before it, and that begins with a
first one. -/
structure InOrder (es : List Event) : Prop where
  first : ∀ e, es.head? = some e → e.IsFirst
  chain : es.IsChain Precedes

theorem inOrder_nil : InOrder [] := ⟨by simp, List.isChain_nil⟩

/-- An event that may come next keeps the order. -/
theorem InOrder.append {es : List Event} {e : Event} (h : InOrder es)
    (hfirst : es = [] → e.IsFirst) (hnext : ∀ x, es.getLast? = some x → x.Precedes e) :
    InOrder (es ++ [e]) where
  first := by
    intro x hx
    cases es with
    | nil =>
        obtain rfl : e = x := by simpa using hx
        exact hfirst rfl
    | cons y rest => exact h.first x (by simpa using hx)
  chain := by
    rw [List.isChain_append]
    refine ⟨h.chain, List.isChain_singleton e, ?_⟩
    intro x hx y hy
    obtain rfl : e = y := by simpa using hy
    exact hnext x (by simpa using hx)

/-- What comes first is in order. -/
theorem InOrder.left {es es' : List Event} (h : InOrder (es ++ es')) : InOrder es where
  first := by
    intro x hx
    cases es with
    | nil => simp at hx
    | cons y rest => exact h.first x (by simpa using hx)
  chain := (List.isChain_append.1 h.chain).1

/-- Attempts of which all but the last have ended, each as a chain of events. -/
structure Split (attempts : List (List Event)) : Prop where
  chain : ∀ a ∈ attempts, ∃ e rest, a = e :: rest ∧ e.IsFirst ∧ (e :: rest).IsChain Follows
  ended : ∀ a ∈ attempts.dropLast, ∀ x, a.getLast? = some x → x.state = .ended

/-- Another attempt begins when all others have ended. -/
theorem Split.push {attempts : List (List Event)} {e : Event} (h : Split attempts)
    (hended : ∀ a ∈ attempts, ∀ x, a.getLast? = some x → x.state = .ended) (hf : e.IsFirst) :
    Split (attempts ++ [[e]]) where
  chain := by
    refine List.forall_mem_append.2 ⟨h.chain, List.forall_mem_singleton.2 ?_⟩
    exact ⟨e, [], rfl, hf, List.isChain_singleton e⟩
  ended := by
    rw [List.dropLast_concat]
    exact hended

/-- The last attempt goes on. -/
theorem Split.extend {init : List (List Event)} {last : List Event} {x e : Event}
    (h : Split (init ++ [last])) (hx : last.getLast? = some x) (hf : x.Follows e) :
    Split (init ++ [last ++ [e]]) where
  chain := by
    obtain ⟨hinit, hlast⟩ := List.forall_mem_append.1 h.chain
    obtain ⟨e₀, rest, rfl, hfirst, hchain⟩ := hlast last (List.mem_singleton.2 rfl)
    refine List.forall_mem_append.2 ⟨hinit, List.forall_mem_singleton.2 ?_⟩
    refine ⟨e₀, rest ++ [e], rfl, hfirst, ?_⟩
    rw [← List.cons_append, List.isChain_append]
    refine ⟨hchain, List.isChain_singleton e, ?_⟩
    intro y hy z hz
    obtain rfl : e = z := by simpa using hz
    obtain rfl : x = y := Option.some.inj (hx.symm.trans hy)
    exact hf
  ended := by
    have hended := h.ended
    rw [List.dropLast_concat] at hended ⊢
    exact hended

/-- Events in order are split into attempts. -/
theorem InOrder.exists_split {es : List Event} (h : InOrder es) :
    ∃ attempts : List (List Event), es = attempts.flatten ∧ Split attempts := by
  induction es using List.reverseRecOn with
  | nil => exact ⟨[], rfl, by simp, by simp⟩
  | append_singleton es e ih =>
      obtain ⟨attempts, heq, hsplit⟩ := ih h.left
      -- the last event before decides whether an attempt begins or goes on
      cases hx : es.getLast? with
      | none =>
          obtain rfl : es = [] := List.getLast?_eq_none_iff.1 hx
          have hnil : Split [] := ⟨by simp, by simp⟩
          exact ⟨[[e]], rfl, hnil.push (by simp) (h.first e rfl)⟩
      | some x =>
          have hp : x.Precedes e := (List.isChain_append.1 h.chain).2.2 x hx e rfl
          have hne : attempts ≠ [] := by
            rintro rfl
            rw [heq] at hx
            cases hx
          obtain ⟨init, last, rfl⟩ : ∃ init last, attempts = init ++ [last] :=
            ⟨attempts.dropLast, attempts.getLast hne, (List.dropLast_append_getLast hne).symm⟩
          have hlx : last.getLast? = some x := by
            obtain ⟨e₀, rest, hlast, -⟩ := hsplit.chain last (by simp)
            rw [heq, List.flatten_append, hlast] at hx
            rw [hlast]
            simpa using hx
          rcases hp with ⟨hended, hf⟩ | hf
          · have hinit := hsplit.ended
            rw [List.dropLast_concat] at hinit
            refine ⟨init ++ [last] ++ [[e]], by rw [heq]; simp, hsplit.push ?_ hf⟩
            refine List.forall_mem_append.2 ⟨hinit, List.forall_mem_singleton.2 fun y hy => ?_⟩
            rw [hlx] at hy
            rw [← Option.some.inj hy]
            exact hended
          · refine ⟨init ++ [last ++ [e]], ?_, hsplit.extend hlx hf⟩
            rw [heq, List.flatten_append, List.flatten_append]
            simp

/-- **Events in order are attempts, one after the other**; all but the last are whole. -/
theorem InOrder.exists_attempts {es : List Event} (h : InOrder es) :
    ∃ attempts : List (List Event), es = attempts.flatten ∧ (∀ a ∈ attempts, IsAttempt a) ∧
      ∀ a ∈ attempts.dropLast, IsWholeAttempt a := by
  obtain ⟨attempts, heq, hsplit⟩ := h.exists_split
  refine ⟨attempts, heq, ?_, ?_⟩
  · intro a ha
    obtain ⟨e, rest, rfl, hfirst, hchain⟩ := hsplit.chain a ha
    exact isAttempt_of_isChain hfirst hchain
  · intro a ha
    obtain ⟨e, rest, rfl, hfirst, hchain⟩ := hsplit.chain a (List.dropLast_subset attempts ha)
    exact isWholeAttempt_of_isChain hfirst hchain (hsplit.ended _ ha)

end Event

end Failover.Manager
