/-
  Failover.Proofs.Manager.Standing
  ────────────────────────────────
  **Where a task stands in its attempt.** What a task still has to tell is
  the rest of one of few routes along the diagram of states.  A task is
  `Sound` if that is so, `Linked` to the event that was told last if it
  goes on from there, and `Holds` says which carrier is active as long as
  the attempt has something to tell.

  Main statements: `Attempt.Step.tells` and `Check.Step.tells` — a step
  tells nothing or one event, which may come next after the last one, and
  the task has nothing left to tell exactly when that is an end or `up`.
-/
import Failover.Proofs.Manager.Course
import Failover.Proofs.Manager.Steps
import Mathlib.Data.List.Infix

namespace Failover.Manager

open Service

/-! ## §1. Routes. -/

/-- The states that a task tells on its way to a goal, after the one that was told before. -/
def Goal.routes : Goal → List (List State)
  | .building => [[.init, .serviceInit]]
  | .launching _ => [[.serviceInit, .serviceStart]]
  | .testing => [[.serviceStart, .test]]
  | .finished =>
      [[.serviceInit, .notConfigured, .ended], [.serviceInit, .failed, .ended],
        [.serviceStart, .failed, .ended], [.serviceStart, .wrongProtocol, .failed, .ended]]

/-- The states that a test tells, after the one with which it began. -/
def Check.routes (start : State) : List (List State) :=
  [start :: passedStates start, start :: failedStates, start :: inactiveStates]

/-- A state was told on one of some routes, and the others are still to be told. -/
def OnRoute (routes : List (List State)) (s : State) (states : List State) : Prop :=
  ∃ w ∈ routes, s :: states <:+ w

theorem onRoute_of_mem {routes : List (List State)} {s : State} {states : List State}
    (h : s :: states ∈ routes) : OnRoute routes s states :=
  ⟨_, h, List.suffix_refl _⟩

theorem OnRoute.tail {routes : List (List State)} {s t : State} {rest : List State}
    (h : OnRoute routes s (t :: rest)) : OnRoute routes t rest := by
  obtain ⟨w, hw, hs⟩ := h
  exact ⟨w, hw, (List.suffix_cons s (t :: rest)).trans hs⟩

/-- A statement on the rest of a route is one on finitely many lists. -/
private theorem OnRoute.mem_tails {routes : List (List State)} {s : State} {states : List State}
    (h : OnRoute routes s states) : s :: states ∈ routes.flatMap List.tails := by
  obtain ⟨w, hw, hs⟩ := h
  exact List.mem_flatMap.2 ⟨w, hw, (List.mem_tails _ _).2 hs⟩

/-- What is to be told next on the way to a goal, seen from the state before it. -/
structure Goal.Onward (goal : Goal) (s t : State) (rest : List State) : Prop where
  follows : t ∈ s.followers
  before_ne_up : s ≠ .up
  ne_up : t ≠ .up
  ended_iff : t = .ended ↔ rest = [] ∧ goal = .finished
  ne_start : (∀ k, goal ≠ .launching k) → t ≠ .serviceStart
  launching : ∀ k, goal = .launching k → t = .serviceStart ∧ rest = []

/-- **Whatever is told on the way to a goal follows the state before it**, is never `up`, and is
the end only when nothing comes behind it. -/
theorem Goal.onward {goal : Goal} {s t : State} {rest : List State}
    (h : OnRoute goal.routes s (t :: rest)) : goal.Onward s t rest := by
  have hm := h.mem_tails
  cases goal with
  | building =>
      obtain ⟨rfl, rfl, rfl⟩ : s = .init ∧ t = .serviceInit ∧ rest = [] := by
        simpa [Goal.routes] using hm
      exact ⟨by decide, by decide, by decide, by decide, by simp, by simp⟩
  | launching k =>
      obtain ⟨rfl, rfl, rfl⟩ : s = .serviceInit ∧ t = .serviceStart ∧ rest = [] := by
        simpa [Goal.routes] using hm
      exact ⟨by decide, by decide, by decide, by simp, by simp, by simp⟩
  | testing =>
      obtain ⟨rfl, rfl, rfl⟩ : s = .serviceStart ∧ t = .test ∧ rest = [] := by
        simpa [Goal.routes] using hm
      exact ⟨by decide, by decide, by decide, by decide, by simp, by simp⟩
  | finished =>
      simp [Goal.routes] at hm
      rcases hm with ⟨rfl, rfl, rfl⟩ | ⟨rfl, rfl, rfl⟩ | ⟨rfl, rfl, rfl⟩ | ⟨rfl, rfl, rfl⟩ |
        ⟨rfl, rfl, rfl⟩ | ⟨rfl, rfl, rfl⟩ | ⟨rfl, rfl, rfl⟩ | ⟨rfl, rfl, rfl⟩ | ⟨rfl, rfl, rfl⟩ <;>
      exact ⟨by decide, by decide, by decide, by decide, by simp, by simp⟩

/-- What a test tells next, seen from the state before it. -/
structure Check.Onward (start s t : State) (rest : List State) : Prop where
  follows : t ∈ s.followers
  before_up : s = .up → start = .up
  ne_start : t ≠ .serviceStart
  last_iff : rest = [] ↔ t = .up ∨ t = .ended

/-- **Whatever a test tells follows the state before it**, and it is the last one exactly when it
is `up` or the end. -/
theorem Check.onward {start s t : State} {rest : List State} (hstart : start = .test ∨ start = .up)
    (h : OnRoute (Check.routes start) s (t :: rest)) : Check.Onward start s t rest := by
  have hm := h.mem_tails
  rcases hstart with rfl | rfl
  · simp [Check.routes, passedStates, failedStates, inactiveStates] at hm
    rcases hm with ⟨rfl, rfl, rfl⟩ | ⟨rfl, rfl, rfl⟩ | ⟨rfl, rfl, rfl⟩ | ⟨rfl, rfl, rfl⟩ |
      ⟨rfl, rfl, rfl⟩ | ⟨rfl, rfl, rfl⟩ | ⟨rfl, rfl, rfl⟩ <;>
    exact ⟨by decide, by decide, by decide, by decide⟩
  · simp [Check.routes, passedStates, failedStates, inactiveStates] at hm
    rcases hm with ⟨rfl, rfl, rfl⟩ | ⟨rfl, rfl, rfl⟩ | ⟨rfl, rfl, rfl⟩ | ⟨rfl, rfl, rfl⟩ |
      ⟨rfl, rfl, rfl⟩ | ⟨rfl, rfl, rfl⟩ <;>
    exact ⟨by decide, by decide, by decide, by decide⟩

/-! ## §2. Tests. -/

namespace Check

/-- Whether a test has nothing to tell any more. -/
def isQuiet (c : Check) : Bool :=
  match c.phase with
  | .telling [] | .finished => true
  | _ => false

/-- A test that began in a state stands where it can. -/
def Sound (start : State) (c : Check) : Prop :=
  match c.phase with
  | .looking | .probing .. => c.event.state = start
  | .telling states => OnRoute (routes start) c.event.state states
  | .finished => True
  | .broken => False

/-- What a step of a test tells: nothing, with something still to tell or all told before, or one
event. -/
inductive Tells (c c' : Check) (m m' : Manager) : Prop
  | silent : m'.queue = m.queue → c'.event = c.event →
      (c'.isQuiet = true → c.isQuiet = true ∨ c.event.state = .up) → Tells c c' m m'
  | told : m'.queue = (m.tell c'.event).queue → c.event.Follows c'.event →
      (c'.isQuiet = true ↔ c'.event.state = .up ∨ c'.event.state = .ended) → Tells c c' m m'

variable {probe : Probe} {c c' : Check} {m m' : Manager} {start : State}

/-- A step of a test changes nothing of the event loop, the other tasks and the active carrier. -/
theorem Step.frame (h : c.Step probe m c' m') :
    m'.loop = m.loop ∧ m'.attempts = m.attempts ∧ m'.checks = m.checks ∧ m'.active = m.active ∧
      m'.fleet = m.fleet := by
  cases h with
  | told s rest e hp he =>
      unfold tell
      rw [send_eq]
      exact ⟨rfl, rfl, rfl, rfl, rfl⟩
  | _ => exact ⟨rfl, rfl, rfl, rfl, rfl⟩

/-- A test with nothing to tell only comes to its end. -/
theorem Step.of_isQuiet (h : c.Step probe m c' m') (hq : c.isQuiet = true) :
    m' = m ∧ c' = { c with phase := .finished } := by
  unfold isQuiet at hq
  cases h with
  | finished => exact ⟨rfl, rfl⟩
  | _ => simp_all

/-- Every step keeps a test sound. -/
theorem Step.sound (h : c.Step probe m c' m') (hstart : start = .test ∨ start = .up)
    (hs : c.Sound start) : c'.Sound start := by
  unfold Sound at hs
  cases h with
  | displaced hp => exact trivial
  | inactive hp =>
      rw [hp] at hs
      rw [← hs]
      exact onRoute_of_mem (by simp [routes])
  | asked addr hp =>
      rw [hp] at hs
      exact hs
  | passed due hp =>
      rw [hp] at hs
      rw [← hs]
      exact onRoute_of_mem (by simp [routes])
  | failed cause due hp =>
      rw [hp] at hs
      rw [← hs]
      exact onRoute_of_mem (by simp [routes])
  | finished hp => exact trivial
  | told s rest e hp he =>
      rw [hp] at hs
      obtain ⟨-, rfl⟩ := Event.next_eq_ok he
      exact hs.tail
  | broken s rest b hp he =>
      rw [hp] at hs
      -- nothing is told after the end
      have hf := (onward hstart hs).follows
      rw [Event.next_eq_error he] at hf
      cases hf

/-- The test of an attempt has something to tell only before `up`. -/
theorem Sound.not_up (hs : c.Sound .test) (hq : c.isQuiet = false) : c.event.state ≠ .up := by
  unfold Sound at hs
  unfold isQuiet at hq
  split at hs
  · rw [hs]
    decide
  · rw [hs]
    decide
  · next states hp =>
    rw [hp] at hq
    cases states with
    | nil => cases hq
    | cons t rest =>
        intro hup
        cases (onward (.inl rfl) hs).before_up hup
  · simp_all
  · cases hs

/-- **A step of a sound test** whose carrier is not displaced tells nothing or what comes next. -/
theorem Step.tells (h : c.Step probe m c' m') (hstart : start = .test ∨ start = .up)
    (hs : c.Sound start) (hd : c.phase = .looking → m.isDisplaced c.event = false) :
    c.Tells c' m m' := by
  have hs' := hs
  unfold Sound at hs
  cases h with
  | displaced hp hdis => rw [hd hp] at hdis; cases hdis
  | inactive hp => exact .silent rfl rfl (by simp [isQuiet, inactiveStates])
  | asked addr hp => exact .silent rfl rfl (by simp [isQuiet])
  | passed due hp =>
      refine .silent rfl rfl ?_
      rw [hp] at hs
      intro hq
      right
      -- only a connection that was up before has nothing to tell
      by_contra hup
      simp [isQuiet, passedStates, hup] at hq
  | failed cause due hp => exact .silent rfl rfl (by simp [isQuiet, failedStates])
  | finished hp => exact .silent rfl rfl fun _ => .inl (by simp [isQuiet, hp])
  | told s rest e hp he =>
      rw [hp] at hs
      obtain ⟨-, rfl⟩ := Event.next_eq_ok he
      have ho := onward hstart hs
      refine .told rfl ⟨ho.follows, rfl, ?_⟩ ?_
      · rw [if_neg ho.ne_start]
      · show isQuiet ⟨_, .telling rest⟩ = true ↔ s = .up ∨ s = .ended
        rw [← ho.last_iff]
        cases rest <;> simp [isQuiet]
  | broken s rest b hp he =>
      rw [hp] at hs
      have hf := (onward hstart hs).follows
      rw [Event.next_eq_error he] at hf
      cases hf

end Check

/-! ## §3. Attempts. -/

namespace Attempt

/-- Whether an attempt has nothing to tell any more. -/
def isDone (a : Attempt) : Bool :=
  match a.phase with
  | .telling _ [] .finished | .finished => true
  | .testing c => c.isQuiet
  | _ => false

/-- What an event has to be like on the way to a goal. -/
def Fits (connection : Connection) (e : Event) : Goal → Prop
  | .building => e.service = none
  | .launching k => k.connection = connection ∧ e.service = some k.service
  | .testing | .finished => True

/-- An attempt stands where it can. -/
def Sound (a : Attempt) : Prop :=
  match a.phase with
  | .telling e states goal =>
      e.connection = a.connection ∧ OnRoute goal.routes e.state states ∧ Fits a.connection e goal
  | .building e => e.connection = a.connection ∧ e.state = .serviceInit ∧ e.service = none
  | .launching e k | .starting e k | .judging e k | .installing e k =>
      e.connection = a.connection ∧ e.state = .serviceStart ∧ k.connection = a.connection
  | .discarding e _ _ states =>
      e.connection = a.connection ∧ OnRoute Goal.finished.routes e.state states ∧ states ≠ []
  | .replacing e _ _ => e.connection = a.connection ∧ e.state = .serviceStart
  | .testing c => c.event.connection = a.connection ∧ c.Sound .test
  | _ => True

/-- An attempt goes on from the event that was told last. -/
def Linked (a : Attempt) (last : Option Event) : Prop :=
  match a.phase with
  | .detaching | .clearing _ | .removing .. | .awaiting _ | .opening =>
      ∀ x, last = some x → x.state = .ended
  -- the service is named before its start is told
  | .telling e (_ :: _) (.launching _) => last = some { e with service := none }
  | .telling e _ _ | .building e | .launching e _ | .starting e _ | .judging e _
  | .discarding e _ _ _ | .installing e _ | .replacing e _ _ => last = some e
  | .testing c => last = some c.event
  | .finished | .broken => True

/-- Which carrier is active while an attempt has something to tell.  None is in the way of a new
one, so none is ever replaced. -/
def Holds (a : Attempt) (active : Option Carrier) : Prop :=
  match a.phase with
  | .telling _ _ .testing | .testing _ => ∃ k, active = some k ∧ k.connection = a.connection
  | .detaching | .finished | .broken => True
  | .replacing .. => False
  | _ => active = none

/-- An event may be told after the last one, which is no `up`. -/
def ComesAfter (last : Option Event) (e : Event) : Prop :=
  (last = none → e.IsFirst) ∧ ∀ x, last = some x → x.Precedes e ∧ x.state ≠ .up

theorem comesAfter_some {x e : Event} (h : x.Follows e) (hup : x.state ≠ .up) :
    ComesAfter (some x) e := by
  refine ⟨by simp, fun y hy => ?_⟩
  obtain rfl : x = y := Option.some.inj hy
  exact ⟨.inr h, hup⟩

/-- What a step of an attempt tells: nothing, with something still to tell, or one event. -/
inductive Tells (a a' : Attempt) (m m' : Manager) : Prop
  | silent : m'.queue = m.queue → a'.isDone = false → (∀ last, a.Linked last → a'.Linked last) →
      Tells a a' m m'
  | told (e : Event) : m'.queue = (m.tell e).queue → e.connection = a.connection →
      (∀ last, a.Linked last → ComesAfter last e) → a'.Linked (some e) →
      (a'.isDone = true ↔ e.state = .up ∨ e.state = .ended) →
      (e.state = .up → ∃ k, m'.active = some k ∧ k.connection = a.connection) → Tells a a' m m'

variable {probe : Probe} {a : Attempt} {m m' : Manager} {p : AttemptPhase}

/-- Setting up a carrier changes the fleet only. -/
theorem build_eq {c : Connection} {t : Transport} {result : Except Fault Carrier}
    (h : build m c t = (result, m')) : m' = { m with fleet := m'.fleet } := by
  unfold build at h
  dsimp only at h
  split at h
  · cases h
    rfl
  · split at h
    · cases h
      rfl
    · split at h
      · split at h <;> cases h <;> rfl
      · cases h
        rfl

/-- A carrier that was set up has a new id and the connection that it was set up for. -/
theorem build_ok {c : Connection} {t : Transport} {k : Carrier}
    (h : build m c t = (.ok k, m')) : k = ⟨m.freshId, c⟩ := by
  have hcreate : ∀ {f : Fleet} {k₁ : Carrier}, Carrier.create m.fleet m.registry m.freshId c t
      m.loop.settings.service = (.ok k₁, f) → k₁ = ⟨m.freshId, c⟩ := by
    intro f k₁ hk
    unfold Carrier.create at hk
    split at hk
    · cases hk
    · dsimp only at hk
      split at hk <;> cases hk
      rfl
  unfold build at h
  dsimp only at h
  split at h
  · cases h
  · next k₁ f hk =>
    split at h
    · cases h
    · split at h
      · split at h <;> cases h
        exact hcreate hk
      · cases h
        exact hcreate hk

/-- A step of an attempt changes nothing of the event loop and the other tasks. -/
theorem Step.frame (h : a.Step probe m p m') :
    m'.loop = m.loop ∧ m'.attempts = m.attempts ∧ m'.checks = m.checks := by
  cases h with
  | opened | told =>
      unfold tell
      rw [send_eq]
      exact ⟨rfl, rfl, rfl⟩
  | unbuilt e t cause m' hp ht hb | built e t k m' hp ht hb =>
      rw [build_eq hb]
      exact ⟨rfl, rfl, rfl⟩
  | testing c c' m' hp hc =>
      obtain ⟨hl, ha, hk, -⟩ := hc.frame
      exact ⟨hl, ha, hk⟩
  | _ => exact ⟨rfl, rfl, rfl⟩

/-- An attempt with nothing to tell changes nothing any more. -/
theorem Step.of_isDone (h : a.Step probe m p m') (hd : a.isDone = true) :
    m' = m ∧ isDone { a with phase := p } = true := by
  unfold isDone at hd
  cases h with
  | reached e goal hp =>
      rw [hp] at hd
      cases goal <;> simp_all [after, isDone]
  | tested c hp hc => exact ⟨rfl, rfl⟩
  | testing c c' m' hp hc =>
      rw [hp] at hd
      obtain ⟨rfl, rfl⟩ := hc.of_isQuiet hd
      exact ⟨rfl, rfl⟩
  | untested c hp hc =>
      rw [hp] at hd
      simp [Check.isQuiet, hc] at hd
  | _ => simp_all

/-- Every step keeps an attempt sound. -/
theorem Step.sound (h : a.Step probe m p m') (hs : a.Sound) : Sound { a with phase := p } := by
  unfold Sound at hs
  cases h with
  | removing k call hp =>
      unfold during
      split <;> exact trivial
  | opened hp =>
      exact ⟨rfl, onRoute_of_mem (List.mem_singleton.2 rfl), rfl⟩
  | reached e goal hp =>
      rw [hp] at hs
      obtain ⟨hc, hr, hf⟩ := hs
      have hm := hr.mem_tails
      cases goal with
      | building => exact ⟨hc, by simpa [Goal.routes] using hm, hf⟩
      | launching k => exact ⟨hc, by simpa [Goal.routes] using hm, hf.1⟩
      | testing =>
          have hst : e.state = .test := by simpa [Goal.routes] using hm
          exact ⟨hc, hst⟩
      | finished => exact trivial
  | told e e' s rest goal hp he =>
      rw [hp] at hs
      obtain ⟨-, rfl⟩ := Event.next_eq_ok he
      obtain ⟨hc, hr, hf⟩ := hs
      exact ⟨hc, hr.tail, by cases goal <;> exact hf⟩
  | unknown e hp ht =>
      rw [hp] at hs
      obtain ⟨hc, hst, -⟩ := hs
      exact ⟨hc, hst ▸ onRoute_of_mem (by simp [Goal.routes]), trivial⟩
  | unbuilt e t cause m' hp ht hb =>
      rw [hp] at hs
      obtain ⟨hc, hst, -⟩ := hs
      exact ⟨hc, hst ▸ onRoute_of_mem (by simp [Goal.routes]), trivial⟩
  | built e t k m' hp ht hb =>
      rw [hp] at hs
      obtain ⟨hc, hst, -⟩ := hs
      have hk : k.connection = a.connection := by rw [build_ok hb]
      exact ⟨hc, hst ▸ onRoute_of_mem (by simp [Goal.routes]), hk, rfl⟩
  | launched e k f hp hb => rw [hp] at hs; exact hs
  | unlaunched e k cause f hp hb =>
      rw [hp] at hs
      obtain ⟨hc, hst, -⟩ := hs
      exact ⟨hc, hst ▸ onRoute_of_mem (by simp [Goal.routes]), by simp⟩
  | started e k hp ho => rw [hp] at hs; exact hs
  | unstarted e k cause hp ho =>
      rw [hp] at hs
      obtain ⟨hc, hst, -⟩ := hs
      exact ⟨hc, hst ▸ onRoute_of_mem (by simp [Goal.routes]), by simp⟩
  | suited e k hp hk => rw [hp] at hs; exact hs
  | unsuited e k hp hk =>
      rw [hp] at hs
      obtain ⟨hc, hst, -⟩ := hs
      exact ⟨hc, hst ▸ onRoute_of_mem (by simp [Goal.routes]), by simp⟩
  | discarding e service call states hp =>
      rw [hp] at hs
      unfold during
      split
      · exact ⟨hs.1, hs.2.1, trivial⟩
      · exact hs
  | installed e k hp hm =>
      rw [hp] at hs
      obtain ⟨hc, hst, -⟩ := hs
      exact ⟨hc, hst ▸ onRoute_of_mem (by simp [Goal.routes]), trivial⟩
  | displacing e k stale hp hm =>
      rw [hp] at hs
      exact ⟨hs.1, hs.2.1⟩
  | replacing e service call hp =>
      rw [hp] at hs
      unfold during
      split
      · exact ⟨hs.1, hs.2 ▸ onRoute_of_mem (by simp [Goal.routes]), trivial⟩
      · exact hs
  | testing c c' m' hp hc =>
      rw [hp] at hs
      refine ⟨?_, hc.sound (.inl rfl) hs.2⟩
      cases hc with
      | told s rest e' hcp he =>
          obtain ⟨-, rfl⟩ := Event.next_eq_ok he
          exact hs.1
      | _ => exact hs.1
  | _ => exact trivial

/-- While an attempt has something to tell, every step of it keeps track of the active carrier. -/
theorem Step.holds (h : a.Step probe m p m') (hs : a.Sound) (hd : a.isDone = false)
    (ha : a.Holds m.active) : Holds { a with phase := p } m'.active := by
  unfold Sound at hs
  unfold Holds at ha
  cases h with
  | detached hp => exact rfl
  | removing k call hp | discarding e service call states hp =>
      rw [hp] at ha
      unfold during
      split <;> exact ha
  | replacing e service call hp =>
      rw [hp] at ha
      exact ha.elim
  | opened hp =>
      rw [hp] at ha
      unfold tell
      rw [send_eq]
      exact ha
  | reached e goal hp =>
      rw [hp] at ha
      cases goal with
      | finished => simp [isDone, hp] at hd
      | _ => exact ha
  | told e e' s rest goal hp he =>
      rw [hp] at ha
      unfold tell
      rw [send_eq]
      cases goal <;> exact ha
  | unbuilt e t cause m' hp ht hb | built e t k m' hp ht hb =>
      rw [hp] at ha
      rw [build_eq hb]
      exact ha
  -- the new carrier becomes the active one
  | installed e k hp hm =>
      rw [hp] at hs
      exact ⟨k, rfl, hs.2.2⟩
  | displacing e k stale hp hm =>
      rw [hp] at ha
      cases hm.symm.trans ha
  | testing c c' m' hp hc =>
      rw [hp] at ha
      obtain ⟨-, -, -, hact, -⟩ := hc.frame
      rw [hact]
      exact ha
  | brokenOff | abandoned | tested | untested => exact trivial
  | cleared hp | clearing k hp | awaited k hp hset | unknown e hp ht | launched e k f hp hb
  | unlaunched e k cause f hp hb | started e k hp ho | unstarted e k cause hp ho
  | suited e k hp hk | unsuited e k hp hk =>
      rw [hp] at ha
      exact ha

/-- The carrier of an attempt that is tested is not displaced. -/
theorem Holds.not_displaced {c : Check} (ha : a.Holds m.active) (hs : a.Sound)
    (hp : a.phase = .testing c) : m.isDisplaced c.event = false := by
  unfold Holds at ha
  unfold Sound at hs
  rw [hp] at ha hs
  obtain ⟨k, hk, hc⟩ := ha
  unfold isDisplaced
  rw [hk, Option.any_some, hc, ← hs.1]
  simp

/-- Goals and states that are left decide whether an attempt has something to tell. -/
theorem isDone_telling (connection : Connection) (transport : Option Transport) (e : Event)
    (states : List State) (goal : Goal) :
    isDone ⟨connection, transport, .telling e states goal⟩ = true ↔ states = [] ∧ goal = .finished := by
  cases states <;> cases goal <;> simp [isDone]

/-- The next state on the way to a goal is told. -/
theorem tells_next {e e' : Event} {s : State} {rest : List State} {goal : Goal}
    (hp : a.phase = .telling e (s :: rest) goal) (hs : a.Sound) (he : e.next s = .ok e') :
    a.Tells { a with phase := .telling e' rest goal } m (m.tell e') := by
  unfold Sound at hs
  rw [hp] at hs
  obtain ⟨hc, hr, hf⟩ := hs
  obtain ⟨-, rfl⟩ := Event.next_eq_ok he
  have ho := Goal.onward hr
  refine .told _ rfl hc ?_ ?_ ?_ fun hup => absurd hup ho.ne_up
  · intro last hl
    rw [Linked, hp] at hl
    cases goal with
    | launching k =>
        -- this is where the service is named
        obtain ⟨hstart, -⟩ := ho.launching k rfl
        rw [hl]
        refine comesAfter_some ⟨ho.follows, rfl, ?_⟩ ho.before_ne_up
        rw [if_pos hstart, hf.2]
        exact ⟨rfl, rfl⟩
    | _ =>
        rw [hl]
        refine comesAfter_some ⟨ho.follows, rfl, ?_⟩ ho.before_ne_up
        rw [if_neg (ho.ne_start (by simp))]
  · cases goal with
    | launching k =>
        obtain ⟨-, rfl⟩ := ho.launching k rfl
        rfl
    | _ => cases rest <;> rfl
  · -- only the way to the end has an end, and nothing behind it
    rw [isDone_telling, ← ho.ended_iff]
    exact ⟨.inr, fun h => h.resolve_left ho.ne_up⟩

/-- What the test of an attempt tells, the attempt tells. -/
theorem tells_test {c c' : Check} (hp : a.phase = .testing c) (hs : a.Sound)
    (hd : a.isDone = false) (ha : a.Holds m.active) (hc : c.Step probe m c' m') :
    a.Tells { a with phase := .testing c' } m m' := by
  have hnot := ha.not_displaced hs hp
  unfold Sound at hs
  unfold Holds at ha
  rw [hp] at hs ha
  obtain ⟨-, -, -, hact, -⟩ := hc.frame
  have hq : c.isQuiet = false := by simpa [isDone, hp] using hd
  have hup := hs.2.not_up hq
  cases hc.tells (.inl rfl) hs.2 fun _ => hnot with
  | silent hqueue hev hquiet =>
      refine .silent hqueue ?_ fun last hl => ?_
      · -- a test becomes quiet without telling only if the connection was up before
        show c'.isQuiet = false
        by_contra hne
        rcases hquiet (Bool.not_eq_false _ ▸ hne) with h | h
        · rw [hq] at h
          cases h
        · exact hup h
      · rw [Linked, hp] at hl
        show last = some c'.event
        rw [hl, hev]
  | told hqueue hfol hquiet =>
      refine .told c'.event hqueue (hfol.connection.trans hs.1) ?_ rfl hquiet fun _ => ?_
      · intro last hl
        rw [Linked, hp] at hl
        rw [hl]
        exact comesAfter_some hfol hup
      · rw [hact]
        exact ha

/-- **A step of a sound attempt** with something to tell tells nothing or what comes next. -/
theorem Step.tells (h : a.Step probe m p m') (hs : a.Sound) (hd : a.isDone = false)
    (ha : a.Holds m.active) : a.Tells { a with phase := p } m m' := by
  have hs' := hs
  unfold Sound at hs
  cases h with
  | opened hp =>
      -- an attempt begins behind an end, or as the first one
      refine .told _ rfl rfl ?_ rfl (by simp [isDone, Event.first]) (by simp [Event.first])
      intro last hl
      rw [Linked, hp] at hl
      refine ⟨fun _ => Event.first_isFirst _, fun x hx => ?_⟩
      exact ⟨.inl ⟨hl x hx, Event.first_isFirst _⟩, by rw [hl x hx]; decide⟩
  | told e e' s rest goal hp he => exact tells_next hp hs' he
  | reached e goal hp =>
      cases goal with
      | finished => simp [isDone, hp] at hd
      | _ => exact .silent rfl rfl fun last hl => by rw [Linked, hp] at hl; exact hl
  | brokenOff e s rest goal b hp he =>
      rw [hp] at hs
      -- nothing is told after the end
      have hf := (Goal.onward hs.2.1).follows
      rw [Event.next_eq_error he] at hf
      cases hf
  | unbuilt e t cause m' hp ht hb =>
      rw [build_eq hb]
      exact .silent rfl rfl fun last hl => by rw [Linked, hp] at hl; exact hl
  | built e t k m' hp ht hb =>
      rw [build_eq hb]
      rw [hp] at hs
      refine .silent rfl rfl fun last hl => ?_
      rw [Linked, hp] at hl
      -- the event that was told has no service yet
      obtain ⟨state, connection, service⟩ := e
      obtain ⟨-, -, rfl⟩ := hs
      exact hl
  | discarding e service call states hp =>
      rw [hp] at hs
      unfold during
      split
      · -- behind the call there is still something to tell
        obtain ⟨s, rest, rfl⟩ := List.exists_cons_of_ne_nil hs.2.2
        exact .silent rfl rfl fun last hl => by rw [Linked, hp] at hl; exact hl
      · exact .silent rfl rfl fun last hl => by rw [Linked, hp] at hl; exact hl
  | removing k call hp | replacing e service call hp =>
      unfold during
      split <;> exact .silent rfl rfl fun last hl => by rw [Linked, hp] at hl; exact hl
  | tested c hp hc => simp [isDone, hp, Check.isQuiet, hc] at hd
  | testing c c' m' hp hc => exact tells_test hp hs' hd ha hc
  | abandoned | untested => exact .silent rfl rfl fun _ _ => trivial
  | detached hp | cleared hp | clearing k hp | awaited k hp hset | unknown e hp ht
  | launched e k f hp hb | unlaunched e k cause f hp hb | started e k hp ho
  | unstarted e k cause hp ho | suited e k hp hk | unsuited e k hp hk | installed e k hp hm
  | displacing e k stale hp hm =>
      exact .silent rfl rfl fun last hl => by rw [Linked, hp] at hl; exact hl

end Attempt

end Failover.Manager
