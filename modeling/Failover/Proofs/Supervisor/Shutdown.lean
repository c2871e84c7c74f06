/-
  Failover.Proofs.Supervisor.Shutdown
  ───────────────────────────────────
  **What a shutdown leaves running.** A shutdown stops what is registered
  when the event loop has stopped.  An attempt that is under way at that
  time goes on, and may still start a service:

      attempt    … awaiting ─▶ opening ─▶ building ─▶ launching ─▶ ⚑ active
      shutdown   … waiting ─▶ returned

  So nothing is active when a shutdown has returned, whatever comes between,
  if and only if no attempt may start a service any more when it takes hold
  of the services, and every active service is registered — or else it
  never returns, since the owner of a registered service has broken off.

  Main statements: `shutdown_clears_iff`; `exists_shutdown_run` — what a
  supervisor does when it is shut down is one of the runs that this is
  about; and `not_shutdown_clears` — a run in which a service is started
  after the shutdown has returned.
-/
import Failover.Proofs.Manager.Settling
import Failover.Proofs.Manager.Trace
import Failover.Proofs.Supervisor.Closing

namespace Failover.Manager

open Service

variable {c : Closing} {m m' : Manager}

/-! ## §1. Coming to the end. -/

namespace Closing

theorem run_append (c : Closing) (moves more : List Move) :
    c.run (moves ++ more) = (c.run moves).run more := List.foldl_append

/-- The first of them is asked to stop. -/
theorem exists_asked (m : Manager) (handles : List String) (id : String) (rest : List String) :
    ∃ moves, (Closing.mk m (.asking handles (id :: rest) .checking)).run moves =
      ⟨{ m with fleet := m.fleet.stop id }, .asking handles rest .checking⟩ := by
  by_cases ha : m.fleet.isActive id = true
  · refine ⟨[.go, .go], ?_⟩
    rw [Fleet.stop_eq, if_pos ha]
    unfold run move go
    simp only [List.foldl_cons, List.foldl_nil, StopCall.step, if_pos ha]
  · refine ⟨[.go], ?_⟩
    rw [Fleet.stop_eq, if_neg ha]
    unfold run move go
    simp only [List.foldl_cons, List.foldl_nil, StopCall.step, if_neg ha]

/-- **With nothing in between**, all of them are asked to stop. -/
theorem exists_allAsked (m : Manager) (handles todo : List String) :
    ∃ moves, (Closing.mk m (.asking handles todo .checking)).run moves =
      ⟨{ m with fleet := todo.foldl Fleet.stop m.fleet }, .waiting handles⟩ := by
  induction todo generalizing m with
  | nil => exact ⟨[.go], rfl⟩
  | cons id rest ih =>
      obtain ⟨first, hfirst⟩ := exists_asked m handles id rest
      obtain ⟨more, hmore⟩ := ih { m with fleet := m.fleet.stop id }
      refine ⟨first ++ more, ?_⟩
      rw [run_append, hfirst, hmore]
      rfl

/-- When all of them have settled, the shutdown may return. -/
theorem exists_returned (m : Manager) {left : List String}
    (h : ∀ id ∈ left, m.fleet.isActive id = false) :
    ∃ moves, (Closing.mk m (.waiting left)).run moves = ⟨m, .returned⟩ := by
  induction left with
  | nil => exact ⟨[.go], rfl⟩
  | cons id rest ih =>
      obtain ⟨hid, hrest⟩ := List.forall_mem_cons.1 h
      obtain ⟨moves, hmoves⟩ := ih hrest
      refine ⟨.hear id :: moves, ?_⟩
      have hheard : (Closing.mk m (.waiting (id :: rest))).hear id = ⟨m, .waiting rest⟩ := by
        unfold hear
        dsimp only
        rw [Fleet.isSettled_eq, hid, Bool.not_false, if_pos rfl, List.erase_cons_head]
      show ((Closing.mk m (.waiting (id :: rest))).hear id).run moves = _
      rw [hheard, hmoves]

/-- What happens besides. -/
theorem run_other (c : Closing) (moves : List Manager.Move) :
    c.run (moves.map .other) = { c with manager := moves.foldl make c.manager } := by
  induction moves generalizing c with
  | nil => rfl
  | cons mv rest ih => exact ih { c with manager := c.manager.make mv }

end Closing

/-- What happens in its fleet. -/
theorem foldl_fleet (host : Host) (probe : Probe) (m : Manager) (actions : List Service.Action) :
    (actions.map fun action => Move.act host probe (.fleet action)).foldl make m =
      { m with fleet := m.fleet.after host actions } := by
  induction actions generalizing m with
  | nil => rfl
  | cons action rest ih =>
      have hmake : m.make (.act host probe (.fleet action)) =
          { m with fleet := (m.fleet.step? host action).getD m.fleet } := by
        unfold make step?
        dsimp only
        cases m.fleet.step? host action <;> rfl
      rw [List.map_cons, List.foldl_cons, hmake, ih]
      rfl

/-- **A shutdown that is about to take hold of the services**: the event loop has stopped. -/
structure Closing.Ready (c : Closing) : Prop where
  stopping : c.phase = .stopping
  stopped : c.manager.loop.stage = .stopped

/-- What it takes hold of. -/
theorem Closing.Ready.go_eq (h : c.Ready) :
    c.go = ⟨c.manager, .asking (c.manager.fleet.members c.manager.registry)
      (c.manager.fleet.members c.manager.registry) .checking⟩ := by
  unfold go
  rw [h.stopping]
  dsimp only
  rw [if_pos h.stopped]
  rfl

/-- **The shutdown may return** with all that it took hold of settled, and nothing else done, unless
an owner has broken off. -/
theorem Closing.Ready.exists_returned (h : c.Ready) (ht : c.Traced)
    (hsound : ∀ id ∈ c.manager.fleet.members c.manager.registry, ∀ s,
      c.manager.fleet.service? id = some s → s.phase ≠ .broken) :
    ∃ later f, c.go.run later = ⟨{ c.manager with fleet := f }, .returned⟩ ∧
      (∀ id ∈ c.manager.fleet.members c.manager.registry, f.isActive id = false) ∧
      ∀ x, x ∉ c.manager.fleet.members c.manager.registry →
        f.service? x = c.manager.fleet.service? x := by
  rw [h.go_eq]
  generalize hids : c.manager.fleet.members c.manager.registry = ids at hsound ⊢
  obtain ⟨asks, hasks⟩ := exists_allAsked c.manager ids ids
  have hending : (ids.foldl Fleet.stop c.manager.fleet).Ending ids := by
    refine Fleet.ending_stopEach fun id hid s hs => ⟨ht.consistent hs, hsound id hid s hs⟩
  have hhost : idleHost.entries?.isSome = true := by decide
  obtain ⟨actions, hsettled, hsame⟩ := Fleet.exists_settled hending hhost
  let f := (ids.foldl Fleet.stop c.manager.fleet).after idleHost actions
  obtain ⟨hears, hhears⟩ := Closing.exists_returned { c.manager with fleet := f } hsettled
  let fleetMoves : List Manager.Move := actions.map fun action => .act idleHost easyProbe
    (.fleet action)
  refine ⟨asks ++ (fleetMoves.map .other ++ hears), f, ?_, hsettled, fun x hx => ?_⟩
  · rw [run_append, hasks, run_append, run_other, foldl_fleet]
    exact hhears
  · rw [hsame x hx, Fleet.service?_stopEach, if_neg hx]

/-! ## §2. Coming to a start. -/

/-- How many steps an attempt still has to take at most until it starts its service, if all services
are inactive. -/
def AttemptPhase.toGo : AttemptPhase → Nat
  | .detaching => 31
  | .clearing _ => 30
  | .removing _ call => 20 + call.toGo
  | .awaiting _ => 20
  | .opening => 19
  | .telling _ states .building => 10 + states.length
  | .building _ => 9
  | .telling _ states (.launching _) => 3 + states.length
  | .launching .. => 2
  | _ => 0

/-- In the middle of a call to remove a service that is inactive it comes closer. -/
theorem toGo_removing {k : Carrier} (h : m.fleet.isActive k.service = false) (call : RemoveCall) :
    (Attempt.during (call.step k.service m.fleet).1 (.awaiting k) (.removing k)).toGo <
      (AttemptPhase.removing k call).toGo := by
  unfold Attempt.during
  have hpos : 0 < call.toGo := by cases call <;> exact Nat.succ_pos _
  rcases RemoveCall.toGo_step h call with hsome | hlt
  · obtain ⟨result, hr⟩ := Option.isSome_iff_exists.1 hsome
    rw [hr]
    show 20 < 20 + call.toGo
    omega
  · split
    · show 20 < 20 + call.toGo
      omega
    · show 20 + _ < 20 + call.toGo
      omega

/-- An attempt whose transport names a program sets up its service. -/
theorem Attempt.advance_building (probe : Probe) (m : Manager) (c : Connection) (t : Transport)
    (e : Event) (ht : t.program.isOk = true) :
    ∃ k m', advance? probe ⟨c, some t, .building e⟩ m =
      some (.telling { e with service := some k.service } [.serviceStart] (.launching k), m') := by
  cases hp : t.program with
  | error cause =>
      rw [hp] at ht
      cases ht
  | ok program =>
      obtain ⟨f, hb, -⟩ := Manager.build_eq m c hp
      refine ⟨⟨m.freshId, c⟩, { m with fleet := f }, ?_⟩
      unfold advance?
      dsimp only
      rw [hb]

/-- **An attempt that may start a service goes on to that**, when all services are inactive. -/
theorem Attempt.exists_advance (probe : Probe) {a : Attempt} (hs : a.Sound)
    (hstart : a.mayStart = true) (hnot : ∀ e k, a.phase ≠ .launching e k)
    (hinactive : ∀ id, m.fleet.isActive id = false) :
    ∃ p m', a.advance? probe m = some (p, m') ∧ p.toGo < a.phase.toGo ∧
      Attempt.mayStart { a with phase := p } = true := by
  obtain ⟨connection, transport, phase⟩ := a
  cases phase with
  | detaching => exact ⟨_, _, rfl, by simp [AttemptPhase.toGo], hstart⟩
  | clearing previous =>
      cases previous with
      | none => exact ⟨_, _, rfl, by simp [AttemptPhase.toGo], hstart⟩
      | some k => exact ⟨_, _, rfl, by simp [AttemptPhase.toGo, RemoveCall.toGo], hstart⟩
  | removing k call =>
      refine ⟨during (call.step k.service m.fleet).1 (.awaiting k) (.removing k),
        { m with fleet := (call.step k.service m.fleet).2 }, ?_,
        toGo_removing (hinactive k.service) call, ?_⟩
      · unfold advance? during
        dsimp only
        cases (call.step k.service m.fleet).1.result? <;> rfl
      · unfold during
        split <;> exact hstart
  | awaiting k =>
      have hsettled : m.fleet.isSettled k.service = true := by
        rw [Fleet.isSettled_eq, hinactive]
        rfl
      refine ⟨.opening, m, ?_, by simp [AttemptPhase.toGo], hstart⟩
      unfold advance?
      dsimp only
      rw [if_pos hsettled]
  | opening => exact ⟨_, _, rfl, by simp [AttemptPhase.toGo], hstart⟩
  | telling e states goal =>
      cases states with
      | nil =>
          cases goal with
          | building | launching =>
              exact ⟨_, m, rfl, by simp [after, AttemptPhase.toGo], hstart⟩
          | testing | finished => cases hstart
      | cons s rest =>
          -- what is to be told may be told
          obtain ⟨e', he⟩ := Event.exists_next (Goal.onward hs.2.1).follows
          have hadv : advance? probe ⟨connection, transport, .telling e (s :: rest) goal⟩ m =
              some (.telling e' rest goal, m.tell e') := by
            unfold advance?
            dsimp only
            rw [he]
          cases goal with
          | building | launching => exact ⟨_, _, hadv, by simp [AttemptPhase.toGo], hstart⟩
          | testing | finished => cases hstart
  | building e =>
      cases transport with
      | none => cases hstart
      | some t =>
          obtain ⟨k, m', hadv⟩ := advance_building probe m connection t e hstart
          exact ⟨_, m', hadv, by simp [AttemptPhase.toGo], rfl⟩
  | launching e k => exact absurd rfl (hnot e k)
  | _ => cases hstart

/-- A step that an attempt can take is one that happens. -/
theorem make_attempt (host : Host) {probe : Probe} {i : Nat} {a : Attempt} {p : AttemptPhase}
    (hi : m.attempts[i]? = some a) (h : a.advance? probe m = some (p, m')) :
    m.make (.act host probe (.attempt i)) =
      { m' with attempts := m'.attempts.set i { a with phase := p } } := by
  unfold make step?
  dsimp only
  rw [attemptStep?_of_advance? hi h]
  rfl

/-- It leaves the attempt in its new phase. -/
theorem getElem?_make_attempt (host : Host) {probe : Probe} {i : Nat} {a : Attempt}
    {p : AttemptPhase} (hi : m.attempts[i]? = some a) (h : a.advance? probe m = some (p, m')) :
    (m.make (.act host probe (.attempt i))).attempts[i]? = some { a with phase := p } := by
  have hsame : m'.attempts = m.attempts := (Attempt.step_of_advance? h).frame.2.1
  have hlt : i < m.attempts.length := (List.getElem?_eq_some_iff.1 hi).1
  rw [make_attempt host hi h, hsame]
  exact List.getElem?_set_self hlt

variable {ch : Chronicle} {i : Nat} {a : Attempt}

/-- **An attempt that is about to start its service starts it**: it is the last attempt, so its
service is still idle. -/
theorem isActive_launched (hr : ch.ReachedFrom .empty) (hi : ch.manager.attempts[i]? = some a)
    {e : Event} {k : Carrier} (hp : a.phase = .launching e k) :
    (ch.manager.make (.act idleHost easyProbe (.attempt i))).fleet.isActive k.service = true := by
  have hd : a.isDone = false := by
    unfold Attempt.isDone
    rw [hp]
  obtain ⟨before, heq, -⟩ := (orderly_run hr).sane.eq_last hi hd
  have hready := (handover_run hr).ready
  rw [lastPhase_of_eq heq, hp] at hready
  obtain ⟨-, s, hs, hidle⟩ := hready
  obtain ⟨f, hbegin⟩ := Fleet.begin_of_idle hs hidle
  have hadv : a.advance? easyProbe ch.manager =
      some (.starting e k, { ch.manager with fleet := f }) := by
    unfold Attempt.advance?
    rw [hp]
    dsimp only
    rw [hbegin]
  rw [make_attempt idleHost hi hadv]
  obtain ⟨s', hs', -, rfl⟩ := Fleet.begin_eq_ok hbegin
  exact Fleet.isActive_eq_true.2 ⟨_, Fleet.service?_modify_self hs' _, rfl⟩

/-- **As long as an attempt may start a service**, it may still come to that. -/
theorem exists_started (hr : ch.ReachedFrom .empty) (hi : ch.manager.attempts[i]? = some a)
    (hstart : a.mayStart = true) (hinactive : ∀ id, ch.manager.fleet.isActive id = false) :
    ∃ (moves : List Move) (id : String),
      (moves.foldl make ch.manager).fleet.isActive id = true := by
  let mv : Move := .act idleHost easyProbe (.attempt i)
  -- by induction on how many steps the attempt still has to take
  induction hn : a.phase.toGo using Nat.strongRecOn generalizing ch a with
  | ind n ih =>
      by_cases hl : ∃ e k, a.phase = .launching e k
      · obtain ⟨e, k, hp⟩ := hl
        exact ⟨[mv], k.service, isActive_launched hr hi hp⟩
      · have hnot : ∀ e k, a.phase ≠ .launching e k := fun e k hp => hl ⟨e, k, hp⟩
        have hsound := (orderly_run hr).sane.attempts a (List.mem_of_getElem? hi)
        obtain ⟨p, m', hadv, hlt, hstart'⟩ := a.exists_advance easyProbe hsound hstart hnot hinactive
        have hmove : (ch.move mv).manager = ch.manager.make mv := ch.manager_move mv
        have hi' : (ch.move mv).manager.attempts[i]? = some { a with phase := p } := by
          rw [hmove]
          exact getElem?_make_attempt idleHost hi hadv
        have hinactive' : ∀ id, (ch.move mv).manager.fleet.isActive id = false := by
          intro id
          rw [hmove, make_attempt idleHost hi hadv]
          have hconsistent := fun id s => (handover_run hr).grows.consistent id s rfl
          exact (Attempt.step_of_advance? hadv).isActive hnot hconsistent (hinactive id)
        obtain ⟨moves, id, hact⟩ := ih p.toGo (hn ▸ hlt) (hr.move mv) hi' hstart' hinactive' rfl
        refine ⟨mv :: moves, id, ?_⟩
        rw [List.foldl_cons, ← hmove]
        exact hact

/-! ## §3. What a shutdown leaves. -/

/-- **Whenever it has returned, nothing is active**, then or later. -/
def Closing.Clears (c : Closing) : Prop :=
  ∀ later more, (c.run later).phase = .returned →
    ∀ id, ((c.run later).run more).manager.fleet.isActive id = false

/-- The owner of a service that is registered has broken off. -/
def Closing.Hangs (c : Closing) : Prop :=
  ∃ id ∈ c.manager.fleet.members c.manager.registry, ∃ s,
    c.manager.fleet.service? id = some s ∧ s.phase = .broken

/-- **What is registered is all there is**: no attempt may start a service any more, and every
active service is registered. -/
structure Closing.Complete (c : Closing) : Prop where
  attempts : ∀ a ∈ c.manager.attempts, a.mayStart = false
  registered : ∀ id, c.manager.fleet.isActive id = true →
    id ∈ c.manager.fleet.members c.manager.registry

/-- What has returned has returned. -/
theorem Closing.returned_run (h : c.phase = .returned) (moves : List Closing.Move) :
    (c.run moves).phase = .returned := by
  induction moves generalizing c with
  | nil => exact h
  | cons mv rest ih =>
      refine ih (c := c.move mv) ?_
      cases mv with
      | other mv => exact h
      | go =>
          unfold move go
          rw [h]
          exact h
      | hear id =>
          unfold move hear
          rw [h]
          exact h

/-- **A shutdown returns only after it has taken hold of the services.** -/
theorem Closing.exists_ready (hp : c.phase = .stopping) {moves : List Closing.Move}
    (hr : (c.run moves).phase = .returned) :
    ∃ first rest, moves = first ++ .go :: rest ∧ (c.run first).Ready := by
  induction moves generalizing c with
  | nil =>
      rw [show c.phase = .returned from hr] at hp
      cases hp
  | cons mv rest ih =>
      by_cases hready : mv = .go ∧ c.manager.loop.stage = .stopped
      · obtain ⟨rfl, hstopped⟩ := hready
        exact ⟨[], rest, rfl, hp, hstopped⟩
      · have hstays : (c.move mv).phase = .stopping := by
          cases mv with
          | other mv => exact hp
          | go =>
              unfold move go
              rw [hp]
              dsimp only
              rw [if_neg fun hstopped => hready ⟨rfl, hstopped⟩]
              exact hp
          | hear id =>
              unfold move hear
              rw [hp]
              exact hp
        obtain ⟨first, more, rfl, hfirst⟩ := ih hstays hr
        exact ⟨mv :: first, more, rfl, hfirst⟩

/-- A shutdown that hangs does not return. -/
theorem Closing.Ready.clears_of_hangs (h : c.Ready) (ht : c.Traced) (hhangs : c.Hangs) :
    c.go.Clears := by
  obtain ⟨id, hid, s, hs, hbroken⟩ := hhangs
  have hstuck : c.go.Stuck id := by
    refine ⟨ht.move .go, ?_, ?_, ?_⟩ <;> rw [h.go_eq]
    · exact nofun
    · exact hid
    · exact ⟨s, hs, hbroken⟩
  intro later more hr
  exact absurd hr (hstuck.run later)

/-- One that has taken hold of all there is leaves nothing. -/
theorem Closing.Ready.clears_of_complete (h : c.Ready) (ht : c.Traced) (hall : c.Complete) :
    c.go.Clears := by
  have hempties : c.go.Emptying := by
    refine ⟨ht.move .go, ?_, ?_, ?_⟩ <;> rw [h.go_eq]
    · exact ⟨h.stopped, hall.attempts⟩
    · exact nofun
    · intro id hid
      rw [Bool.eq_false_iff]
      exact fun hact => hid (hall.registered id hact)
  intro later more hr id
  exact ((hempties.run later).run more).inactive (returned_run hr more) id

/-- **Whatever it has not taken hold of may be left**: a service that is not registered, or one that
an attempt starts when the shutdown has returned. -/
theorem Closing.Ready.complete_of_clears (h : c.Ready) (ht : c.Traced) (hclears : c.go.Clears)
    (hhangs : ¬c.Hangs) : c.Complete := by
  obtain ⟨later, f, hrun, hsettled, hsame⟩ :=
    h.exists_returned ht fun id hid s hs hbroken => hhangs ⟨id, hid, s, hs, hbroken⟩
  have hnone : ∀ more id, (Closing.run ⟨{ c.manager with fleet := f }, .returned⟩
      more).manager.fleet.isActive id = false := by
    intro more id
    rw [← hrun]
    exact hclears later more (by rw [hrun]) id
  refine ⟨fun a ha => ?_, fun id hact => ?_⟩
  · -- from here on the attempt alone may go on until it starts its service
    rw [Bool.eq_false_iff]
    intro hstart
    obtain ⟨ch, hreached, hm⟩ := (ht.move .go).run later
    have hm : ch.manager = { c.manager with fleet := f } :=
      hm.trans (congrArg Closing.manager hrun)
    obtain ⟨i, hi⟩ := List.getElem?_of_mem ha
    have hi : ch.manager.attempts[i]? = some a := by rw [hm]; exact hi
    have hinactive : ∀ id, ch.manager.fleet.isActive id = false := by
      rw [hm]
      exact hnone []
    obtain ⟨moves, id, hact⟩ := exists_started hreached hi hstart hinactive
    have hstill := hnone (moves.map .other) id
    rw [run_other] at hstill
    rw [hm, hstill] at hact
    cases hact
  · by_contra hid
    have hactive : f.isActive id = true := by
      unfold Fleet.isActive
      rw [hsame id hid]
      exact hact
    rw [show f.isActive id = false from hnone [] id] at hactive
    cases hactive

/-- **Shutting down.** Whatever has happened to a supervisor before and whatever comes between, a
shutdown returns only after it has taken hold of the services that are registered when the event
loop has stopped.  From then on it leaves nothing active whenever it returns if and only if no
attempt may start a service any more and every active service is registered — or the owner of one
that is registered has broken off, and it does not return. -/
theorem shutdown_clears_iff {shuffle : Shuffle} {config : Config} {s : Supervisor}
    (hs : Supervisor.create shuffle config = .ok s) (before : List Move) :
    (∀ moves, ((s.closing before).run moves).phase = .returned →
      ∃ first rest, moves = first ++ .go :: rest ∧ ((s.closing before).run first).Ready) ∧
    ∀ first, ((s.closing before).run first).Ready →
      (((s.closing before).run first).go.Clears ↔
        ((s.closing before).run first).Hangs ∨ ((s.closing before).run first).Complete) := by
  refine ⟨fun moves => Closing.exists_ready rfl, fun first hready => ?_⟩
  have ht := (traced_closing hs before).run first
  constructor
  · intro hclears
    by_cases hhangs : ((s.closing before).run first).Hangs
    · exact .inl hhangs
    · exact .inr (hready.complete_of_clears ht hclears hhangs)
  · rintro (hhangs | hall)
    · exact hready.clears_of_hangs ht hhangs
    · exact hready.clears_of_complete ht hall

/-! ## §4. One shutdown of many. -/

/-- What settling leads to is seen by whoever shuts down. -/
theorem run_acted (c : Closing) (host : Host) (probe : Probe) (actions : List Action) :
    c.run ((actions.map (.act host probe)).map .other) =
      { c with manager := c.manager.acted host probe actions } :=
  c.run_other _

/-- **What a supervisor does when it is shut down is one of these runs**, if the event loop stops
and the services settle in time: it returns, with a manager that is the same but for attempts that
are over. -/
theorem exists_shutdown_run (s : Supervisor) (host : Host) (net : Net.Network)
    (hstopped : (s.manager.stop host (s.probe net)).loop.stage = .stopped)
    (hsettled : ∀ id ∈ (s.manager.stop host (s.probe net)).fleet.members
      (s.manager.stop host (s.probe net)).registry,
      (s.shutdown host net).manager.fleet.isSettled id = true) :
    ∃ moves, ((s.closing []).run moves).phase = .returned ∧
      ((s.closing []).run moves).manager.Alike (s.shutdown host net).manager := by
  -- the event loop stops
  obtain ⟨acts, hstop⟩ := stop_run host (s.probe net) s.manager
  let m := (s.manager.send .stop).acted host (s.probe net) acts
  have hready : Closing.Ready ⟨m, .stopping⟩ := ⟨rfl, hstop.loop ▸ hstopped⟩
  rw [hstop.fleet, hstop.registry] at hsettled
  -- the services are asked to stop
  let ids := m.fleet.members m.registry
  obtain ⟨asks, hasks⟩ := Closing.exists_allAsked m ids ids
  -- they settle
  obtain ⟨acts', hend⟩ := hstop.stopServices host (s.probe net)
  let m' := acted host (s.probe net) { m with fleet := m.fleet.stopEach m.registry } acts'
  have hinactive : ∀ id ∈ ids, m'.fleet.isActive id = false := by
    intro id hid
    have hset : (s.shutdown host net).manager.fleet.isSettled id = true := hsettled id hid
    rw [show (s.shutdown host net).manager.fleet = m'.fleet from hend.fleet,
      Fleet.isSettled_eq] at hset
    simpa using hset
  obtain ⟨hears, hhears⟩ := Closing.exists_returned m' hinactive
  let stops : List Closing.Move := (acts.map (.act host (s.probe net))).map .other
  let ends : List Closing.Move := (acts'.map (.act host (s.probe net))).map .other
  have hrun : (s.closing []).run (stops ++ .go :: (asks ++ (ends ++ hears))) = ⟨m', .returned⟩ := by
    rw [Closing.run_append, run_acted]
    show (Closing.go ⟨m, .stopping⟩).run (asks ++ (ends ++ hears)) = _
    rw [hready.go_eq, Closing.run_append, hasks, Closing.run_append, run_acted]
    exact hhears
  exact ⟨_, congrArg Closing.phase hrun, congrArg Closing.manager hrun ▸ hend⟩

/-! ## §5. A service that is started too late. -/

/-- A configuration with one connection. -/
def lateConfig : Config := { Config.standard with
  transports := .ofList [("x", ⟨"x", false, some "x", [], false⟩)]
  connections := [⟨"x", "", "198.51.100.3:3", false, false, "x"⟩] }

/-- Where reports are received. -/
def lateAddress : Net.SocketAddress := ⟨.v4 ⟨[127, 0, 0, 1], rfl⟩, 8899, 0⟩

/-- The supervisor that keeps it up. -/
def lateSupervisor : Supervisor where
  config := lateConfig
  address := lateAddress
  receiver := .start lateConfig.secret
  manager := create lateConfig.managerSettings .empty Supervisor.registry lateConfig.transports .keep
    lateConfig.connections

theorem create_late : Supervisor.create .keep lateConfig = .ok lateSupervisor := by
  have haddress : lateConfig.controllerAddress = .ok lateAddress := by decide +kernel
  unfold Supervisor.create
  rw [haddress]
  rfl

/-- An attempt has begun when the supervisor is shut down, and takes its first step only after the
shutdown has returned. -/
def lateBefore : List Move := [.act idleHost easyProbe .begin]

/-- The event loop stops. -/
def lateStop : List Closing.Move := [.other (.act idleHost easyProbe (.receive .keep))]

/-- The attempt goes on until it has started its service. -/
def lateStart : List Closing.Move := List.replicate 9 (.other (.act idleHost easyProbe (.attempt 0)))

theorem ready_late : ((lateSupervisor.closing lateBefore).run lateStop).Ready := by
  constructor <;> decide +kernel

theorem shutdown_clears_iff_late :
    Supervisor.create .keep lateConfig = .ok lateSupervisor ∧
      ((lateSupervisor.closing lateBefore).run lateStop).Ready ∧
      ¬((lateSupervisor.closing lateBefore).run lateStop).go.Clears := by
  refine ⟨create_late, ready_late, fun hclears => ?_⟩
  have hiff := (shutdown_clears_iff create_late lateBefore).2 lateStop ready_late
  rcases hiff.1 hclears with ⟨id, hid, -⟩ | hall
  · have hnil : ((lateSupervisor.closing lateBefore).run lateStop).manager.fleet.members
        ((lateSupervisor.closing lateBefore).run lateStop).manager.registry = [] := by decide +kernel
    rw [hnil] at hid
    cases hid
  · have hmay : ((lateSupervisor.closing lateBefore).run lateStop).manager.attempts.any
        Attempt.mayStart = true := by decide +kernel
    obtain ⟨a, ha, hstart⟩ := List.any_eq_true.1 hmay
    rw [hall.attempts a ha] at hstart
    cases hstart

/-- **A service is started when the shutdown has returned.** -/
theorem not_shutdown_clears :
    Supervisor.create .keep lateConfig = .ok lateSupervisor ∧
      ((lateSupervisor.closing lateBefore).run (lateStop ++ [.go, .go, .go])).phase = .returned ∧
      (((lateSupervisor.closing lateBefore).run (lateStop ++ [.go, .go, .go])).run
        lateStart).manager.fleet.isActive "svc-0" = true :=
  ⟨create_late, by decide +kernel, by decide +kernel⟩

end Failover.Manager
