/-
  Failover.Proofs.Manager.Turns
  ─────────────────────────────
  **Whose turn it is next.** The event loop keeps the id of the connection
  that was tried last, and the rotation keeps a position of its own.  New
  lists of connections come at any time, and the order may be drawn anew
  with each of them; still the position never slips away from the
  connection that was tried last, as long as that is enabled.

      tried last   ──advance──>   the next one in the order, never the same
                                  unless it is the only one

  What a rotation does with a list and with a turn is in the theory of
  rotations; here it is followed through the moves of a manager.

  Main statements: `Bulletin.Aligned.run` — the position stays at the
  connection that was tried last — and `moves_on` — whenever the timer
  fires, another connection has its turn if there is another one.
-/
import Failover.Proofs.Manager.Bulletin
import Failover.Proofs.Manager.Rotation

namespace Failover.Manager

open Service (Fleet)

/-! ## §1. The position and the connection that was tried last. -/

/-- The list of connections of a message. -/
def Message.connections? : Message → Option (List Connection)
  | .updateConnections connections => some connections
  | _ => none

/-- The list of connections that was taken over last: the latest of some messages, or else the one
from the beginning. -/
def latestList (connections : List Connection) (taken : List Message) : List Connection :=
  (taken.reverse.findSome? Message.connections?).getD connections

theorem latestList_concat (connections : List Connection) (taken : List Message)
    (message : Message) :
    latestList connections (taken ++ [message]) =
      message.connections?.getD (latestList connections taken) := by
  unfold latestList
  rw [List.reverse_concat, List.findSome?_cons]
  cases message.connections? <;> rfl

/-- The rotation holds what may be tried of the latest list, and it is known by its ids. -/
structure Bulletin.Listed (connections : List Connection) (b : Bulletin) : Prop where
  held : b.manager.loop.rotation.connections.Perm
    (Rotation.enabled (latestList connections b.taken))
  simple : Rotation.IsSimple (latestList connections b.taken)
  placed : b.manager.loop.rotation.Placed
  queued : ∀ l, .updateConnections l ∈ b.manager.queue → Rotation.IsSimple l

/-- **The position is where it should be**: if the connection that was tried last is in the
rotation, it is the one at the position. -/
structure Bulletin.Aligned (connections : List Connection) (b : Bulletin) : Prop
    extends Bulletin.Listed connections b where
  current : ∀ c ∈ b.manager.loop.rotation.connections,
    b.manager.loop.currentId = some c.id → b.manager.loop.rotation.current = some c

/-- The turns do not depend on what happens between two managers. -/
structure Steady (m m' : Manager) : Prop where
  rotation : m'.loop.rotation = m.loop.rotation
  currentId : m'.loop.currentId = m.loop.currentId
  queue : ∀ l, .updateConnections l ∈ m'.queue → .updateConnections l ∈ m.queue

variable {connections : List Connection} {b : Bulletin} {m m' : Manager}

theorem Bulletin.Listed.nodup (h : b.Listed connections) :
    (Rotation.ids b.manager.loop.rotation.connections).Nodup :=
  ((h.held.map Connection.id).nodup_iff).2 h.simple

/-- Sending anything but a list of connections is steady. -/
theorem steady_send (m : Manager) {message : Message} (h : message.connections? = none) :
    m.Steady (m.send message) := by
  have hq : ∀ l, .updateConnections l ∈ (m.send message).queue →
      .updateConnections l ∈ m.queue := by
    intro l hl
    rcases (mem_queue_send m message _).1 hl with hl | ⟨-, heq⟩
    · exact hl
    · rw [← heq] at h
      cases h
  rw [send_eq]
  exact ⟨rfl, rfl, hq⟩

/-- A step of a test is steady. -/
theorem Check.Step.steady {probe : Probe} {k k' : Check} (h : k.Step probe m k' m') :
    m.Steady m' := by
  cases h with
  | told s rest e hp he => exact m.steady_send rfl
  | _ => exact ⟨rfl, rfl, fun _ hl => hl⟩

/-- A step of an attempt is steady. -/
theorem Attempt.Step.steady {probe : Probe} {a : Attempt} {p : AttemptPhase}
    (h : a.Step probe m p m') : m.Steady m' := by
  cases h with
  | opened | told => exact m.steady_send rfl
  | unbuilt e t cause m' hp ht hb | built e t k m' hp ht hb =>
      rw [build_eq hb]
      exact ⟨rfl, rfl, fun _ hl => hl⟩
  | testing k k' m' hp hk => exact hk.steady
  | _ => exact ⟨rfl, rfl, fun _ hl => hl⟩

/-- A request is steady unless it sends a list of connections. -/
theorem steady_ask (m : Manager) {request : Request}
    (h : ∀ l, request ≠ .updateConnections l) : m.Steady (m.ask request) := by
  cases request with
  | updateConnections l => exact absurd rfl (h l)
  | updateTransports | stop => exact m.steady_send rfl
  | subscribe =>
      have hlisten : (Message.addListener m.inboxes.length).connections? = none := rfl
      have hsend := steady_send { m with inboxes := m.inboxes ++ [Inbox.mk true []] } hlisten
      exact ⟨hsend.rotation, hsend.currentId, hsend.queue⟩
  | _ => exact ⟨rfl, rfl, fun _ hl => hl⟩

/-- What the event loop does with a message is steady unless that is a list of connections. -/
theorem steady_handle (m : Manager) (shuffle : Shuffle) {message : Message}
    (h : message.connections? = none) : m.Steady (m.handle shuffle message) := by
  cases message with
  | updateConnections l => cases h
  | event e =>
      show m.Steady (m.handleEvent e)
      unfold handleEvent
      dsimp only
      split <;> exact ⟨rfl, rfl, fun _ hl => hl⟩
  | stop =>
      refine ⟨rfl, rfl, fun l hl => ?_⟩
      -- nothing is queued any more
      cases hl
  | _ => exact ⟨rfl, rfl, fun _ hl => hl⟩

/-- **Between two turns** nothing changes them but a list that is taken over. -/
theorem steady_step {host : Host} {probe : Probe} {action : Action}
    (h : m.step? host probe action = some m') (hreceive : ∀ shuffle, action ≠ .receive shuffle)
    (hbegin : action ≠ .begin) (hreconnect : action ≠ .reconnect) : m.Steady m' := by
  cases action with
  | begin => exact absurd rfl hbegin
  | receive shuffle => exact absurd rfl (hreceive shuffle)
  | reconnect => exact absurd rfl hreconnect
  | reverify =>
      obtain ⟨-, h⟩ := Option.ite_none_right_eq_some.1 h
      cases h
      unfold reverify
      dsimp only
      split
      · exact ⟨rfl, rfl, fun _ hl => hl⟩
      · split <;> exact ⟨rfl, rfl, fun _ hl => hl⟩
  | attempt i =>
      obtain ⟨a, p, m₁, -, hstep, rfl⟩ := attemptStep?_eq_some h
      have hs := hstep.steady
      exact ⟨hs.rotation, hs.currentId, hs.queue⟩
  | check i =>
      obtain ⟨k, -, ⟨-, rfl⟩ | ⟨k', m₁, hstep, rfl⟩⟩ := checkStep?_eq_some h
      · have hverified : Message.verified.connections? = none := rfl
        have hsend := steady_send { m with checks := m.checks.eraseIdx i } hverified
        exact ⟨hsend.rotation, hsend.currentId, hsend.queue⟩
      · have hs := hstep.steady
        exact ⟨hs.rotation, hs.currentId, hs.queue⟩
  | fleet action =>
      obtain ⟨f, -, rfl⟩ := Option.map_eq_some_iff.1 h
      exact ⟨rfl, rfl, fun _ hl => hl⟩

/-! ## §2. Runs. -/

/-- Only the action to take a message takes one. -/
theorem taken?_of_ne_receive {host : Host} {probe : Probe} {action : Action}
    (h : ∀ shuffle, action ≠ .receive shuffle) : m.taken? (.act host probe action) = none := by
  cases action with
  | receive shuffle => exact absurd rfl (h shuffle)
  | _ => rfl

/-- The message that is taken is the first one of the queue. -/
theorem taken?_of_receive {host : Host} {probe : Probe} {shuffle : Shuffle}
    (h : m.step? host probe (.receive shuffle) = some m') :
    ∃ message rest, m.queue = message :: rest ∧
      m.taken? (.act host probe (.receive shuffle)) = some message ∧
      m' = { m with queue := rest }.handle shuffle message := by
  unfold step? at h
  dsimp only at h
  split at h
  · next message rest hst hq =>
    cases h
    refine ⟨message, rest, hq, ?_, rfl⟩
    simp [taken?, hst, hq]
  · cases h

/-- What is not possible takes no message. -/
theorem taken?_of_impossible {host : Host} {probe : Probe} {action : Action}
    (h : m.step? host probe action = none) : m.taken? (.act host probe action) = none := by
  cases action with
  | receive shuffle =>
      unfold taken?
      dsimp only
      by_cases hst : m.loop.stage = .running
      · rw [if_pos hst]
        cases hq : m.queue with
        | nil => rfl
        | cons message rest => simp [step?, hst, hq] at h
      · rw [if_neg hst]
  | _ => rfl

namespace Bulletin

/-- What is steady keeps the position where it should be. -/
theorem Aligned.steady (h : b.Aligned connections) (hs : b.manager.Steady m)
    {taken : List Message} (ht : latestList connections taken = latestList connections b.taken)
    (received : Nat → List History) : Aligned connections ⟨m, taken, received⟩ where
  held := by rw [ht, hs.rotation]; exact h.held
  simple := by rw [ht]; exact h.simple
  placed := by rw [hs.rotation]; exact h.placed
  queued l hl := h.queued l (hs.queue l hl)
  current := by rw [hs.rotation, hs.currentId]; exact h.current

/-- Once the connection at the position is tried, the position is where it should be. -/
theorem Listed.connectCurrent {taken : List Message} {received : Nat → List History}
    (h : Listed connections ⟨m, taken, received⟩) :
    Aligned connections ⟨m.connectCurrent, taken, received⟩ := by
  unfold Manager.connectCurrent
  cases hcur : m.loop.rotation.current with
  | none =>
      refine ⟨⟨h.held, h.simple, h.placed, h.queued⟩, fun c hc _ => ?_⟩
      -- the position is one of the rotation, so that is empty
      have hc : c ∈ m.loop.rotation.connections := hc
      have hle := List.getElem?_eq_none_iff.1 hcur
      rcases h.placed with hlt | ⟨hnil, -⟩
      · exact absurd hlt (Nat.not_lt.2 hle)
      · have hnil : m.loop.rotation.connections = [] := hnil
        rw [hnil] at hc
        cases hc
  | some c =>
      refine ⟨⟨h.held, h.simple, h.placed, h.queued⟩, fun c' hc' hid => ?_⟩
      have hid : some c.id = some c'.id := hid
      have hsame := Rotation.eq_of_id_eq h.nodup (Rotation.mem_of_current hcur) hc'
        (Option.some.inj hid)
      show m.loop.rotation.current = some c'
      rw [hcur, hsame]

/-- **A list is taken over.** -/
theorem Aligned.update (h : b.Aligned connections) {l : List Connection} {rest : List Message}
    (hq : b.manager.queue = .updateConnections l :: rest) (shuffle : Shuffle)
    (received : Nat → List History) :
    Aligned connections
      ⟨{ b.manager with queue := rest }.handle shuffle (.updateConnections l),
        b.taken ++ [.updateConnections l], received⟩ := by
  have hlatest : latestList connections (b.taken ++ [.updateConnections l]) = l :=
    latestList_concat connections b.taken (.updateConnections l)
  have hl : Rotation.IsSimple l := h.queued l (by rw [hq]; exact List.mem_cons_self)
  refine ⟨⟨?_, ?_, ?_, ?_⟩, ?_⟩
  · rw [hlatest]
    exact Rotation.perm_update shuffle b.manager.loop.currentId h.nodup hl
  · rw [hlatest]
    exact hl
  · exact Rotation.placed_update shuffle l b.manager.loop.currentId h.placed
  · intro l' hl'
    exact h.queued l' (by rw [hq]; exact List.mem_cons_of_mem _ hl')
  · intro c hc hid
    have hid : b.manager.loop.currentId = some c.id := hid
    have hc : c ∈ (b.manager.loop.rotation.update shuffle l
      b.manager.loop.currentId).2.connections := hc
    show (b.manager.loop.rotation.update shuffle l b.manager.loop.currentId).2.current = some c
    rw [hid] at hc ⊢
    refine Rotation.update_current shuffle hl (fun c' hc' heq => ?_) hc rfl
    exact h.current c' hc' (by rw [heq]; exact hid)

/-- The event loop takes the first message of its queue. -/
theorem Aligned.receive (h : b.Aligned connections) {message : Message} {rest : List Message}
    (hq : b.manager.queue = message :: rest) (shuffle : Shuffle) (received : Nat → List History) :
    Aligned connections
      ⟨{ b.manager with queue := rest }.handle shuffle message, b.taken ++ [message],
        received⟩ := by
  cases hm : message.connections? with
  | some l =>
      cases message with
      | updateConnections l => exact h.update hq shuffle received
      | _ => cases hm
  | none =>
      have hs := steady_handle { b.manager with queue := rest } shuffle hm
      have hlatest : latestList connections (b.taken ++ [message]) =
          latestList connections b.taken := by
        rw [latestList_concat, hm]
        rfl
      refine h.steady ⟨hs.rotation, hs.currentId, fun l hl => ?_⟩ hlatest received
      rw [hq]
      exact List.mem_cons_of_mem _ (hs.queue l hl)

/-- **Every action keeps the position where it should be.** -/
theorem Aligned.act (h : b.Aligned connections) {host : Host} {probe : Probe} {action : Action}
    (hs : b.manager.step? host probe action = some m) (received : Nat → List History) :
    Aligned connections
      ⟨m, b.taken ++ (b.manager.taken? (.act host probe action)).toList, received⟩ := by
  by_cases hr : ∃ shuffle, action = .receive shuffle
  · obtain ⟨shuffle, rfl⟩ := hr
    obtain ⟨message, rest, hq, htaken, rfl⟩ := taken?_of_receive hs
    rw [htaken]
    exact h.receive hq shuffle received
  · have hr : ∀ shuffle, action ≠ .receive shuffle := fun shuffle heq => hr ⟨shuffle, heq⟩
    rw [taken?_of_ne_receive hr, Option.toList_none, List.append_nil]
    by_cases hturn : action = .begin ∨ action = .reconnect
    · rcases hturn with rfl | rfl
      · obtain ⟨-, hs⟩ := Option.ite_none_right_eq_some.1 hs
        cases hs
        exact Listed.connectCurrent ⟨h.held, h.simple, h.placed, h.queued⟩
      · obtain ⟨-, hs⟩ := Option.ite_none_right_eq_some.1 hs
        cases hs
        refine Listed.connectCurrent ⟨?_, h.simple, Rotation.placed_advance h.placed, h.queued⟩
        rw [Rotation.advance_connections]
        exact h.held
    · rw [not_or] at hturn
      exact h.steady (steady_step hs hr hturn.1 hturn.2) rfl received

/-- **Every move keeps the position where it should be.** -/
theorem Aligned.move (h : b.Aligned connections) {mv : Move}
    (hmv : ∀ l, mv = .ask (.updateConnections l) → Rotation.IsSimple l) :
    Aligned connections (b.move mv) := by
  unfold Bulletin.move
  cases mv with
  | ask request =>
      have hnone : b.taken ++ (b.manager.taken? (.ask request)).toList = b.taken :=
        List.append_nil _
      rw [hnone]
      by_cases hreq : ∃ l, request = .updateConnections l
      · obtain ⟨l, rfl⟩ := hreq
        have hsend : b.manager.make (.ask (.updateConnections l)) =
            { b.manager with queue := (b.manager.send (.updateConnections l)).queue } :=
          send_eq b.manager _
        rw [hsend]
        refine ⟨⟨h.held, h.simple, h.placed, fun l' hl' => ?_⟩, h.current⟩
        rcases (mem_queue_send ..).1 hl' with hl' | ⟨-, heq⟩
        · exact h.queued l' hl'
        · cases heq
          exact hmv l rfl
      · exact h.steady (b.manager.steady_ask fun l heq => hreq ⟨l, heq⟩) rfl _
  | act host probe action =>
      unfold make
      dsimp only
      cases hs : b.manager.step? host probe action with
      | none =>
          -- what is not possible takes no message either
          rw [taken?_of_impossible hs, Option.toList_none, List.append_nil]
          exact h.steady ⟨rfl, rfl, fun _ hl => hl⟩ rfl _
      | some m => exact h.act hs _

/-- **Every run keeps the position where it should be**, as long as the lists of connections that
are asked for are simple. -/
theorem Aligned.run (h : b.Aligned connections) {moves : List Move}
    (hmoves : ∀ l, .ask (.updateConnections l) ∈ moves → Rotation.IsSimple l) :
    Aligned connections (b.run moves) := by
  induction moves generalizing b with
  | nil => exact h
  | cons mv rest ih =>
      refine ih (h.move ?_) fun l hl => hmoves l (List.mem_cons_of_mem _ hl)
      rintro l rfl
      exact hmoves l List.mem_cons_self

end Bulletin

/-- The position is where it should be before anything happens. -/
theorem aligned_create (settings : Settings) (fleet : Fleet) (registry : String)
    (transports : Named Transport) (shuffle : Shuffle) {connections : List Connection}
    (h : Rotation.IsSimple connections) :
    (bulletin (create settings fleet registry transports shuffle connections)).Aligned
      connections where
  held := Rotation.perm_update shuffle none List.nodup_nil h
  simple := h
  placed := Rotation.placed_update shuffle connections none (.inr ⟨rfl, rfl⟩)
  queued l hl := by cases hl
  current c _ hid := by cases hid

/-- **The next turn.** When the timer fires, a connection that may be tried has its turn, if there
is one; it is another one than the last, unless there is no other. -/
theorem Bulletin.Aligned.reconnect (h : b.Aligned connections) {host : Host} {probe : Probe}
    (hs : b.manager.step? host probe .reconnect = some m)
    (hne : Rotation.enabled (latestList connections b.taken) ≠ []) :
    ∃ c ∈ Rotation.enabled (latestList connections b.taken),
      m.attempts = b.manager.attempts ++
        [⟨c, b.manager.loop.transports.get? c.transport, .detaching⟩] ∧
      m.loop.currentId = some c.id ∧
      (2 ≤ (Rotation.enabled (latestList connections b.taken)).length →
        b.manager.loop.currentId ≠ some c.id) := by
  obtain ⟨-, hs⟩ := Option.ite_none_right_eq_some.1 hs
  cases hs
  have hsome : b.manager.loop.rotation.connections ≠ [] := by
    intro hnil
    have hperm := h.held
    rw [hnil] at hperm
    exact hne hperm.symm.eq_nil
  obtain ⟨c, hc, hcur, hother⟩ := Rotation.current_advance h.placed h.nodup hsome
  refine ⟨c, h.held.mem_iff.1 hc, ?_⟩
  have hconnect : b.manager.reconnect = Manager.connect { b.manager with
      loop.reconnectAt := none
      loop.rotation := b.manager.loop.rotation.advance } c := by
    unfold Manager.reconnect Manager.connectCurrent
    dsimp only
    rw [hcur]
  rw [hconnect]
  refine ⟨rfl, rfl, fun htwo hid => ?_⟩
  -- the one that was tried last had the turn, so it is not its turn again
  rw [← h.held.length_eq] at htwo
  exact hother htwo c (h.current c hc hid) rfl

/-- **Moving on.** Whatever happens to a manager while all lists of connections have distinct ids:
the rotation holds what may be tried of the list that was taken over last, and if the connection
that was tried last is among that, the position is at it.  So whenever the timer fires and two or
more connections may be tried, another one has its turn; and if there is only one, that has. -/
theorem moves_on (settings : Settings) (fleet : Fleet) (registry : String)
    (transports : Named Transport) (shuffle : Shuffle) (connections : List Connection)
    (moves : List Move) (hc : Rotation.IsSimple connections)
    (hmoves : ∀ l, .ask (.updateConnections l) ∈ moves → Rotation.IsSimple l) :
    let b := (bulletin (create settings fleet registry transports shuffle connections)).run moves
    let enabled := Rotation.enabled (latestList connections b.taken)
    b.manager.loop.rotation.connections.Perm enabled ∧
      (∀ c ∈ b.manager.loop.rotation.connections, b.manager.loop.currentId = some c.id →
        b.manager.loop.rotation.current = some c) ∧
      ∀ host probe m, b.manager.step? host probe .reconnect = some m →
        (2 ≤ enabled.length → ∃ c ∈ enabled,
          m.attempts = b.manager.attempts ++
            [⟨c, b.manager.loop.transports.get? c.transport, .detaching⟩] ∧
          m.loop.currentId = some c.id ∧ b.manager.loop.currentId ≠ some c.id) ∧
        ∀ c, enabled = [c] →
          m.attempts = b.manager.attempts ++
            [⟨c, b.manager.loop.transports.get? c.transport, .detaching⟩] ∧
          m.loop.currentId = some c.id := by
  intro b enabled
  have h : b.Aligned connections :=
    (aligned_create settings fleet registry transports shuffle hc).run hmoves
  refine ⟨h.held, h.current, fun host probe m hs => ⟨fun htwo => ?_, fun c hone => ?_⟩⟩
  · have hne : enabled ≠ [] := by
      intro hnil
      rw [hnil] at htwo
      cases htwo
    obtain ⟨c, hmem, hatt, hid, hother⟩ := h.reconnect hs hne
    exact ⟨c, hmem, hatt, hid, hother htwo⟩
  · have hne : enabled ≠ [] := by
      rw [hone]
      exact List.cons_ne_nil _ _
    obtain ⟨x, hmem, hatt, hid, -⟩ := h.reconnect hs hne
    have hmem : x ∈ enabled := hmem
    rw [hone, List.mem_singleton] at hmem
    subst hmem
    exact ⟨hatt, hid⟩

/-- A connection of an unknown transport. -/
def strayConnection (id : String) : Connection := ⟨"x", "", "198.51.100.3:3", false, false, id⟩

/-- One of two connections is tried.  Meanwhile a list comes in which the other one stands before
it and a third one behind it, and then the timer fires. -/
def overtaken : List Move :=
  let acts (actions : List Action) : List Move := actions.map (.act idleHost easyProbe)
  acts (.begin :: List.replicate 4 (.attempt 0)) ++
    .ask (.updateConnections [strayConnection "y", strayConnection "x", strayConnection "z"]) ::
    acts (List.replicate 4 (.attempt 0) ++ List.replicate 5 (.receive .keep) ++
      [.fleet (.elapse 4000)])

/-- The bulletin of that run. -/
def overtakenBulletin : Bulletin :=
  (bulletin (create .standard .empty "" .empty .keep
    [strayConnection "x", strayConnection "y"])).run overtaken

/-- The position went with the connection that is tried, and the third one has its turn. -/
theorem moves_on_overtaken :
    Rotation.IsSimple [strayConnection "x", strayConnection "y"] ∧
      (∀ l, .ask (.updateConnections l) ∈ overtaken → Rotation.IsSimple l) ∧
      overtakenBulletin.manager.loop.currentId = some "x" ∧
      overtakenBulletin.manager.loop.rotation.current = some (strayConnection "x") ∧
      ∃ m, overtakenBulletin.manager.step? idleHost easyProbe .reconnect = some m ∧
        m.loop.currentId = some "z" ∧ overtakenBulletin.manager.loop.currentId ≠ some "z" := by
  have hc : Rotation.IsSimple [strayConnection "x", strayConnection "y"] := by
    unfold Rotation.IsSimple
    decide
  have hmoves : ∀ l, .ask (.updateConnections l) ∈ overtaken → Rotation.IsSimple l := by
    intro l hl
    obtain rfl : l = [strayConnection "y", strayConnection "x", strayConnection "z"] := by
      simpa [overtaken] using hl
    unfold Rotation.IsSimple
    decide
  have hid : overtakenBulletin.manager.loop.currentId = some "x" := by decide +kernel
  have hfires : (overtakenBulletin.manager.step? idleHost easyProbe .reconnect).map
      (·.loop.currentId) = some (some "z") := by decide +kernel
  obtain ⟨m, hm, hz⟩ := Option.map_eq_some_iff.1 hfires
  obtain ⟨-, hcur, hturn⟩ := moves_on .standard .empty "" .empty .keep _ overtaken hc hmoves
  obtain ⟨c, -, -, hcid, hne⟩ := (hturn idleHost easyProbe m hm).1 (by decide +kernel)
  have hlast : some "z" = some c.id := hz.symm.trans hcid
  exact ⟨hc, hmoves, hid, hcur (strayConnection "x") (by decide +kernel) hid, m, hm, hz,
    by rw [hlast]; exact hne⟩

end Failover.Manager
