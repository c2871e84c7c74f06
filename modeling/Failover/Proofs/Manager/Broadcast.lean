/-
  Failover.Proofs.Manager.Broadcast
  ─────────────────────────────────
  **Who is told what.**  A bulletin is exact if the histories and what has
  come into the inboxes are what the messages say that were taken.  Each
  history is that of the connection of its event, right after the event:
  the latest events of that connection among all that were taken, as many
  as are kept.  Nothing else decides what an inbox that listens is told:
  not the other inboxes, nor who of them has stopped to listen.

  The manager may begin with any messages in its queue and any inboxes, as
  long as nobody is registered and no event was taken yet; so all
  sequences of messages are covered, not only those of its own tasks.

  Main statement: `broadcast_exact`.
-/
import Failover.Proofs.Manager.Bulletin

namespace Failover.Manager

/-! ## §1. Bulletins that are exact. -/

/-- **A bulletin is exact**: the histories, and what everybody who listens was told, are what the
messages that were taken say. -/
structure Bulletin.Exact (limit : Nat) (b : Bulletin) : Prop where
  settings : b.manager.loop.settings.historyLimit = limit
  histories : ∀ id, (b.manager.loop.histories.get? id).getD .empty = historyAfter limit id b.taken
  received : ∀ i, b.manager.listens i = true → b.received i = announced limit i [] b.taken
  /-- The list of listeners has everybody as often as he was registered. -/
  registered : b.manager.loop.stage ≠ .stopped → ∀ i, b.manager.listens i = true →
    b.manager.loop.listeners.count i = b.taken.count (.addListener i)
  /-- Only inboxes that are there are registered. -/
  queued : ∀ i, .addListener i ∈ b.manager.queue → i < b.manager.inboxes.length
  known : ∀ i, .addListener i ∈ b.taken → i < b.manager.inboxes.length
  listed : ∀ i ∈ b.manager.loop.listeners, i < b.manager.inboxes.length
  /-- Nothing has come into an inbox that is not there yet. -/
  unborn : ∀ i, b.manager.inboxes.length ≤ i → b.received i = []

variable {b : Bulletin} {m m' : Manager} {limit i : Nat}

/-- Who listens has an inbox. -/
theorem lt_of_listens (h : m.listens i = true) : i < m.inboxes.length := by
  obtain ⟨x, hx, -⟩ := Option.any_eq_true _ _ |>.1 h
  exact (List.getElem?_eq_some_iff.1 hx).1

/-- What concerns the histories and the inboxes has not changed. -/
theorem Bulletin.Exact.of_undisturbed (h : b.Exact limit) (hu : b.manager.Undisturbed m') :
    Bulletin.Exact limit { b with manager := m' } where
  settings := by rw [hu.settings]; exact h.settings
  histories := by rw [hu.histories]; exact h.histories
  received := by unfold listens; rw [hu.inboxes]; exact h.received
  registered hs := by
    unfold listens
    rw [hu.inboxes, hu.listeners]
    exact h.registered (hu.stage hs)
  queued i hi := by rw [hu.inboxes]; exact h.queued i (hu.queue i hi)
  known := by rw [hu.inboxes]; exact h.known
  listed := by rw [hu.inboxes, hu.listeners]; exact h.listed
  unborn := by rw [hu.inboxes]; exact h.unborn

/-! ## §2. What others ask. -/

/-- What others ask brings nothing into the inboxes by itself. -/
theorem Bulletin.move_ask (b : Bulletin) (request : Request) :
    b.move (.ask request) = { b with manager := b.manager.ask request } := by
  show Bulletin.mk _ (b.taken ++ []) (fun i => b.received i ++ []) = _
  simp only [List.append_nil]
  rfl

/-- Inboxes may be read, and stop to listen. -/
theorem Bulletin.Exact.modify (h : b.Exact limit) {j : Nat} {f : Inbox → Inbox}
    (hf : ∀ x, (f x).listening = true → x.listening = true) :
    Bulletin.Exact limit
      { b with manager := { b.manager with inboxes := b.manager.inboxes.modify j f } } := by
  have hlen : (b.manager.inboxes.modify j f).length = b.manager.inboxes.length :=
    List.length_modify ..
  have hlistens : ∀ i, ({ b.manager with
      inboxes := b.manager.inboxes.modify j f } : Manager).listens i = true →
      b.manager.listens i = true := by
    intro i hi
    unfold listens at hi ⊢
    dsimp only at hi
    rw [List.getElem?_modify] at hi
    cases hx : b.manager.inboxes[i]? with
    | none => rw [hx] at hi; cases hi
    | some x =>
        rw [hx] at hi
        by_cases hj : j = i
        · exact hf x (by simpa [hj] using hi)
        · simpa [hj] using hi
  exact {
    settings := h.settings
    histories := h.histories
    received := fun i hi => h.received i (hlistens i hi)
    registered := fun hs i hi => h.registered hs i (hlistens i hi)
    queued := fun i hi => by rw [hlen]; exact h.queued i hi
    known := fun i hi => by rw [hlen]; exact h.known i hi
    listed := fun i hi => by rw [hlen]; exact h.listed i hi
    unborn := fun i hi => h.unborn i (by rw [← hlen]; exact hi) }

theorem loop_subscribe (m : Manager) : m.subscribe.2.loop = m.loop :=
  congrArg (·.loop) (send_eq { m with inboxes := m.inboxes ++ [⟨true, []⟩] } _)

theorem inboxes_subscribe (m : Manager) :
    m.subscribe.2.inboxes = m.inboxes ++ [⟨true, []⟩] :=
  congrArg (·.inboxes) (send_eq { m with inboxes := m.inboxes ++ [⟨true, []⟩] } _)

/-- A new inbox was told nothing, and waits to be registered. -/
theorem Bulletin.Exact.subscribe (h : b.Exact limit) :
    Bulletin.Exact limit { b with manager := b.manager.subscribe.2 } := by
  have hnew : .addListener b.manager.inboxes.length ∉ b.taken :=
    fun hmem => Nat.lt_irrefl _ (h.known _ hmem)
  have hloop := b.manager.loop_subscribe
  have hinboxes := b.manager.inboxes_subscribe
  have hlen : b.manager.subscribe.2.inboxes.length = b.manager.inboxes.length + 1 := by
    rw [hinboxes]
    exact List.length_append
  have hold : ∀ i, b.manager.subscribe.2.listens i = true →
      b.manager.listens i = true ∨ i = b.manager.inboxes.length := by
    intro i hi
    have hlt := lt_of_listens hi
    rw [hlen] at hlt
    by_cases hlast : i = b.manager.inboxes.length
    · exact .inr hlast
    · unfold listens at hi ⊢
      rw [hinboxes, List.getElem?_append_left (by omega)] at hi
      exact .inl hi
  constructor
  case settings => rw [hloop]; exact h.settings
  case histories => rw [hloop]; exact h.histories
  case received =>
    intro i hi
    rcases hold i hi with hi | rfl
    · exact h.received i hi
    · rw [h.unborn _ (Nat.le_refl _), announced_of_not_mem (by simpa using hnew)]
  case registered =>
    rw [hloop]
    intro hs i hi
    rcases hold i hi with hi | rfl
    · exact h.registered hs i hi
    · rw [List.count_eq_zero.2 hnew, List.count_eq_zero]
      exact fun hmem => Nat.lt_irrefl _ (h.listed _ hmem)
  case queued =>
    intro i hi
    rw [hlen]
    rcases (mem_queue_send _ _ _).1 hi with hi | ⟨-, heq⟩
    · exact Nat.lt_succ_of_lt (h.queued i hi)
    · cases heq
      exact Nat.lt_succ_self _
  case known => exact fun i hi => hlen ▸ Nat.lt_succ_of_lt (h.known i hi)
  case listed =>
    rw [hloop]
    exact fun i hi => hlen ▸ Nat.lt_succ_of_lt (h.listed i hi)
  case unborn =>
    rw [hlen]
    exact fun i hi => h.unborn i (Nat.le_of_succ_le hi)

/-- **Whatever others ask keeps a bulletin exact.** -/
theorem Bulletin.Exact.ask (h : b.Exact limit) (request : Request) :
    (b.move (.ask request)).Exact limit := by
  rw [b.move_ask request]
  cases request with
  | updateConnections connections =>
      exact h.of_undisturbed (undisturbed_send _ _ fun _ heq => by cases heq)
  | updateTransports transports =>
      exact h.of_undisturbed (undisturbed_send _ _ fun _ heq => by cases heq)
  | stop => exact h.of_undisturbed (undisturbed_send _ _ fun _ heq => by cases heq)
  | subscribe => exact h.subscribe
  | unsubscribe inbox => exact h.modify fun _ hx => by cases hx
  | read inbox left => exact h.modify fun _ hx => hx
  | call service call => exact h.of_undisturbed ⟨rfl, rfl, rfl, rfl, fun h => h, fun _ h => h⟩

/-! ## §3. Messages that are taken. -/

/-- A message that tells no event and registers nobody changes nothing of what is to be told. -/
theorem Bulletin.Exact.take (h : b.Exact limit) {message : Message}
    (hevent : message.event? = none) (hadd : ∀ i, message ≠ .addListener i)
    (hsettings : m'.loop.settings = b.manager.loop.settings)
    (hhistories : m'.loop.histories = b.manager.loop.histories)
    (hinboxes : m'.inboxes = b.manager.inboxes)
    (hlisteners : m'.loop.stage ≠ .stopped → b.manager.loop.stage ≠ .stopped ∧
      m'.loop.listeners = b.manager.loop.listeners)
    (hlisted : ∀ i ∈ m'.loop.listeners, i ∈ b.manager.loop.listeners)
    (hqueue : ∀ i, .addListener i ∈ m'.queue → .addListener i ∈ b.manager.queue) :
    Bulletin.Exact limit ⟨m', b.taken ++ [message], b.received⟩ := by
  have hcount : ∀ i, (b.taken ++ [message]).count (.addListener i) =
      b.taken.count (.addListener i) := by
    intro i
    rw [List.count_append, List.count_singleton, if_neg, Nat.add_zero]
    exact fun heq => hadd i (eq_of_beq heq)
  have hlistens : ∀ i, m'.listens i = b.manager.listens i := by
    intro i
    unfold listens
    rw [hinboxes]
  constructor
  case settings => rw [hsettings]; exact h.settings
  case histories =>
    intro id
    unfold historyAfter
    dsimp only
    rw [eventsOf_concat_of_none hevent, hhistories]
    exact h.histories id
  case received =>
    intro i hi
    dsimp only
    rw [announced_concat, announcement_of_none hevent, List.append_nil]
    exact h.received i (hlistens i ▸ hi)
  case registered =>
    intro hs i hi
    obtain ⟨hs', heq⟩ := hlisteners hs
    dsimp only
    rw [hcount, heq]
    exact h.registered hs' i (hlistens i ▸ hi)
  case queued => exact fun i hi => by rw [hinboxes]; exact h.queued i (hqueue i hi)
  case known =>
    intro i hi
    rw [hinboxes]
    rcases List.mem_append.1 hi with hi | hi
    · exact h.known i hi
    · exact absurd (List.mem_singleton.1 hi).symm (hadd i)
  case listed => exact fun i hi => by rw [hinboxes]; exact h.listed i (hlisted i hi)
  case unborn => rw [hinboxes]; exact h.unborn

/-- An inbox is registered once more. -/
theorem Bulletin.Exact.takeListener (h : b.Exact limit) (shuffle : Shuffle) {j : Nat}
    (hj : j < b.manager.inboxes.length) :
    Bulletin.Exact limit
      ⟨b.manager.handle shuffle (.addListener j), b.taken ++ [.addListener j], b.received⟩ := by
  constructor
  case settings => exact h.settings
  case histories =>
    intro id
    unfold historyAfter
    dsimp only
    rw [eventsOf_concat_of_none rfl]
    exact h.histories id
  case received =>
    intro i hi
    dsimp only
    rw [announced_concat, announcement_of_none rfl, List.append_nil]
    exact h.received i hi
  case registered =>
    intro hs i hi
    have hcount : b.manager.loop.listeners.count i = b.taken.count (.addListener i) :=
      h.registered hs i hi
    show (b.manager.loop.listeners ++ [j]).count i =
      (b.taken ++ [Message.addListener j]).count (.addListener i)
    rw [List.count_append, List.count_append, hcount, List.count_singleton,
      List.count_singleton]
    by_cases hij : j = i
    · simp [hij]
    · simp [hij]
  case queued => exact h.queued
  case known =>
    intro i hi
    rcases List.mem_append.1 hi with hi | hi
    · exact h.known i hi
    · cases List.mem_singleton.1 hi
      exact hj
  case listed =>
    intro i hi
    rcases List.mem_append.1 hi with hi | hi
    · exact h.listed i hi
    · cases List.mem_singleton.1 hi
      exact hj
  case unborn => exact h.unborn

/-- The history with one event more is the one after the messages with that event. -/
theorem Bulletin.Exact.historyWith_eq (h : b.Exact limit) (e : Event) :
    b.manager.loop.historyWith e =
      historyAfter limit e.connection.id (b.taken ++ [.event e]) := by
  have hevents : eventsOf e.connection.id (b.taken ++ [.event e]) =
      eventsOf e.connection.id b.taken ++ [e] := by
    simp [eventsOf]
  unfold Loop.historyWith
  rw [h.settings, h.histories]
  unfold historyAfter
  rw [push_latest, hevents]

/-- An event is told to everybody who listens. -/
theorem Bulletin.Exact.takeEvent (h : b.Exact limit) (hs : b.manager.loop.stage ≠ .stopped)
    (e : Event) :
    Bulletin.Exact limit ⟨b.manager.handleEvent e, b.taken ++ [.event e], fun i =>
      b.received i ++ ((b.manager.handleEvent e).told i).drop (b.manager.told i).length⟩ := by
  obtain ⟨m₁, heq, hsettings, hhistories, hlisteners, hinboxes, hstage, hqueue⟩ :=
    handleEvent_eq b.manager e
  rw [heq, h.historyWith_eq e]
  rw [h.historyWith_eq e] at hhistories
  generalize hnew : historyAfter limit e.connection.id (b.taken ++ [.event e]) = new at *
  have hlen : (m₁.broadcast new).inboxes.length = b.manager.inboxes.length := by
    rw [← hinboxes]
    exact length_deliver ..
  have hlistens : ∀ i, (m₁.broadcast new).listens i = true → m₁.listens i = true ∧
      b.manager.listens i = true := by
    intro i hi
    rw [listens_broadcast] at hi
    refine ⟨hi, ?_⟩
    unfold listens at hi ⊢
    rw [← hinboxes]
    exact hi
  have htold : ∀ i, m₁.told i = b.manager.told i := by
    intro i
    unfold told
    rw [hinboxes]
  constructor
  case settings => exact (congrArg _ hsettings).trans h.settings
  case histories =>
    intro id
    show (m₁.loop.histories.get? id).getD .empty = _
    rw [hhistories, Named.get?_insert]
    by_cases hid : id = e.connection.id
    · rw [if_pos hid, hid, hnew]
      rfl
    · rw [if_neg hid, h.histories]
      unfold historyAfter eventsOf
      have hother : ¬e.connection.id = id := fun heq => hid heq.symm
      simp [hother]
  case received =>
    intro i hi
    obtain ⟨hi₁, hi₀⟩ := hlistens i hi
    have hcount := h.registered hs i hi₀
    dsimp only
    rw [told_broadcast new hi₁, htold, List.drop_left, h.received i hi₀, announced_concat,
      hlisteners, hcount, announcement, hnew]
  case registered =>
    intro _ i hi
    obtain ⟨hi₁, hi₀⟩ := hlistens i hi
    dsimp only
    rw [count_broadcast new hi₁, hlisteners, h.registered hs i hi₀, List.count_append,
      List.count_singleton]
    simp
  case queued =>
    intro i hi
    rw [hlen]
    exact h.queued i (hqueue ▸ hi)
  case known =>
    intro i hi
    rw [hlen]
    rcases List.mem_append.1 hi with hi | hi
    · exact h.known i hi
    · cases List.mem_singleton.1 hi
  case listed =>
    intro i hi
    rw [hlen]
    exact h.listed i (hlisteners ▸ (List.mem_filter.1 hi).1)
  case unborn =>
    intro i hi
    have hnone : (m₁.broadcast new).told i = [] := by
      unfold told
      rw [List.getElem?_eq_none hi]
      rfl
    dsimp only
    rw [hnone, h.unborn i (hlen ▸ hi), List.drop_nil]
    rfl

/-- **The event loop takes a message.** -/
theorem Bulletin.Exact.receive (h : b.Exact limit) (shuffle : Shuffle) {message : Message}
    {rest : List Message} (hs : b.manager.loop.stage = .running)
    (hq : b.manager.queue = message :: rest) :
    let m := { b.manager with queue := rest }.handle shuffle message
    Bulletin.Exact limit ⟨m, b.taken ++ [message], fun i =>
      b.received i ++ (m.told i).drop (b.manager.told i).length⟩ := by
  have hmem : ∀ x ∈ rest, x ∈ b.manager.queue := fun x hx => hq ▸ List.mem_cons_of_mem _ hx
  have hrest : Bulletin.Exact limit { b with manager := { b.manager with queue := rest } } :=
    h.of_undisturbed ⟨rfl, rfl, rfl, rfl, fun h => h, fun i hi => hmem _ hi⟩
  have hne : b.manager.loop.stage ≠ .stopped := by
    rw [hs]
    decide
  -- all messages but events leave the inboxes alone
  have hquiet : ∀ {m : Manager}, m.inboxes = b.manager.inboxes →
      Bulletin.Exact limit ⟨m, b.taken ++ [message], b.received⟩ →
      Bulletin.Exact limit ⟨m, b.taken ++ [message], fun i =>
        b.received i ++ (m.told i).drop (b.manager.told i).length⟩ := by
    intro m hm hexact
    have htold : ∀ i, b.received i ++ (m.told i).drop (b.manager.told i).length =
        b.received i := by
      intro i
      unfold told
      rw [hm, List.drop_length, List.append_nil]
    simpa only [htold] using hexact
  cases message with
  | event e => exact hrest.takeEvent hne e
  | addListener j =>
      exact hquiet rfl (hrest.takeListener shuffle (h.queued j (hq ▸ List.mem_cons_self)))
  | updateConnections connections | updateTransports transports | verified =>
      refine hquiet rfl (hrest.take rfl (fun _ heq => by cases heq) rfl rfl rfl ?_
        (fun i hi => hi) fun i hi => hi)
      exact fun _ => ⟨hne, rfl⟩
  | stop =>
      refine hquiet rfl (hrest.take rfl (fun _ heq => by cases heq) rfl rfl rfl ?_ ?_ ?_)
      · exact fun hstop => absurd rfl hstop
      · exact fun i hi => by cases hi
      · exact fun i hi => by cases hi

/-! ## §4. All runs. -/

/-- **Nobody has been told anything**: no event was taken, and nobody is registered. -/
structure Unheard (m : Manager) : Prop where
  histories : ∀ id, m.loop.histories.get? id = none
  listeners : m.loop.listeners = []
  /-- Whoever waits to be registered has an inbox. -/
  queued : ∀ i, .addListener i ∈ m.queue → i < m.inboxes.length

/-- A manager that is about to begin has told nobody anything. -/
theorem unheard_create (settings : Settings) (fleet : Service.Fleet) (registry : String)
    (transports : Named Transport) (shuffle : Shuffle) (connections : List Connection) :
    (create settings fleet registry transports shuffle connections).Unheard :=
  ⟨fun _ => rfl, rfl, fun _ hi => by cases hi⟩

/-- A bulletin is exact before anything happens. -/
theorem Unheard.exact (h : m.Unheard) : (bulletin m).Exact m.loop.settings.historyLimit where
  settings := rfl
  histories id := by
    show (m.loop.histories.get? id).getD .empty = _
    rw [h.histories id]
    simp [historyAfter, eventsOf, bulletin, History.empty]
  received _ _ := rfl
  registered _ i _ := by
    show m.loop.listeners.count i = _
    rw [h.listeners]
    rfl
  queued := h.queued
  known _ hi := by cases hi
  listed i hi := by
    have hi : i ∈ m.loop.listeners := hi
    rw [h.listeners] at hi
    cases hi
  unborn _ _ := rfl

/-- **Every move keeps a bulletin exact.** -/
theorem Bulletin.Exact.move (h : b.Exact limit) (mv : Move) : (b.move mv).Exact limit := by
  cases mv with
  | ask request => exact h.ask request
  | act host probe action =>
      -- nothing comes into the inboxes unless the event loop takes a message
      have hsilent : ∀ m, (b.manager.step? host probe action).getD b.manager = m →
          b.manager.taken? (.act host probe action) = none → b.manager.Undisturbed m →
          (b.move (.act host probe action)).Exact limit := by
        rintro m hmake htaken hu
        have hdelivered : ∀ i, b.manager.delivered i (.act host probe action) = [] := by
          intro i
          unfold delivered make
          dsimp only
          unfold told
          rw [hmake, hu.inboxes, List.drop_length]
        have hmove : b.move (.act host probe action) = { b with manager := m } := by
          unfold Bulletin.move
          rw [htaken]
          simp only [hdelivered, Option.toList_none, List.append_nil]
          exact congrArg (Bulletin.mk · b.taken b.received) hmake
        rw [hmove]
        exact h.of_undisturbed hu
      by_cases hr : ∃ shuffle, action = .receive shuffle
      · obtain ⟨shuffle, rfl⟩ := hr
        by_cases hs : b.manager.loop.stage = .running
        · cases hq : b.manager.queue with
          | nil =>
              refine hsilent b.manager ?_ ?_ (.refl _)
              · unfold step?
                simp [hs, hq]
              · unfold taken?
                simp [hs, hq]
          | cons message rest =>
              have hstep : b.manager.step? host probe (.receive shuffle) =
                  some ({ b.manager with queue := rest }.handle shuffle message) := by
                unfold step?
                simp [hs, hq]
              have htaken : b.manager.taken? (.act host probe (.receive shuffle)) =
                  some message := by
                unfold taken?
                simp [hs, hq]
              unfold Bulletin.move delivered make
              dsimp only
              rw [hstep, htaken]
              exact h.receive shuffle hs hq
        · refine hsilent b.manager ?_ ?_ (.refl _)
          · unfold step?
            dsimp only
            split
            · next hs' _ => exact absurd hs' hs
            · rfl
          · unfold taken?
            simp [hs]
      · have hr' : ∀ shuffle, action ≠ .receive shuffle := fun shuffle heq => hr ⟨shuffle, heq⟩
        have htaken : b.manager.taken? (.act host probe action) = none := by
          unfold taken?
          split
          · next heq =>
            cases heq
            exact absurd rfl (hr' _)
          · rfl
        cases hstep : b.manager.step? host probe action with
        | none => exact hsilent b.manager (by rw [hstep]; rfl) htaken (.refl _)
        | some m =>
            exact hsilent m (by rw [hstep]; rfl) htaken (undisturbed_step hstep hr')

/-- **Every run leaves an exact bulletin.** -/
theorem exact_run (h : m.Unheard) (moves : List Move) :
    ((bulletin m).run moves).Exact m.loop.settings.historyLimit := by
  have hrun : ∀ b : Bulletin, b.Exact m.loop.settings.historyLimit →
      (b.run moves).Exact m.loop.settings.historyLimit := by
    intro b hb
    induction moves generalizing b with
    | nil => exact hb
    | cons mv rest ih => exact ih (b.move mv) (hb.move mv)
  exact hrun _ h.exact

/-- **Who is told what.**  Whatever has happened to a manager since nobody had been told anything:
the history of every connection is the latest of its events that were taken.  Everybody who
listens was told, for each event that was taken since he was registered and for none before, the
history of its connection right after it; that history ends with the event.  And he is told the
same in every other run in which the same messages are taken, whoever has stopped to listen. -/
theorem broadcast_exact (h : m.Unheard) (pos : 0 < m.loop.settings.historyLimit)
    (moves : List Move) :
    let limit := m.loop.settings.historyLimit
    let b := (bulletin m).run moves
    (∀ id, (b.manager.loop.histories.get? id).getD .empty = historyAfter limit id b.taken) ∧
      (∀ i, b.manager.listens i = true → b.received i = announced limit i [] b.taken ∧
        ∀ before after, b.taken = before ++ .addListener i :: after →
          .addListener i ∉ before → .addListener i ∉ after →
          b.received i = snapshots limit (before ++ [.addListener i]) after) ∧
      (∀ past e, (historyAfter limit e.connection.id (past ++ [.event e])).current = some e ∧
        ((historyAfter limit e.connection.id (past ++ [.event e])).isUp = true ↔
          e.state = .up)) ∧
      ∀ moves' i, ((bulletin m).run moves').taken = b.taken →
        ((bulletin m).run moves').manager.listens i = true → b.manager.listens i = true →
        ((bulletin m).run moves').received i = b.received i := by
  intro limit b
  have hb : b.Exact limit := exact_run h moves
  refine ⟨hb.histories, fun i hi => ⟨hb.received i hi, ?_⟩, fun past e => ?_, ?_⟩
  · intro before after htaken hbefore hafter
    have hcount : (before ++ [Message.addListener i]).count (.addListener i) = 1 := by
      rw [List.count_append, List.count_eq_zero.2 hbefore, List.count_singleton_self]
    have hsplit : b.taken = before ++ [.addListener i] ++ after := by simp [htaken]
    -- nothing is told up to the registration, the registration included
    have hnone : announced limit i [] (before ++ [.addListener i]) = [] := by
      rw [announced_concat, announced_of_not_mem (by simpa using hbefore),
        announcement_of_none rfl]
      rfl
    rw [hb.received i hi, hsplit, announced_append, hnone, List.nil_append, List.nil_append]
    exact announced_of_count hcount hafter
  · have hcurrent := current_historyAfter pos past e
    refine ⟨hcurrent, ?_⟩
    unfold History.isUp
    rw [hcurrent]
    simp
  · intro moves' i htaken hi' hi
    have hb' : ((bulletin m).run moves').Exact limit := exact_run h moves'
    rw [hb'.received i hi', hb.received i hi, htaken]

/-- A connection is tried with one listener from the beginning, who leaves in the middle, and
another one who comes after two events. -/
def twoListeners : List Move :=
  let acts (actions : List Action) : List Move := actions.map (.act idleHost easyProbe)
  .ask .subscribe :: acts (.begin :: List.replicate 4 (.attempt 0)) ++
    .ask .subscribe :: acts (List.replicate 4 (.attempt 0) ++ List.replicate 4 (.receive .keep)) ++
    .ask (.unsubscribe 0) :: acts (List.replicate 2 (.receive .keep))

theorem broadcast_exact_twoListeners :
    let m := create .standard .empty "" .empty .keep
      [⟨"x", "", "198.51.100.3:3", false, false, "x"⟩]
    let b := (bulletin m).run twoListeners
    m.Unheard ∧ 0 < m.loop.settings.historyLimit ∧ b.manager.listens 1 = true ∧
      b.received 1 = announced 20 1 [] b.taken ∧
      (b.received 1).map (·.events.map (·.state)) =
        [[.init, .serviceInit, .notConfigured], [.init, .serviceInit, .notConfigured, .ended]] := by
  intro m b
  have hm : m.Unheard := unheard_create ..
  have hpos : 0 < m.loop.settings.historyLimit := by decide
  have hlistens : b.manager.listens 1 = true := by decide
  obtain ⟨-, htold, -⟩ := broadcast_exact hm hpos twoListeners
  exact ⟨hm, hpos, hlistens, (htold 1 hlistens).1, by decide⟩

end Failover.Manager
