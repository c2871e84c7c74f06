/-
  Failover.Proofs.Service.Catalogue
  ─────────────────────────────────
  **What the services of a fleet list.**  A service lists no methods until
  the handshake of its process is finished, and then those that the
  messages of this handshake have named:

      VERSION … EXPOSE a … EXPOSE b … DONE   ──stored──▶   svc/a, svc/b

  This is so of every service at any time, whatever is done to the services
  and whatever happens by itself, and each service stands under its own id.

  Main statements: `Turn.listed` — every turn keeps it — and
  `catalogued_run` — it is so after all moves.
-/
import Failover.Proofs.Service.Genuine
import Failover.Proofs.Service.Presence

namespace Failover.Service

open Handshake (Negotiation Message IsHandshake)

/-! ## §1. One service. -/

/-- **The methods of a service** are those that a finished handshake has named, or none. -/
def ListsHandshake (s : Service) : Prop :=
  s.methods = [] ∨ ∃ ms : List Message, IsHandshake ms ∧ .done ∈ ms ∧
    s.methods = (ms.filterMap Message.exposed?).map (Method.ofExposed s.id)

/-- **What is so of a service that stands under an id.** -/
structure Listed (id : String) (s : Service) : Prop where
  named : s.id = id
  genuine : s.Genuine
  /-- What is to be stored is finished. -/
  finished : ∀ n, s.phase = .answering n → n.done = true
  lists : s.ListsHandshake

section

variable {id : String} {s s' : Service}

/-- A service that was not started lists nothing. -/
theorem listed_create (id name : String) (program : Program) (options : Options) (home : String) :
    (create id name program options home).Listed id where
  named := rfl
  genuine := genuine_of_idle rfl (consistent_create id name program options home)
  finished := nofun
  lists := .inl rfl

/-- Where its methods and its phase are as they were, it is listed as it was. -/
theorem Listed.of_eq (h : s.Listed id) (hid : s'.id = s.id) (hg : s'.Genuine)
    (hp : ∀ n, s'.phase = .answering n → s.phase = .answering n) (hm : s'.methods = s.methods) :
    s'.Listed id where
  named := hid.trans h.named
  genuine := hg
  finished n hn := h.finished n (hp n hn)
  lists := by
    unfold ListsHandshake
    rw [hm, hid]
    exact h.lists

/-- A method goes by its service and its name. -/
theorem Listed.id_eq {m : Method} (h : s.Listed id) (hm : m ∈ s.methods) :
    m.id = s.id ++ "/" ++ m.name := by
  rcases h.lists with hnone | ⟨ms, -, -, heq⟩
  · rw [hnone] at hm
    cases hm
  · rw [heq] at hm
    obtain ⟨e, -, rfl⟩ := List.mem_map.1 hm
    rfl

/-- **A passage of the owner** lists what is to be stored, and nothing else. -/
theorem Passage.listed (h : s.Passage s') (hg : s'.Genuine) (hl : s.Listed id) :
    s'.Listed id := by
  have hfinished : ∀ n, s'.phase = .answering n → n.done = true := by
    intro n hn
    refine h.done ?_
    unfold answering?
    rw [hn]
  cases h with
  | stored n hp =>
      obtain ⟨ms, hms⟩ := hl.genuine.answering n hp
      refine ⟨hl.named, hg, hfinished, .inr ⟨ms, hms.ordered, hms.done.1 (hl.finished n hp), ?_⟩⟩
      dsimp only
      rw [hms.methods]
  | _ => exact ⟨hl.named, hg, hfinished, hl.lists⟩

/-- **Every turn** keeps what a service lists right. -/
theorem Turn.listed (h : s.Turn s') (hc : s.Consistent) (hl : s.Listed id) : s'.Listed id := by
  have hg := h.genuine hc hl.genuine
  cases h with
  | owned host now s' h => exact (passage_advance h).listed hg hl
  | deregistered cause hp => exact hl.of_eq rfl hg nofun rfl
  | aside now s' h =>
      cases h with
      | process child _ => exact hl.of_eq rfl hg (fun _ hn => hn) rfl
      | heeded h => exact (passage_heed h).listed hg hl
  | stopAsked | removalAsked => exact hl.of_eq rfl hg (fun _ hn => hn) rfl
  | begun hi => exact hl.of_eq rfl hg nofun rfl

/-- So does setting a variable. -/
theorem Listed.setVar (h : s.Listed id) {key value : String} (hs : s.setVar key value = .ok s') :
    s'.Listed id := by
  obtain ⟨-, rfl⟩ := setVar_eq_ok hs
  exact h.of_eq rfl (h.genuine.of_eq rfl rfl rfl) (fun _ hn => hn) rfl

end

/-! ## §2. All services. -/

/-- **Every service stands under its id**, and lists what its process has named. -/
structure Fleet.Catalogued (f : Fleet) : Prop where
  sorted : f.services.Sorted
  listed : ∀ id s, f.service? id = some s → s.Listed id

namespace Fleet

variable {f f' : Fleet} {id : String} {s : Service}

theorem sorted_modify (h : f.services.Sorted) (id : String) (g : Service → Service) :
    (f.modify id g).services.Sorted := by
  unfold modify
  split
  · exact Named.sorted_insert h ..
  · exact h

theorem sorted_deregister (h : f.services.Sorted) (id : String) :
    (f.deregister id).2.services.Sorted := by
  rw [services_deregister]
  exact h

/-- Whatever happens by itself keeps the order. -/
theorem sorted_step (h : f.services.Sorted) {host : Host} {action : Action}
    (hstep : f.step? host action = some f') : f'.services.Sorted := by
  cases action with
  | child id | heed id =>
      obtain ⟨s, -, hstep⟩ := Option.bind_eq_some_iff.1 hstep
      obtain ⟨s', -, hstep⟩ := Option.bind_eq_some_iff.1 hstep
      cases hstep
      exact sorted_modify h ..
  | owner id =>
      unfold step? ownerStep? at hstep
      dsimp only at hstep
      split at hstep
      · cases hstep
      · split at hstep
        · cases hstep
          exact sorted_modify (sorted_deregister h id) ..
        · obtain ⟨s', -, rfl⟩ := Option.map_eq_some_iff.1 hstep
          exact sorted_modify h ..
  | elapse ms =>
      cases hstep
      exact h

/-- So does a step of a call to remove a service. -/
theorem sorted_call (h : f.services.Sorted) (id : String) (call : RemoveCall) :
    (call.step id f).2.services.Sorted := by
  cases call with
  | checking | rechecking =>
      unfold RemoveCall.step
      dsimp only
      split <;> exact h
  | marking => exact sorted_modify h ..
  | stopping call =>
      have hstop : (call.step id f).2.services.Sorted := by
        cases call with
        | checking =>
            unfold StopCall.step
            dsimp only
            split <;> exact h
        | asking => exact sorted_modify h ..
        | finished asked => exact h
      unfold RemoveCall.step
      dsimp only
      split <;> next heq =>
        rw [heq] at hstop
        exact hstop
  | deregistering => exact sorted_deregister h id
  | finished result => exact h

/-- **Where every service takes a turn** and none comes, the catalogue stays right. -/
theorem Catalogued.of_turns (h : f.Catalogued) (hf : f.Sane) (hsorted : f'.services.Sorted)
    (honly : ∀ id, f.service? id = none → f'.service? id = none)
    (hturn : ∀ id s, f.service? id = some s → ∃ s', f'.service? id = some s' ∧ s.Turn s') :
    f'.Catalogued where
  sorted := hsorted
  listed id s' hs' := by
    cases hs : f.service? id with
    | none => cases (honly id hs).symm.trans hs'
    | some s =>
        obtain ⟨s'', hs'', ht⟩ := hturn id s hs
        obtain rfl : s'' = s' := Option.some.inj (hs''.symm.trans hs')
        exact ht.listed (hf id s hs).consistent (h.listed id s hs)

theorem Catalogued.step (h : f.Catalogued) (hf : f.Sane) {host : Host} {action : Action}
    (hstep : f.step? host action = some f') : f'.Catalogued :=
  h.of_turns hf (sorted_step h.sorted hstep) (fun id => ((goes_step hstep).only id).1)
    fun _ _ hs => turn_step hstep hs

theorem Catalogued.call (h : f.Catalogued) (hf : f.Sane) (id : String) (call : RemoveCall) :
    (call.step id f).2.Catalogued :=
  h.of_turns hf (sorted_call h.sorted id call) (fun x => ((goes_call f id call).only x).1)
    fun _ _ hs => turn_call id call hs

/-- Changing one service keeps it right if the service is listed then. -/
theorem Catalogued.modify (h : f.Catalogued) {g : Service → Service}
    (hg : ∀ s, f.service? id = some s → (g s).Listed id) : (f.modify id g).Catalogued where
  sorted := sorted_modify h.sorted id g
  listed x s' hs' := by
    rw [service?_modify] at hs'
    split at hs'
    · next hx =>
      obtain ⟨s, hs, rfl⟩ := Option.map_eq_some_iff.1 hs'
      exact hx ▸ hg s hs
    · exact h.listed x s' hs'

theorem Catalogued.setVar (h : f.Catalogued) (id key value : String) :
    (f.setVar id key value).2.Catalogued := by
  unfold Fleet.setVar
  split
  · exact h
  · next s hs =>
    split
    · next s' hs' => exact h.modify fun _ _ => (h.listed id s hs).setVar hs'
    · exact h

theorem Catalogued.begin (h : f.Catalogued) (hf : f.Sane) (id : String) :
    (f.begin id).2.Catalogued := by
  unfold Fleet.begin
  split
  · exact h
  · next s hs =>
    split
    · next s' hs' =>
      obtain ⟨hidle, rfl⟩ := Service.begin_eq_ok hs'
      have ht := Service.Turn.begun hidle
      exact h.modify fun _ _ => ht.listed (hf id s hs).consistent (h.listed id s hs)
    · exact h

theorem Catalogued.stop (h : f.Catalogued) (hf : f.Sane) (id : String) :
    (f.stop id).Catalogued := by
  rw [stop_eq]
  split
  · exact h.modify fun s hs =>
      Service.Turn.stopAsked.listed (hf id s hs).consistent (h.listed id s hs)
  · exact h

theorem Catalogued.stopEach (h : f.Catalogued) (hf : f.Sane) (ids : List String) :
    (ids.foldl Fleet.stop f).Catalogued := by
  induction ids generalizing f with
  | nil => exact h
  | cons id rest ih => exact ih (h.stop hf id) ((onward_stop f id).sane hf)

/-- Registries do not count. -/
theorem Catalogued.of_services_eq (h : f.Catalogued) (heq : f'.services = f.services) :
    f'.Catalogued where
  sorted := heq ▸ h.sorted
  listed id s hs := h.listed id s (by unfold service? at hs ⊢; rwa [heq] at hs)

theorem catalogued_empty : empty.Catalogued := ⟨Named.sorted_empty, fun _ _ h => nomatch h⟩

theorem services_register (f : Fleet) (registry id : String) :
    (f.register registry id).services = f.services := by
  unfold register
  split <;> rfl

theorem Catalogued.create (h : f.Catalogued) (registry id name : String) (program : Program)
    (options : Options) : (f.create registry id name program options).Catalogued where
  sorted := by
    unfold Fleet.create
    rw [services_register]
    exact Named.sorted_insert h.sorted ..
  listed x s hs := by
    rw [service?_create] at hs
    split at hs
    · next hx =>
      cases hs
      exact hx ▸ Service.listed_create id name program options registry
    · exact h.listed x s hs

end Fleet

/-! ## §3. All moves. -/

namespace Attendance

variable {a : Attendance}

theorem catalogued_goOn (h : a.fleet.Catalogued) (hf : a.fleet.Sane) (i : Nat) :
    (a.goOn i).fleet.Catalogued := by
  cases hr : a.removals[i]? with
  | none =>
      unfold goOn
      rw [hr]
      exact h
  | some r =>
      rw [(goOn_eq hr).1]
      exact h.call hf r.id r.call

/-- **Whatever is done or happens**, every service lists what its process has named. -/
theorem catalogued_move (h : a.fleet.Catalogued) (hf : a.fleet.Sane) (mv : Move) :
    (a.move mv).fleet.Catalogued := by
  cases mv with
  | create registry id name program options =>
      unfold move create
      dsimp only
      split
      · exact h.create registry id name program options
      · exact h
  | setVar id key value => exact h.setVar id key value
  | start id => exact h.begin hf id
  | register registry id =>
      unfold move register
      dsimp only
      split
      · exact h
      · exact h.of_services_eq (Fleet.services_register ..)
  | stop id => exact h.stop hf id
  | stopAll registry => exact h.stopEach hf _
  | remove id =>
      unfold move call
      dsimp only
      split <;> exact h
  | removeFrom registry id =>
      unfold move call
      dsimp only
      split
      · split <;> exact h
      · exact h
  | goOn i => exact catalogued_goOn h hf i
  | act host action =>
      cases hstep : a.fleet.step? host action with
      | none =>
          unfold move
          dsimp only
          rw [hstep]
          exact h
      | some f' =>
          unfold move
          dsimp only
          rw [hstep]
          exact h.step hf hstep

theorem catalogued_run (moves : List Move) : (opening.run moves).fleet.Catalogued := by
  have hrun : ∀ (moves : List Move) (a : Attendance), a.Sound → a.fleet.Catalogued →
      (a.run moves).fleet.Catalogued := by
    intro moves
    induction moves with
    | nil => exact fun a _ h => h
    | cons mv rest ih =>
        exact fun a hsound h => ih (a.move mv) (hsound.move mv) (catalogued_move h hsound.sane mv)
  exact hrun moves opening sound_opening Fleet.catalogued_empty

end Attendance

end Failover.Service
