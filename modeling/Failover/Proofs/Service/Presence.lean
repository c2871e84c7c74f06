/-
  Failover.Proofs.Service.Presence
  ────────────────────────────────
  **Who is present in the registries.**  A service comes into its home when
  it is created, and leaves it when it is removed: at the end of its
  process, if it has one, and at once otherwise.

      idle  ──start──▶  starting  ──▶  running  ──▶  exited
      └── remove: out at once          └── remove: stopped, out at the end

  A service that was taken out while it was idle can still be started.
  Such a stray is in no registry, and nobody has asked it to stop.  It is
  the only one: removing comes in several steps, and services are started,
  stopped, registered and left by their processes meanwhile, but whatever
  else is active is present.

  Main statements: `Sound.move` — every move keeps the records right —
  and `present_iff`.
-/
import Failover.Proofs.Service.Onward

namespace Failover.Service

/-! ## §1. Removals. -/

/-- Whether a service is there and idle. -/
def Fleet.isIdle (f : Fleet) (id : String) : Bool :=
  (f.service? id).any fun s => s.lifecycle == .idle

theorem Fleet.isIdle_eq {f : Fleet} {id : String} {s : Service} (hs : f.service? id = some s) :
    f.isIdle id = (s.lifecycle == .idle) := by
  unfold isIdle
  rw [hs]
  rfl

theorem Fleet.isActive_eq {f : Fleet} {id : String} {s : Service} (hs : f.service? id = some s) :
    f.isActive id = s.isActive := by
  unfold isActive
  rw [hs]
  rfl

/-- A call to remove a service. -/
structure Removal where
  id : String
  call : RemoveCall
  /-- Whether the service was idle when the call looked. -/
  early : Bool

namespace Removal

/-- The call of somebody who has just come. -/
def start (id : String) : Removal := ⟨id, .checking, false⟩

/-- The call after its next step. -/
def next (r : Removal) (f : Fleet) : Removal where
  id := r.id
  call := (r.call.step r.id f).1
  early := match r.call with
    | .checking => f.isIdle r.id
    | _ => r.early

/-- Whether the service was removed, or will be. -/
def isGranted (r : Removal) : Bool :=
  match r.call with
  | .finished (.ok ()) => true
  | _ => false

end Removal

/-! ## §2. Attendance. -/

/-- All services, the calls to remove some of them, and what has come of these. -/
structure Attendance where
  fleet : Fleet
  removals : List Removal
  /-- The services whose removal was granted. -/
  removed : List String
  /-- Those of which a call was granted that had found the service idle. -/
  early : List String
  /-- Those that such a call has taken out of their home, and nobody has put back. -/
  strays : List String

namespace Attendance

/-- Something that is done or happens. -/
inductive Move where
  | create (registry id name : String) (program : Program) (options : Options)
  | setVar (id key value : String)
  | start (id : String)
  | register (registry id : String)
  | stop (id : String)
  | stopAll (registry : String)
  /-- Somebody calls for a service to be removed. -/
  | remove (id : String)
  /-- Somebody calls for a service of a registry to be removed. -/
  | removeFrom (registry id : String)
  /-- The call with a number goes on. -/
  | goOn (call : Nat)
  | act (host : Host) (action : Action)

/-- Nobody is there yet. -/
def opening : Attendance := ⟨.empty, [], [], [], []⟩

/-- A service is created under an id that is not in use. -/
def create (a : Attendance) (registry id name : String) (program : Program)
    (options : Options) : Attendance :=
  match a.fleet.service? id with
  | none => { a with fleet := a.fleet.create registry id name program options }
  | some _ => a

/-- A service is put into a registry.  In its home it is a stray no longer. -/
def register (a : Attendance) (registry id : String) : Attendance :=
  match a.fleet.service? id with
  | none => a
  | some s =>
      { a with
        fleet := a.fleet.register registry id
        strays := if s.home = registry then a.strays.filter (· ≠ id) else a.strays }

/-- Somebody calls for a service to be removed. -/
def call (a : Attendance) (id : String) : Attendance :=
  match a.fleet.service? id with
  | none => a
  | some _ => { a with removals := a.removals ++ [.start id] }

/-- A removal was granted. -/
def grant (a : Attendance) (r : Removal) : Attendance :=
  { a with
    removed := r.id :: a.removed
    early := if r.early then r.id :: a.early else a.early
    strays := if r.early then r.id :: a.strays else a.strays }

/-- The call with a number goes on. -/
def goOn (a : Attendance) (i : Nat) : Attendance :=
  match a.removals[i]? with
  | none => a
  | some r =>
      let r' := r.next a.fleet
      let a' := { a with
        fleet := (r.call.step r.id a.fleet).2
        removals := a.removals.set i r' }
      if !r.isGranted && r'.isGranted then a'.grant r' else a'

/-- Something is done or happens; what is not possible does not happen. -/
def move (a : Attendance) : Move → Attendance
  | .create registry id name program options => a.create registry id name program options
  | .setVar id key value => { a with fleet := (a.fleet.setVar id key value).2 }
  | .start id => { a with fleet := (a.fleet.begin id).2 }
  | .register registry id => a.register registry id
  | .stop id => { a with fleet := a.fleet.stop id }
  | .stopAll registry => { a with fleet := a.fleet.stopEach registry }
  | .remove id => a.call id
  | .removeFrom registry id => if a.fleet.isMember registry id then a.call id else a
  | .goOn i => a.goOn i
  | .act host action => { a with fleet := (a.fleet.step? host action).getD a.fleet }

/-- Things happen one after the other. -/
def run (a : Attendance) (moves : List Move) : Attendance := moves.foldl move a

end Attendance

/-! ## §3. Records that are right. -/

/-- **A service has exited or was asked to stop.** -/
def IsCalledOff (s : Service) : Prop := s.lifecycle = .exited ∨ s.stopRequested = true

theorem IsCalledOff.onward {s s' : Service} (h : s.IsCalledOff) (ho : s.Onward s') :
    s'.IsCalledOff := h.imp ho.exited ho.asked

/-- **What a call relies on** when it goes on.  One that found the service idle goes straight on to
take it out, and any other one does so only after the service has exited. -/
def Removal.Relies (r : Removal) (s : Service) : Prop :=
  match r.call with
  | .checking | .finished _ => True
  | .marking | .stopping .checking | .stopping .asking =>
      r.early = false ∧ s.lifecycle ≠ .idle
  | .stopping (.finished _) | .rechecking =>
      r.early = false ∧ s.lifecycle ≠ .idle ∧ s.IsCalledOff
  | .deregistering => r.early = true ∨ s.lifecycle = .exited

theorem Removal.Relies.onward {r : Removal} {s s' : Service} (h : r.Relies s)
    (ho : s.Onward s') : r.Relies s' := by
  obtain ⟨id, call, early⟩ := r
  cases call with
  | checking | finished result => exact trivial
  | marking => exact ⟨h.1, ho.started h.2⟩
  | stopping call =>
      cases call with
      | checking | asking => exact ⟨h.1, ho.started h.2⟩
      | finished asked => exact ⟨h.1, ho.started h.2.1, h.2.2.onward ho⟩
  | rechecking => exact ⟨h.1, ho.started h.2.1, h.2.2.onward ho⟩
  | deregistering => exact h.imp_right ho.exited

namespace Removal

/-- **A call goes on**: the fleet comes on, the call relies on what is so, and if it is granted now
the service was called off. -/
structure Proceeds (r : Removal) (f : Fleet) : Prop where
  onward : f.Onward (r.call.step r.id f).2
  relies : ∀ s, (r.call.step r.id f).2.service? r.id = some s → (r.next f).Relies s
  granted : r.isGranted = false → (r.next f).isGranted = true →
    (r.next f).early = false ∧
      ∀ s, (r.call.step r.id f).2.service? r.id = some s → s.IsCalledOff

variable {f f' : Fleet} {id : String} {call call' : RemoveCall} {early early' : Bool} {s : Service}

/-- What has to be looked at when a step is known. -/
theorem Proceeds.of_step (hstep : call.step id f = (call', f'))
    (hearly : (next ⟨id, call, early⟩ f).early = early') (hf : f.Onward f')
    (hrelies : ∀ s, f'.service? id = some s → Relies ⟨id, call', early'⟩ s)
    (hgranted : isGranted ⟨id, call, early⟩ = false → isGranted ⟨id, call', early'⟩ = true →
      early' = false ∧ ∀ s, f'.service? id = some s → s.IsCalledOff) :
    Proceeds ⟨id, call, early⟩ f := by
  have hnext : next ⟨id, call, early⟩ f = ⟨id, call', early'⟩ := by
    rw [← hearly]
    unfold next
    rw [hstep]
  refine ⟨?_, ?_, ?_⟩ <;> dsimp only <;> rw [hstep]
  · exact hf
  · rw [hnext]
    exact hrelies
  · rw [hnext]
    exact hgranted

/-- A step that only looks at the service leaves it. -/
theorem Proceeds.of_look (hs : f.service? id = some s) (hstep : call.step id f = (call', f))
    (hearly : (next ⟨id, call, early⟩ f).early = early') (hrelies : Relies ⟨id, call', early'⟩ s)
    (hgranted : isGranted ⟨id, call, early⟩ = false → isGranted ⟨id, call', early'⟩ = true →
      early' = false ∧ s.IsCalledOff) : Proceeds ⟨id, call, early⟩ f := by
  have hsame : ∀ t, f.service? id = some t → s = t := fun t ht =>
    Option.some.inj (hs.symm.trans ht)
  refine .of_step hstep hearly (.refl f) (fun t ht => hsame t ht ▸ hrelies) fun hnot hnow => ?_
  obtain ⟨hlate, hoff⟩ := hgranted hnot hnow
  exact ⟨hlate, fun t ht => hsame t ht ▸ hoff⟩

/-- Looking whether there is anything to stop tells an idle service from one that has exited. -/
theorem proceeds_checking (hs : f.service? id = some s) (early : Bool) :
    Proceeds ⟨id, .checking, early⟩ f := by
  have hisIdle := Fleet.isIdle_eq hs
  cases ha : s.isActive with
  | true =>
      obtain ⟨hidle, -⟩ := Service.isActive_iff.1 ha
      refine .of_look hs (if_pos ((Fleet.isActive_eq hs).trans ha)) rfl ⟨?_, hidle⟩ nofun
      exact hisIdle.trans (beq_eq_false_iff_ne.2 hidle)
  | false =>
      have hno := ne_true_of_eq_false ((Fleet.isActive_eq hs).trans ha)
      refine .of_look hs (if_neg hno) rfl ?_ nofun
      by_cases hidle : s.lifecycle = .idle
      · exact .inl (hisIdle.trans (beq_iff_eq.2 hidle))
      · exact .inr (Service.exited_of_not_active ha hidle)

/-- A service that was active is asked to stop, or has exited by then. -/
theorem proceeds_stopping (hs : f.service? id = some s) (hsane : s.Sane) {call : StopCall}
    (h : Relies ⟨id, .stopping call, early⟩ s) : Proceeds ⟨id, .stopping call, early⟩ f := by
  cases call with
  | checking =>
      cases ha : s.isActive with
      | true =>
          have hstep : (RemoveCall.stopping .checking).step id f = (.stopping .asking, f) := by
            unfold RemoveCall.step StopCall.step
            dsimp only
            rw [if_pos ((Fleet.isActive_eq hs).trans ha)]
          exact .of_look hs hstep rfl h nofun
      | false =>
          have hno := ne_true_of_eq_false ((Fleet.isActive_eq hs).trans ha)
          have hstep : (RemoveCall.stopping .checking).step id f = (.rechecking, f) := by
            unfold RemoveCall.step StopCall.step
            dsimp only
            rw [if_neg hno]
          have hexited := Service.exited_of_not_active ha h.2
          exact .of_look hs hstep rfl ⟨h.1, h.2, .inl hexited⟩ nofun
  | asking =>
      have hf : f.Onward (f.modify id Service.requestStop) :=
        Fleet.onward_modify fun _ _ hsane => Service.onward_requestStop hsane
      refine .of_step rfl rfl hf (fun t ht => ?_) nofun
      have ho := hf.onward hs hsane ht
      rw [Fleet.service?_modify_self hs] at ht
      cases ht
      exact ⟨h.1, ho.started h.2, .inr rfl⟩
  | finished asked => exact .of_look hs rfl rfl h nofun

/-- What is active when the call looks again was asked to stop, and what is not has exited. -/
theorem proceeds_rechecking (hs : f.service? id = some s)
    (h : Relies ⟨id, .rechecking, early⟩ s) : Proceeds ⟨id, .rechecking, early⟩ f := by
  obtain ⟨hlate, hidle, hoff⟩ := h
  cases ha : s.isActive with
  | true =>
      refine .of_look hs (if_pos ((Fleet.isActive_eq hs).trans ha)) rfl trivial fun _ _ => ?_
      exact ⟨hlate, hoff⟩
  | false =>
      have hno := ne_true_of_eq_false ((Fleet.isActive_eq hs).trans ha)
      exact .of_look hs (if_neg hno) rfl (.inr (Service.exited_of_not_active ha hidle)) nofun

/-- A service that has exited may be taken out. -/
theorem proceeds_deregistering (hs : f.service? id = some s) (hsane : s.Sane)
    (hlate : early = false) (hexited : s.lifecycle = .exited) :
    Proceeds ⟨id, .deregistering, early⟩ f := by
  have hdone : s.phase.isDone = true := by
    rw [hsane.phase_of_exited hexited]
    rfl
  have hsame : ∀ t, f.service? id = some t → s = t := fun t ht =>
    Option.some.inj (hs.symm.trans ht)
  have hf : f.Onward (f.deregister id).2 :=
    Fleet.onward_deregister fun t ht => hsame t ht ▸ hdone
  refine .of_step rfl rfl hf (fun _ _ => trivial) fun _ _ => ⟨hlate, fun t ht => .inl ?_⟩
  exact hsame t ((Fleet.service?_deregister f id).symm.trans ht) ▸ hexited

/-- **A call goes on**, unless it is about to take out what it found idle. -/
theorem proceeds (hs : f.service? id = some s) (hsane : s.Sane)
    (h : Relies ⟨id, call, early⟩ s) (hlate : call = .deregistering → early = false) :
    Proceeds ⟨id, call, early⟩ f := by
  cases call with
  | checking => exact proceeds_checking hs early
  | marking =>
      have hf : f.Onward (f.modify id Service.requestRemoval) :=
        Fleet.onward_modify fun _ _ hsane => Service.onward_requestRemoval hsane
      refine .of_step rfl rfl hf (fun t ht => ?_) nofun
      exact ⟨h.1, (hf.onward hs hsane ht).started h.2⟩
  | stopping call => exact proceeds_stopping hs hsane h
  | rechecking => exact proceeds_rechecking hs h
  | deregistering =>
      have hexited : s.lifecycle = .exited :=
        h.resolve_left (ne_true_of_eq_false (hlate rfl))
      exact proceeds_deregistering hs hsane (hlate rfl) hexited
  | finished result =>
      refine .of_look hs rfl rfl trivial fun hnot hnow => ?_
      exact absurd hnow (ne_true_of_eq_false hnot)

end Removal

namespace Attendance

variable {a : Attendance} {id : String} {s : Service}

/-- **What the records say of one service.** -/
structure Accounted (a : Attendance) (id : String) (s : Service) : Prop where
  sane : s.Sane
  present : s.phase.isDone = false → (a.fleet.isMember s.home id = true ↔ id ∉ a.strays)
  removed : id ∈ a.removed → id ∈ a.early ∨ s.IsCalledOff
  relies : ∀ r ∈ a.removals, r.id = id → r.Relies s

/-- **The records are right.** -/
structure Sound (a : Attendance) : Prop where
  service : ∀ id s, a.fleet.service? id = some s → a.Accounted id s
  /-- Only what there is was removed, or is to be. -/
  known : ∀ id, id ∈ a.removed ∨ (∃ r ∈ a.removals, r.id = id) → a.fleet.service? id ≠ none
  early : ∀ id ∈ a.early, id ∈ a.removed
  strays : ∀ id ∈ a.strays, id ∈ a.early

theorem sound_opening : opening.Sound where
  service _ _ h := nomatch h
  known _ h := h.elim nofun fun ⟨_, h, _⟩ => nomatch h
  early _ h := nomatch h
  strays _ h := nomatch h

theorem Sound.sane (h : a.Sound) : a.fleet.Sane := fun id s hs => (h.service id s hs).sane

/-- Who is not there was not removed. -/
theorem Sound.not_removed (h : a.Sound) (hid : a.fleet.service? id = none) : id ∉ a.removed :=
  fun hmem => h.known id (.inl hmem) hid

/-- **What brings the fleet on** keeps the records right. -/
theorem Sound.onward (h : a.Sound) {f' : Fleet} (hf : a.fleet.Onward f') :
    { a with fleet := f' }.Sound where
  service id s' hs' := by
    obtain ⟨s, hs, -, ho⟩ := hf.before h.sane hs'
    have hacc := h.service id s hs
    refine ⟨ho.sane, fun hdone => ?_, fun hmem => ?_, fun r hr hid => ?_⟩
    · have hdone' : s.phase.isDone = false :=
        Bool.eq_false_iff.2 fun hd => Bool.eq_false_iff.1 hdone (ho.done hd)
      have hsame : f'.isMember s'.home id = a.fleet.isMember s.home id := by
        rw [ho.home]
        exact hf.member s.home id s' hs' hdone
      rw [hsame]
      exact hacc.present hdone'
    · exact (hacc.removed hmem).imp_right fun hoff => hoff.onward ho
    · exact (hacc.relies r hr hid).onward ho
  known id hid hnone := by
    obtain ⟨s, hs⟩ := Option.ne_none_iff_exists'.1 (h.known id hid)
    obtain ⟨s', hs', -⟩ := hf.service id s hs (h.sane id s hs)
    cases hnone.symm.trans hs'
  early := h.early
  strays := h.strays

/-- A new service is present. -/
theorem Sound.create (h : a.Sound) (registry id name : String) (program : Program)
    (options : Options) : (a.create registry id name program options).Sound := by
  unfold Attendance.create
  split
  · next hnone =>
    have hremoved := h.not_removed hnone
    refine ⟨fun x s hs => ?_, fun x hx => ?_, h.early, h.strays⟩
    · dsimp only at hs
      rw [Fleet.service?_create] at hs
      by_cases hx : x = id
      · subst hx
        rw [if_pos rfl] at hs
        cases hs
        refine ⟨Service.sane_create x name program options registry, fun _ => ?_, fun hmem => ?_,
          fun r hr hid => ?_⟩
        · exact iff_of_true ((Fleet.isMember_create ..).2 (.inr ⟨rfl, rfl⟩))
            fun hmem => hremoved (h.early x (h.strays x hmem))
        · exact absurd hmem hremoved
        · exact absurd hnone (h.known x (.inr ⟨r, hr, hid⟩))
      · rw [if_neg hx] at hs
        have hacc := h.service x s hs
        refine ⟨hacc.sane, fun hdone => ?_, hacc.removed, hacc.relies⟩
        have hsame := (Fleet.isMember_create a.fleet registry id name program options s.home x).trans
          (or_iff_left fun hnew => hx hnew.2)
        exact hsame.trans (hacc.present hdone)
    · dsimp only
      rw [Fleet.service?_create]
      split
      · exact nofun
      · exact h.known x hx
  · exact h

/-- Who is put into its home is present. -/
theorem Sound.register (h : a.Sound) (registry id : String) : (a.register registry id).Sound := by
  unfold Attendance.register
  split
  · exact h
  · next s hs =>
    refine ⟨fun x t ht => ?_, fun x hx => ?_, h.early, fun x hx => ?_⟩
    · dsimp only at ht
      rw [Fleet.service?_register] at ht
      have hacc := h.service x t ht
      refine ⟨hacc.sane, fun hdone => ?_, hacc.removed, hacc.relies⟩
      dsimp only
      rw [Fleet.isMember_register, hacc.present hdone]
      by_cases hx : x = id
      · subst hx
        obtain rfl : s = t := Option.some.inj (hs.symm.trans ht)
        split
        · next hhome => simp [hhome]
        · next hhome => simp [hhome]
      · rw [or_iff_left fun hnew => hx hnew.2]
        split
        · simp [hx]
        · exact .rfl
    · dsimp only
      rw [Fleet.service?_register]
      exact h.known x hx
    · refine h.strays x ?_
      dsimp only at hx
      split at hx
      · exact (List.mem_filter.1 hx).1
      · exact hx

/-- A call that has just come relies on nothing. -/
theorem Sound.call (h : a.Sound) (id : String) : (a.call id).Sound := by
  unfold Attendance.call
  split
  · exact h
  · next s hs =>
    refine ⟨fun x t ht => ?_, fun x hx => ?_, h.early, h.strays⟩
    · have hacc := h.service x t ht
      refine ⟨hacc.sane, hacc.present, hacc.removed, fun r hr hid => ?_⟩
      rcases List.mem_append.1 hr with hr | hr
      · exact hacc.relies r hr hid
      · obtain rfl := List.mem_singleton.1 hr
        exact trivial
    · rcases hx with hx | ⟨r, hr, hid⟩
      · exact h.known x (.inl hx)
      · rcases List.mem_append.1 hr with hr | hr
        · exact h.known x (.inr ⟨r, hr, hid⟩)
        · obtain rfl := List.mem_singleton.1 hr
          obtain rfl : id = x := hid
          exact fun hnone => nomatch hs.symm.trans hnone

/-- A call that has gone on relies on what is so. -/
theorem Sound.replace (h : a.Sound) {i : Nat} {r : Removal} (hr : a.removals[i]? = some r)
    (r' : Removal) (hid : r'.id = r.id)
    (hrelies : ∀ s, a.fleet.service? r.id = some s → r'.Relies s) :
    { a with removals := a.removals.set i r' }.Sound := by
  refine ⟨fun x t ht => ?_, fun x hx => ?_, h.early, h.strays⟩
  · have hacc := h.service x t ht
    refine ⟨hacc.sane, hacc.present, hacc.removed, fun q hq hqid => ?_⟩
    rcases List.mem_or_eq_of_mem_set hq with hq | rfl
    · exact hacc.relies q hq hqid
    · subst hqid
      exact hrelies t (hid ▸ ht)
  · rcases hx with hx | ⟨q, hq, hqid⟩
    · exact h.known x (.inl hx)
    · rcases List.mem_or_eq_of_mem_set hq with hq | rfl
      · exact h.known x (.inr ⟨q, hq, hqid⟩)
      · exact h.known x (.inr ⟨r, List.mem_of_getElem? hr, hid.symm.trans hqid⟩)

/-- A call that found the service active is granted when it was called off. -/
theorem Sound.grant_late (h : a.Sound) {r : Removal} (hlate : r.early = false)
    (hs : a.fleet.service? r.id = some s) (hoff : s.IsCalledOff) : (a.grant r).Sound := by
  unfold grant
  rw [hlate]
  refine ⟨fun x t ht => ?_, fun x hx => ?_, fun x hx => ?_, h.strays⟩
  · have hacc := h.service x t ht
    refine ⟨hacc.sane, hacc.present, fun hmem => ?_, hacc.relies⟩
    rcases List.mem_cons.1 hmem with rfl | hmem
    · obtain rfl : s = t := Option.some.inj (hs.symm.trans ht)
      exact .inr hoff
    · exact hacc.removed hmem
  · rcases hx with hx | hx
    · rcases List.mem_cons.1 hx with rfl | hx
      · exact fun hnone => nomatch hs.symm.trans hnone
      · exact h.known x (.inl hx)
    · exact h.known x (.inr hx)
  · exact List.mem_cons_of_mem _ (h.early x hx)

/-- A call that found the service idle is granted by taking it out, which makes it a stray. -/
theorem Sound.grant_early (h : a.Sound) {r : Removal} (hearly : r.early = true)
    (hs : a.fleet.service? r.id = some s) :
    ({ a with fleet := a.fleet.withdraw s.home r.id }.grant r).Sound := by
  unfold grant
  rw [hearly]
  refine ⟨fun x t ht => ?_, fun x hx => ?_, fun x hx => ?_, fun x hx => ?_⟩
  · have hacc := h.service x t ht
    refine ⟨hacc.sane, fun hdone => ?_, fun hmem => ?_, hacc.relies⟩
    · have hpresent := hacc.present hdone
      unfold Fleet.isMember at hpresent ⊢
      rw [List.contains_iff_mem] at hpresent ⊢
      dsimp only
      rw [Fleet.mem_members_withdraw, hpresent, if_pos rfl, List.mem_cons, not_or]
      by_cases hx : x = r.id
      · subst hx
        obtain rfl : s = t := Option.some.inj (hs.symm.trans ht)
        simp
      · simp [hx]
    · rcases List.mem_cons.1 hmem with rfl | hmem
      · exact .inl List.mem_cons_self
      · exact (hacc.removed hmem).imp_left (List.mem_cons_of_mem _)
  · rcases hx with hx | hx
    · rcases List.mem_cons.1 hx with rfl | hx
      · exact fun hnone => nomatch hs.symm.trans hnone
      · exact h.known x (.inl hx)
    · exact h.known x (.inr hx)
  · rcases List.mem_cons.1 hx with rfl | hx
    · exact List.mem_cons_self
    · exact List.mem_cons_of_mem _ (h.early x hx)
  · rcases List.mem_cons.1 hx with rfl | hx
    · exact List.mem_cons_self
    · exact List.mem_cons_of_mem _ (h.strays x hx)

/-- A call takes out what it found idle, if it is still there. -/
theorem Sound.goOn_early (h : a.Sound) {i : Nat}
    (hr : a.removals[i]? = some ⟨id, .deregistering, true⟩) (hs : a.fleet.service? id = some s) :
    (a.goOn i).Sound := by
  have hreplace : ∀ result,
      { a with removals := a.removals.set i ⟨id, .finished result, true⟩ }.Sound :=
    fun _ => h.replace hr _ rfl fun _ _ => trivial
  unfold Attendance.goOn Removal.next
  rw [hr]
  dsimp only
  by_cases hin : a.fleet.isMember s.home id = true
  · have hstep : RemoveCall.deregistering.step id a.fleet =
        (.finished (.ok ()), a.fleet.withdraw s.home id) := by
      unfold RemoveCall.step Fleet.deregister
      dsimp only
      rw [hs]
      dsimp only
      rw [if_pos hin]
    rw [hstep]
    exact (hreplace (.ok ())).grant_early (r := ⟨id, .finished (.ok ()), true⟩) rfl hs
  · have hstep : RemoveCall.deregistering.step id a.fleet =
        (.finished (.error (.unregistered id)), a.fleet) := by
      unfold RemoveCall.step Fleet.deregister
      dsimp only
      rw [hs]
      dsimp only
      rw [if_neg hin]
    rw [hstep]
    exact hreplace _

/-- **A call goes on**, and the records stay right. -/
theorem Sound.goOn (h : a.Sound) (i : Nat) : (a.goOn i).Sound := by
  cases hr : a.removals[i]? with
  | none =>
      unfold Attendance.goOn
      rw [hr]
      exact h
  | some r =>
      obtain ⟨id, call, early⟩ := r
      have hmem := List.mem_of_getElem? hr
      obtain ⟨s, hs⟩ := Option.ne_none_iff_exists'.1 (h.known id (.inr ⟨_, hmem, rfl⟩))
      have hacc := h.service id s hs
      by_cases hearly : call = .deregistering ∧ early = true
      · obtain ⟨rfl, rfl⟩ := hearly
        exact h.goOn_early hr hs
      · have hgo : Removal.Proceeds ⟨id, call, early⟩ a.fleet := by
          refine Removal.proceeds hs hacc.sane (hacc.relies _ hmem rfl) fun hcall => ?_
          exact Bool.eq_false_iff.2 fun he => hearly ⟨hcall, he⟩
        have hnext := (h.onward hgo.onward).replace hr (.next ⟨id, call, early⟩ a.fleet) rfl hgo.relies
        unfold Attendance.goOn
        rw [hr]
        dsimp only
        split
        · next hg =>
          obtain ⟨hnot, hnow⟩ := Bool.and_eq_true_iff.1 hg
          obtain ⟨hlate, hoff⟩ := hgo.granted (by simpa using hnot) hnow
          obtain ⟨s', hs', -⟩ := hgo.onward.service id s hs hacc.sane
          exact hnext.grant_late hlate hs' (hoff s' hs')
        · exact hnext

/-- **Whatever is done or happens**, the records stay right. -/
theorem Sound.move (h : a.Sound) (mv : Move) : (a.move mv).Sound := by
  cases mv with
  | create registry id name program options => exact h.create registry id name program options
  | setVar id key value => exact h.onward (Fleet.onward_setVar a.fleet id key value)
  | start id => exact h.onward (Fleet.onward_begin a.fleet id)
  | register registry id => exact h.register registry id
  | stop id => exact h.onward (Fleet.onward_stop a.fleet id)
  | stopAll registry => exact h.onward (Fleet.onward_stopEach h.sane _)
  | remove id => exact h.call id
  | removeFrom registry id =>
      unfold Attendance.move
      dsimp only
      split
      · exact h.call id
      · exact h
  | goOn i => exact h.goOn i
  | act host action =>
      refine h.onward ?_
      cases hstep : a.fleet.step? host action with
      | none => exact .refl a.fleet
      | some f' => exact Fleet.onward_step hstep

/-- They are right at any time. -/
theorem Sound.run (h : a.Sound) (moves : List Move) : (a.run moves).Sound := by
  induction moves generalizing a with
  | nil => exact h
  | cons mv rest ih => exact ih (h.move mv)

/-! ## §4. Removing without interruption. -/

/-- A call that goes on takes one step. -/
theorem goOn_eq {i : Nat} {r : Removal} (hr : a.removals[i]? = some r) :
    (a.goOn i).fleet = (r.call.step r.id a.fleet).2 ∧
      (a.goOn i).removals[i]? = some (r.next a.fleet) := by
  have hlt : i < a.removals.length := (List.getElem?_eq_some_iff.1 hr).1
  unfold goOn
  rw [hr]
  dsimp only
  split <;> exact ⟨rfl, List.getElem?_set_self hlt⟩

/-- Going on again and again, it takes its steps. -/
theorem run_goOn {i : Nat} {r : Removal} (hr : a.removals[i]? = some r) (n : Nat) :
    (a.run (List.replicate n (.goOn i))).fleet = (r.call.steps r.id n a.fleet).2 := by
  induction n generalizing a r with
  | zero => rfl
  | succ n ih =>
      obtain ⟨hfleet, hnext⟩ := goOn_eq hr
      have hrest := ih hnext
      rw [hfleet] at hrest
      exact hrest

/-- Without interruption, a call for a service to be removed does what removing it does. -/
theorem run_remove (hs : a.fleet.service? id = some s) :
    (a.run (.remove id ::
        List.replicate RemoveCall.mostSteps (.goOn a.removals.length))).fleet =
      (a.fleet.remove id).2 := by
  have hcall : a.move (.remove id) = { a with removals := a.removals ++ [.start id] } := by
    unfold move call
    dsimp only
    rw [hs]
  show ((a.move (.remove id)).run _).fleet = _
  rw [hcall]
  exact run_goOn (a := { a with removals := a.removals ++ [.start id] }) (r := .start id)
    List.getElem?_concat_length RemoveCall.mostSteps

end Attendance

/-! ## §5. Presence. -/

theorem Phase.isBereft_of_isDone {p : Phase} (h : p.isDone = true) : p.isBereft = true := by
  cases p <;> first | rfl | cases h

/-- **Who is active is present, strays apart.**  Whatever has been done so far: a service that is
starting or running is in its home unless a removal that found it idle has taken it out and nobody
has put it back since, and then stopping all services of its home reaches it; its owner takes it
out only when the process is gone.  If a removal of it was granted and it was not asked to stop,
then a removal was granted that had found it idle. -/
theorem present_iff (moves : List Attendance.Move) :
    let a := Attendance.opening.run moves
    (∀ id s, a.fleet.service? id = some s → s.isActive = true →
      (s.phase.isDone = false → (a.fleet.isMember s.home id = true ↔ id ∉ a.strays)) ∧
      (s.phase.isDone = true → s.childGone = true) ∧
      ((a.fleet.stopEach s.home).service? id =
        some (if a.fleet.isMember s.home id then s.requestStop else s)) ∧
      (s.stopRequested = false → (id ∈ a.removed ↔ id ∈ a.early))) ∧
    (∀ id ∈ a.strays, id ∈ a.early) ∧ ∀ id ∈ a.early, id ∈ a.removed := by
  have h := Attendance.sound_opening.run moves
  refine ⟨fun id s hs ha => ?_, h.strays, h.early⟩
  have hacc := h.service id s hs
  refine ⟨hacc.present, fun hdone => ?_, ?_, fun hunasked => ⟨fun hmem => ?_, h.early id⟩⟩
  · exact hacc.sane.bereft (Phase.isBereft_of_isDone hdone)
  · unfold Fleet.stopEach Fleet.isMember
    rw [Fleet.service?_stopEach, hs, List.contains_eq_mem]
    simp only [decide_eq_true_eq, Option.map_some, Service.stopped, if_pos ha]
    split <;> rfl
  · rcases hacc.removed hmem with hearly | hexited | hasked
    · exact hearly
    · exact absurd hexited (Service.isActive_iff.1 ha).2
    · rw [hunasked] at hasked
      cases hasked

/-- A service that is removed, then put back into its home, then started: it is present and reached,
although its removal was granted and it was not asked to stop. -/
theorem present_iff_returned :
    let a := Attendance.opening.run [.create "home" "a" "transport" .self .standard,
      .remove "a", .goOn 0, .goOn 0, .register "home" "a", .start "a"]
    a.fleet.isMember "home" "a" = true ∧ "a" ∈ a.removed ∧ "a" ∈ a.early := by
  let s : Service := { Service.create "a" "transport" .self .standard "home" with
    lifecycle := .starting, phase := .launching }
  obtain ⟨hservice, -, -⟩ := present_iff [.create "home" "a" "transport" .self .standard,
      .remove "a", .goOn 0, .goOn 0, .register "home" "a", .start "a"]
  obtain ⟨hpresent, -, -, hremoved⟩ := hservice "a" s rfl rfl
  have hmem : "a" ∈ (Attendance.opening.run [.create "home" "a" "transport" .self .standard,
      .remove "a", .goOn 0, .goOn 0, .register "home" "a", .start "a"]).removed := by
    decide +kernel
  exact ⟨(hpresent rfl).2 (by decide +kernel), hmem, (hremoved rfl).1 hmem⟩

/-- **Not everything active is present**: a service that is removed before it is started is active
in no registry, and nobody has asked it to stop. -/
theorem not_present_while_active :
    let a := Attendance.opening.run [.create "home" "a" "transport" .self .standard,
      .remove "a", .goOn 0, .goOn 0, .start "a"]
    (¬∀ id s, a.fleet.service? id = some s → s.isActive = true →
        a.fleet.isMember s.home id = true) ∧
      ¬∀ id s, a.fleet.service? id = some s → s.isActive = true → id ∈ a.removed →
        s.stopRequested = true := by
  refine ⟨fun h => ?_, fun h => ?_⟩
  · exact absurd (h "a" _ rfl rfl) (by decide +kernel)
  · exact absurd (h "a" _ rfl rfl (by decide +kernel)) (by decide +kernel)

end Failover.Service
