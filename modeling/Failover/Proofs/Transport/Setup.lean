/-
  Failover.Proofs.Transport.Setup
  ───────────────────────────────
  **Setting up a carrier.** A new service is idle, so whatever is set of
  its request is accepted, as long as the keys can be keys — and those of a
  carrier all can:

      service, transport, remoteaddr, secret, bindaddr, verbose

  So setting up fails only where the transport names no program, and what
  comes of it is a new service with these variables and no others.

  Main statements: `build_eq` and `build_isOk_iff`.
-/
import Failover.Manager.Attempt
import Failover.Proofs.Service.Progress

namespace Failover.Service

variable {f : Fleet} {id : String} {s : Service}

/-! ## §1. Requests. -/

/-- Variables with others set one after the other. -/
def setEach (request : Variables) (vars : List (String × String)) : Variables :=
  vars.foldl (fun r p => r.insert p.1 p.2) request

/-- What is not set stays. -/
theorem get?_setEach_of_not_mem {vars : List (String × String)} (request : Variables)
    {key : String} (h : key ∉ vars.map (·.1)) :
    (setEach request vars).get? key = request.get? key := by
  induction vars generalizing request with
  | nil => rfl
  | cons p rest ih =>
      rw [List.map_cons, List.mem_cons, not_or] at h
      have hstep := ih (request.insert p.1 p.2) h.2
      rwa [Named.get?_insert, if_neg h.1] at hstep

/-- A variable that is set once has the value that it was set to. -/
theorem get?_setEach_of_mem {vars : List (String × String)} (request : Variables)
    (hvars : (vars.map (·.1)).Nodup) {key value : String} (h : (key, value) ∈ vars) :
    (setEach request vars).get? key = some value := by
  induction vars generalizing request with
  | nil => cases h
  | cons p rest ih =>
      rw [List.map_cons, List.nodup_cons] at hvars
      rcases List.mem_cons.1 h with rfl | hmem
      · have hstep := get?_setEach_of_not_mem (request.insert key value) hvars.1
        rwa [Named.get?_insert, if_pos rfl] at hstep
      · exact ih (request.insert p.1 p.2) hvars.2 hmem

/-- Each of its pairs is one that was set. -/
theorem mem_of_mem_setEach {vars : List (String × String)} {p : String × String}
    {request : Variables} (h : p ∈ (setEach request vars).pairs) :
    p ∈ request.pairs ∨ p ∈ vars := by
  induction vars generalizing request with
  | nil => exact .inl h
  | cons q rest ih =>
      rcases ih h with hmem | hmem
      · rcases Named.mem_pairs_insert hmem with rfl | hmem
        · exact .inr List.mem_cons_self
        · exact .inl hmem
      · exact .inr (List.mem_cons_of_mem q hmem)

/-- The service with its request changed. -/
def withRequest (s : Service) (request : Variables) : Service := { s with request }

namespace Fleet

/-- An idle service takes a variable. -/
theorem setVar_of_idle (hs : f.service? id = some s) (hi : s.lifecycle = .idle) {key : String}
    (hk : Environment.keyIsValid key = true) (value : String) :
    ∃ f', f.setVar id key value = (.ok (), f') ∧
      f'.service? id = some (s.withRequest (s.request.insert key value)) := by
  refine ⟨f.modify id fun _ => s.withRequest (s.request.insert key value), ?_,
    service?_modify_self hs _⟩
  unfold setVar Service.setVar
  rw [hs]
  dsimp only
  rw [if_neg (not_not_intro hi), hk, Bool.not_true, if_neg Bool.false_ne_true]
  rfl

/-- It takes them one after the other. -/
theorem setAll_of_idle (hs : f.service? id = some s) (hi : s.lifecycle = .idle)
    {vars : List (String × String)} (hvars : ∀ p ∈ vars, Environment.keyIsValid p.1 = true) :
    ∃ f', Carrier.setAll id vars f = (.ok (), f') ∧
      f'.service? id = some (s.withRequest (setEach s.request vars)) := by
  induction vars generalizing f s with
  | nil => exact ⟨f, rfl, hs⟩
  | cons p rest ih =>
      obtain ⟨hp, hrest⟩ := List.forall_mem_cons.1 hvars
      obtain ⟨f₁, hset, hs₁⟩ := setVar_of_idle hs hi hp p.2
      obtain ⟨f₂, hall, hs₂⟩ := ih hs₁ hi hrest
      refine ⟨f₂, ?_, hs₂⟩
      unfold Carrier.setAll
      rw [hset]
      exact hall

/-- So does one that is set up for a carrier. -/
theorem setIdle_of_idle {k : Carrier} (hs : f.service? k.service = some s)
    (hi : s.lifecycle = .idle) (action : IdleAction) {key : String}
    (hk : Environment.keyIsValid key = true) (value : String) :
    ∃ f', k.setIdle f action key value = (.ok (), f') ∧
      f'.service? k.service = some (s.withRequest (s.request.insert key value)) := by
  unfold Carrier.setIdle
  rw [hs, Option.any_some, hi, beq_self_eq_true, if_pos rfl]
  exact setVar_of_idle hs hi hk value

end Fleet

end Failover.Service

namespace Failover

open Service

/-! ## §2. Carriers. -/

/-- All that a carrier asks for, as the settings tell. -/
def Carrier.requested (settings : Manager.Settings) (c : Connection) : List (String × String) :=
  requestFor c ++ ("bindaddr", settings.proxyBindAddr) ::
    if settings.verbose then [("verbose", "yes")] else []

/-- All of its keys can be keys. -/
theorem Carrier.keyIsValid_requested (settings : Manager.Settings) (c : Connection) :
    ∀ p ∈ requested settings c, Environment.keyIsValid p.1 = true := by
  unfold requested requestFor
  simp only [List.forall_mem_append, List.forall_mem_cons]
  refine ⟨by decide, by decide, ?_⟩
  cases settings.verbose with
  | true =>
      simp only [if_true, List.forall_mem_cons]
      decide
  | false => exact nofun

/-- The service of a carrier that is set up. -/
def Carrier.outset (settings : Manager.Settings) (registry id : String) (c : Connection)
    (t : Transport) (program : Program) : Service :=
  (Service.create id serviceName program (launchOptions t settings.service) registry).withRequest
    (setEach .empty (requested settings c))

namespace Manager

variable {m : Manager} {c : Connection} {t : Transport}

/-- A carrier for a transport that names a program can be created. -/
theorem create_eq (f : Fleet) (registry id : String) (c : Connection) {program : Program}
    (ht : t.program = .ok program) (options : Service.Options) :
    ∃ f', Carrier.create f registry id c t options = (.ok ⟨id, c⟩, f') ∧
      f'.service? id = some ((Service.create id Carrier.serviceName program
        (Carrier.launchOptions t options) registry).withRequest
          (setEach .empty (Carrier.requestFor c))) := by
  let s := Service.create id Carrier.serviceName program (Carrier.launchOptions t options) registry
  have hs : (f.create registry id Carrier.serviceName program
      (Carrier.launchOptions t options)).service? id = some s := by
    unfold Fleet.create Fleet.register
    split <;> exact (Named.get?_insert ..).trans (if_pos rfl)
  have hkeys : ∀ p ∈ Carrier.requestFor c, Environment.keyIsValid p.1 = true := by
    unfold Carrier.requestFor
    simp only [List.forall_mem_cons]
    decide
  obtain ⟨f', hall, hs'⟩ := Fleet.setAll_of_idle hs rfl hkeys
  refine ⟨f', ?_, hs'⟩
  unfold Carrier.create
  rw [ht]
  dsimp only
  rw [hall]

/-- **Setting up a carrier** for a transport that names a program works, and this is the service
that comes of it. -/
theorem build_eq (m : Manager) (c : Connection) {program : Program}
    (ht : t.program = .ok program) :
    ∃ f', build m c t = (.ok ⟨m.freshId, c⟩, { m with fleet := f' }) ∧
      f'.service? m.freshId =
        some (Carrier.outset m.loop.settings m.registry m.freshId c t program) := by
  let k : Carrier := ⟨m.freshId, c⟩
  obtain ⟨f₁, hcreate, hs₁⟩ :=
    create_eq m.fleet m.registry m.freshId c ht m.loop.settings.service
  have hbindKey : Environment.keyIsValid "bindaddr" = true := by decide
  obtain ⟨f₂, hbind, hs₂⟩ := Fleet.setIdle_of_idle (k := k) hs₁ rfl .setBindAddress hbindKey
    m.loop.settings.proxyBindAddr
  have hverboseKey : Environment.keyIsValid "verbose" = true := by decide
  obtain ⟨f₃, hverbose, hs₃⟩ := Fleet.setIdle_of_idle (k := k) hs₂ rfl .setVerbose hverboseKey "yes"
  unfold build Carrier.outset Carrier.requested
  dsimp only
  rw [hcreate]
  dsimp only
  rw [show Carrier.setBindAddr k f₁ m.loop.settings.proxyBindAddr = (.ok (), f₂) from hbind]
  dsimp only
  cases m.loop.settings.verbose with
  | true =>
      refine ⟨f₃, ?_, ?_⟩
      · rw [if_pos rfl, show Carrier.setVerbose k f₂ = (.ok (), f₃) from hverbose]
      · exact hs₃
  | false => exact ⟨f₂, rfl, hs₂⟩

/-- It fails only where the transport names no program. -/
theorem build_isOk_iff (m : Manager) (c : Connection) (t : Transport) :
    (build m c t).1.isOk = true ↔ t.program.isOk = true := by
  cases ht : t.program with
  | ok program =>
      obtain ⟨f', hb, -⟩ := build_eq m c ht
      rw [hb]
      exact .rfl
  | error cause =>
      unfold build Carrier.create
      rw [ht]
      exact .rfl

end Manager

end Failover
