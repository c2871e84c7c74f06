/-
  Failover.Service.Fleet
  ──────────────────────
  **All services and the registries that hold them.** A service is created
  in one registry, its home, and may be registered in others as well.
  Removing it takes it out of its home.  What a registry tells of its
  services goes by their ids.

  Time is part of the fleet, in milliseconds.  Main statements:
  `mem_members_register` and `mem_members_deregister` say what registering
  and removing do to the members of a registry.
-/
import Failover.Service.Owner

namespace Failover.Service

/-- Services, registries and the time. -/
structure Fleet where
  clock : Nat
  services : Named Service
  /-- The ids that the registries hold. -/
  registries : Named (List String)

namespace Fleet

/-- No services. -/
def empty : Fleet := ⟨0, .empty, .empty⟩

instance : Inhabited Fleet := ⟨empty⟩

/-! ## §1. Services. -/

/-- The service with an id. -/
def service? (f : Fleet) (id : String) : Option Service := f.services.get? id

/-- Put a service in place. -/
def put (f : Fleet) (s : Service) : Fleet := { f with services := f.services.insert s.id s }

/-- Change the service with an id, if there is one. -/
def modify (f : Fleet) (id : String) (g : Service → Service) : Fleet :=
  match f.service? id with
  | some s => { f with services := f.services.insert id (g s) }
  | none => f

/-- The id with a number. -/
def numbered (number : Nat) : String := "svc-" ++ toString number

/-- An id that no service has.  Its number is the first one that is free, from how many services
there are. -/
def freshId (f : Fleet) : String :=
  let n := f.services.size
  numbered (((List.range' n (n + 1)).find? fun i => (f.service? (numbered i)).isNone).getD n)

/-- Whether the service with an id is active. -/
def isActive (f : Fleet) (id : String) : Bool := (f.service? id).any Service.isActive

/-! ## §2. Registries. -/

/-- The ids that a registry holds, in the order in which they came. -/
def members (f : Fleet) (registry : String) : List String := (f.registries.get? registry).getD []

/-- Whether a registry holds an id. -/
def isMember (f : Fleet) (registry id : String) : Bool := (f.members registry).contains id

/-- Put an id into a registry, unless it is there. -/
def register (f : Fleet) (registry id : String) : Fleet :=
  if f.isMember registry id then f
  else { f with registries := f.registries.insert registry (f.members registry ++ [id]) }

/-- Take an id out of a registry. -/
def withdraw (f : Fleet) (registry id : String) : Fleet :=
  { f with
    registries := f.registries.insert registry ((f.members registry).filter (· != id)) }

/-- Create a service in a registry. -/
def create (f : Fleet) (registry id name : String) (program : Program) (options : Options) :
    Fleet :=
  (f.put (.create id name program options registry)).register registry id

/-- Take a service out of its home. -/
def deregister (f : Fleet) (id : String) : Except Fault Unit × Fleet :=
  match f.service? id with
  | none => (.error (.unregistered id), f)
  | some s =>
      if f.isMember s.home id then (.ok (), f.withdraw s.home id)
      else (.error (.unregistered id), f)

/-! ## §3. What a registry tells. -/

/-- The services that a registry holds, by their ids. -/
def registered (f : Fleet) (registry : String) : List Service :=
  f.services.values.filter fun s => f.isMember registry s.id

/-- What is known of all of them. -/
def allServices (f : Fleet) (registry : String) : List Info :=
  (f.registered registry).map Service.info

/-- What is known of one of them. -/
def info? (f : Fleet) (registry id : String) : Option Info :=
  if f.isMember registry id then (f.service? id).map Service.info else none

/-- The methods of all of them. -/
def allMethods (f : Fleet) (registry : String) : List Method :=
  (f.allServices registry).flatMap (·.methods)

/-- The first method with an id. -/
def method? (f : Fleet) (registry id : String) : Option Method :=
  (f.allMethods registry).find? (·.id == id)

/-! ## §4. Members. -/

theorem mem_members_register (f : Fleet) (registry id r x : String) :
    x ∈ (f.register registry id).members r ↔ x ∈ f.members r ∨ r = registry ∧ x = id := by
  unfold register
  split
  · next h =>
    refine ⟨.inl, fun h' => h'.elim (fun hx => hx) fun ⟨hr, hx⟩ => ?_⟩
    subst hr hx
    simpa [isMember] using h
  · simp only [members, Named.get?_insert]
    by_cases hr : r = registry
    · subst hr
      simp
    · simp [hr]

theorem mem_members_withdraw (f : Fleet) (registry id r x : String) :
    x ∈ (f.withdraw registry id).members r ↔ x ∈ f.members r ∧ ¬(r = registry ∧ x = id) := by
  simp only [withdraw, members, Named.get?_insert]
  by_cases hr : r = registry
  · subst hr
    simp
  · simp [hr]

/-- A service that was deregistered is in its home no longer; everything else stays. -/
theorem mem_members_deregister {f f' : Fleet} {id : String} (h : f.deregister id = (.ok (), f'))
    (r x : String) :
    x ∈ f'.members r ↔
      x ∈ f.members r ∧ ¬(some r = (f.service? id).map (·.home) ∧ x = id) := by
  unfold deregister at h
  split at h
  · cases h
  · next s hs =>
    split at h
    · cases h
      rw [mem_members_withdraw, hs]
      simp
    · cases h

end Fleet

end Failover.Service
