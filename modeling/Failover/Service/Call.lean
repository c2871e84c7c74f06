/-
  Failover.Service.Call
  ─────────────────────
  **Asking for services to be stopped and removed.** Such a call looks at
  the service and changes it in several steps, between which others may
  come: the task that owns the process, and other calls.  A call here is
  where it stands, and its steps are taken one by one; `stop` and `remove`
  take all of them in a row.
-/
import Failover.Service.Fleet

namespace Failover.Service

/-! ## §1. Stopping. -/

/-- Where a call to stop a service stands. -/
inductive StopCall where
  /-- Whether there is anything to stop is to be looked up. -/
  | checking
  /-- There is, and it is to be asked for. -/
  | asking
  /-- All is done; `asked` tells whether anything was asked for. -/
  | finished (asked : Bool)
  deriving DecidableEq, Repr

/-- One step of a call to stop a service. -/
def StopCall.step (id : String) : StopCall → Fleet → StopCall × Fleet
  | .checking, f => if f.isActive id then (.asking, f) else (.finished false, f)
  | .asking, f => (.finished true, f.modify id Service.requestStop)
  | .finished asked, f => (.finished asked, f)

/-! ## §2. Removing. -/

/-- Where a call to remove a service stands. -/
inductive RemoveCall where
  /-- Whether there is anything to stop is to be looked up. -/
  | checking
  /-- There is, and the removal is to be left to the end of it. -/
  | marking
  | stopping (call : StopCall)
  /-- Whether the end may have been missed is to be looked up. -/
  | rechecking
  /-- The service is to be taken out of its registry. -/
  | deregistering
  | finished (result : Except Fault Unit)

/-- One step of a call to remove a service. -/
def RemoveCall.step (id : String) : RemoveCall → Fleet → RemoveCall × Fleet
  | .checking, f => if f.isActive id then (.marking, f) else (.deregistering, f)
  | .marking, f => (.stopping .checking, f.modify id Service.requestRemoval)
  | .stopping call, f =>
      match call.step id f with
      | (.finished _, f') => (.rechecking, f')
      | (call', f') => (.stopping call', f')
  | .rechecking, f => if f.isActive id then (.finished (.ok ()), f) else (.deregistering, f)
  | .deregistering, f =>
      let (result, f') := f.deregister id
      (.finished result, f')
  | .finished result, f => (.finished result, f)

/-- What a call to remove a service has come to. -/
def RemoveCall.result? : RemoveCall → Option (Except Fault Unit)
  | .finished result => some result
  | _ => none

/-- The most steps of a call to remove a service. -/
def RemoveCall.mostSteps : Nat := 6

/-- Take steps of a call to remove a service, with nothing coming between them. -/
def RemoveCall.steps (id : String) : Nat → RemoveCall → Fleet → RemoveCall × Fleet
  | 0, c, f => (c, f)
  | n + 1, c, f =>
      let (c', f') := c.step id f
      steps id n c' f'

/-! ## §3. Calls without interruption. -/

namespace Fleet

/-- Ask for a service to be stopped. -/
def stop (f : Fleet) (id : String) : Fleet :=
  let (call, f) := StopCall.checking.step id f
  (call.step id f).2

/-- Remove a service from its registry, at once or when it has stopped. -/
def remove (f : Fleet) (id : String) : Except Fault Unit × Fleet :=
  let (call, f) := RemoveCall.checking.steps id RemoveCall.mostSteps f
  (call.result?.getD (.ok ()), f)

/-- Remove a service that a registry holds. -/
def removeFrom (f : Fleet) (registry id : String) : Except Fault Unit × Fleet :=
  if f.isMember registry id && (f.service? id).isSome then f.remove id
  else (.error (.unregistered id), f)

/-- Set a variable of a service. -/
def setVar (f : Fleet) (id key value : String) : Except Fault Unit × Fleet :=
  match f.service? id with
  | none => (.error (.unregistered id), f)
  | some s =>
      match s.setVar key value with
      | .ok s' => (.ok (), f.modify id fun _ => s')
      | .error cause => (.error cause, f)

/-- Begin to start a service. -/
def begin (f : Fleet) (id : String) : Except Fault Unit × Fleet :=
  match f.service? id with
  | none => (.error (.unregistered id), f)
  | some s =>
      match s.begin with
      | .ok s' => (.ok (), f.modify id fun _ => s')
      | .error cause => (.error cause, f)

/-- Ask for all services of a registry to be stopped. -/
def stopEach (f : Fleet) (registry : String) : Fleet := (f.members registry).foldl stop f

/-- An idle service is removed at once. -/
theorem remove_of_not_isActive {f : Fleet} {id : String} (h : f.isActive id = false) :
    f.remove id = f.deregister id := by
  simp [remove, RemoveCall.steps, RemoveCall.mostSteps, RemoveCall.step, h, RemoveCall.result?]

end Fleet

end Failover.Service
