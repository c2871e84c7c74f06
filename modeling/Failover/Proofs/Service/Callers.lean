/-
  Failover.Proofs.Service.Callers
  ───────────────────────────────
  **A service among its callers.**  Any number of calls on one service go
  on side by side, and so does the task that owns its process.  A call is
  where it stands, and one step of it looks at one thing or changes one
  thing:

      set_var   entering → checking → writing → finished
      start     entering → checking → publishing → copying → awaiting → finished
      info      entering → looking → copying … → finished

  Between `entering` and the next stage the call takes the lock of the
  service, and it is inside until it comes to a stage without it.  The
  owner takes the lock to store what the process answered.  Stopping,
  removing and waiting take no lock.

  Main statements: `steps_setVar`, `steps_start`, `steps_var` and
  `steps_info` — without interruption the calls do what `Fleet.setVar`,
  `Fleet.begin`, `Service.var?` and `Service.info` say.
-/
import Failover.Proofs.Service.Progress
import Failover.Service.Run

namespace Failover.Service

open Handshake (Negotiation)

/-! ## §1. Calls. -/

/-- Where a call to set a variable stands. -/
inductive SetVarCall where
  | entering (key value : String)
  /-- Whether the variable may be set is to be looked up. -/
  | checking (key value : String)
  | writing (key value : String)
  | finished (result : Except Fault Unit)

/-- One step of a call to set a variable. -/
def SetVarCall.step (id : String) : SetVarCall → Fleet → SetVarCall × Fleet
  | .entering key value, f => (.checking key value, f)
  | .checking key value, f =>
      match f.service? id with
      | none => (.finished (.error (.unregistered id)), f)
      | some s =>
          match s.setVar key value with
          | .ok _ => (.writing key value, f)
          | .error cause => (.finished (.error cause), f)
  | .writing key value, f =>
      (.finished (.ok ()), f.modify id fun s => { s with request := s.request.insert key value })
  | .finished result, f => (.finished result, f)

/-- Where a call to look up a variable stands. -/
inductive VarCall where
  | entering (key : String)
  | copying (key : String)
  | finished (value : Option String)

/-- One step of a call to look up a variable. -/
def VarCall.step (id : String) : VarCall → Fleet → VarCall
  | .entering key, _ => .copying key
  | .copying key, f => .finished ((f.service? id).bind (·.var? key))
  | .finished value, _ => .finished value

/-- Where a call to learn all that is known stands, with what it has copied. -/
inductive InfoCall where
  | entering
  /-- Whether the process runs is to be looked up. -/
  | looking
  | copyingRequest (running : Bool)
  | copyingResponse (running : Bool) (request : Variables)
  | copyingMethods (running : Bool) (request response : Variables)
  | finished (info : Info)

/-- One step of a call to learn all that is known. -/
def InfoCall.step (id : String) (call : InfoCall) (f : Fleet) : InfoCall :=
  match f.service? id with
  | none => call
  | some s =>
      match call with
      | .entering => .looking
      | .looking => .copyingRequest s.running
      | .copyingRequest running => .copyingResponse running s.request
      | .copyingResponse running request => .copyingMethods running request s.response
      | .copyingMethods running request response =>
          .finished ⟨s.id, s.name, s.program, running, request, response, s.methods⟩
      | .finished info => .finished info

/-- Where a call to start a service stands. -/
inductive StartCall where
  | entering
  /-- Whether it may be started is to be looked up. -/
  | checking
  /-- It is to count as starting from now on. -/
  | publishing
  /-- Its request is to be copied. -/
  | copying
  /-- The task that owns the process has taken over. -/
  | awaiting (request : Variables)
  | refused (cause : Fault)
  | finished (request : Variables) (result : Except Abort Unit)

/-- One step of a call to start a service. -/
def StartCall.step (id : String) : StartCall → Fleet → StartCall × Fleet
  | .entering, f => (.checking, f)
  | .checking, f =>
      match f.service? id with
      | none => (.refused (.unregistered id), f)
      | some s =>
          match s.begin with
          | .ok _ => (.publishing, f)
          | .error cause => (.refused cause, f)
  | .publishing, f =>
      (.copying, f.modify id fun s => { s with lifecycle := .starting, phase := .launching })
  | .copying, f =>
      match f.service? id with
      | none => (.copying, f)
      | some s => (.awaiting s.request, f)
  | .awaiting request, f =>
      match f.outcome? id with
      | none => (.awaiting request, f)
      | some result => (.finished request result, f)
  | .refused cause, f => (.refused cause, f)
  | .finished request result, f => (.finished request result, f)

/-- Whether a start has found the service idle. -/
def StartCall.isAccepted : StartCall → Bool
  | .publishing | .copying | .awaiting _ | .finished .. => true
  | .entering | .checking | .refused _ => false

/-- Where a call to wait for the end of a service stands, with the lifecycle that it saw. -/
inductive WaitCall where
  | waiting
  | finished (seen : Lifecycle)

/-- One step of a call to wait for the end of a service. -/
def WaitCall.step (id : String) : WaitCall → Fleet → WaitCall
  | .waiting, f =>
      match f.service? id with
      | none => .waiting
      | some s => if s.isSettled then .finished s.lifecycle else .waiting
  | .finished seen, _ => .finished seen

/-- A call on a service. -/
inductive Call where
  | setVar (call : SetVarCall)
  | var (call : VarCall)
  | info (call : InfoCall)
  | start (call : StartCall)
  | stop (call : StopCall)
  | remove (call : RemoveCall)
  | wait (call : WaitCall)

namespace Call

/-- One step of a call. -/
def step (id : String) : Call → Fleet → Call × Fleet
  | .setVar call, f => (.setVar (call.step id f).1, (call.step id f).2)
  | .var call, f => (.var (call.step id f), f)
  | .info call, f => (.info (call.step id f), f)
  | .start call, f => (.start (call.step id f).1, (call.step id f).2)
  | .stop call, f => (.stop (call.step id f).1, (call.step id f).2)
  | .remove call, f => (.remove (call.step id f).1, (call.step id f).2)
  | .wait call, f => (.wait (call.step id f), f)

/-- Take steps of a call, with nothing coming between them. -/
def steps (id : String) : Nat → Call → Fleet → Call × Fleet
  | 0, call, f => (call, f)
  | n + 1, call, f => steps id n (call.step id f).1 (call.step id f).2

/-- Whether a call is about to take the lock. -/
def isEntering : Call → Bool
  | .setVar (.entering ..) | .var (.entering _) | .info .entering | .start .entering => true
  | _ => false

/-- Whether a call has the lock. -/
def isInside : Call → Bool
  | .setVar (.checking ..) | .setVar (.writing ..) | .var (.copying _) => true
  | .info .looking | .info (.copyingRequest _) | .info (.copyingResponse ..)
  | .info (.copyingMethods ..) => true
  | .start .checking | .start .publishing | .start .copying => true
  | _ => false

/-- Whether a call is about to hand a start over to the task that owns the process. -/
def isHandingOver : Call → Bool
  | .start .copying => true
  | _ => false

/-- The variable that a step to another stage has set. -/
def written : Call → Call → List (String × String)
  | .setVar (.writing key value), .setVar (.finished (.ok ())) => [(key, value)]
  | _, _ => []

end Call

/-! ## §2. Calls without interruption. -/

/-- A variable can be set only in an idle service. -/
theorem setVar_eq_ok {s s' : Service} {key value : String}
    (h : s.setVar key value = .ok s') :
    s.lifecycle = .idle ∧ s' = { s with request := s.request.insert key value } := by
  unfold Service.setVar at h
  split at h
  · cases h
  · next hi =>
    split at h
    · cases h
    · exact ⟨Decidable.not_not.1 hi, (Except.ok.inj h).symm⟩

/-- Only an idle service can be started. -/
theorem begin_eq_ok {s s' : Service} (h : s.begin = .ok s') :
    s.lifecycle = .idle ∧ s' = { s with lifecycle := .starting, phase := .launching } := by
  unfold Service.begin at h
  split at h
  · next hi => exact ⟨hi, (Except.ok.inj h).symm⟩
  · cases h
  · cases h

/-- Changing a service that is there puts it in place as it becomes. -/
theorem Fleet.modify_eq {f : Fleet} {id : String} {s : Service} (hs : f.service? id = some s)
    (g : Service → Service) : f.modify id g = f.modify id fun _ => g s := by
  unfold Fleet.modify
  rw [hs]

theorem steps_setVar (id key value : String) (f : Fleet) :
    Call.steps id 3 (.setVar (.entering key value)) f =
      (.setVar (.finished (f.setVar id key value).1), (f.setVar id key value).2) := by
  simp only [Call.steps, Call.step, SetVarCall.step]
  unfold Fleet.setVar
  cases hs : f.service? id with
  | none => rfl
  | some s =>
      cases hset : s.setVar key value with
      | error cause => simp [hset]
      | ok s' =>
          obtain ⟨-, rfl⟩ := Service.setVar_eq_ok hset
          simp only [hset]
          rw [Fleet.modify_eq hs]

theorem steps_var {id : String} {f : Fleet} {s : Service} (hs : f.service? id = some s)
    (key : String) :
    Call.steps id 2 (.var (.entering key)) f = (.var (.finished (s.var? key)), f) := by
  simp [Call.steps, Call.step, VarCall.step, hs]

theorem steps_info {id : String} {f : Fleet} {s : Service} (hs : f.service? id = some s) :
    Call.steps id 5 (.info .entering) f = (.info (.finished s.info), f) := by
  simp [Call.steps, Call.step, InfoCall.step, hs, Service.info]

/-- A start that is accepted has its request copied before anything else happens. -/
theorem steps_start {id : String} {f : Fleet} {s : Service} (hs : f.service? id = some s) :
    Call.steps id 4 (.start .entering) f =
      (match (f.begin id).1 with
        | .ok () => .start (.awaiting s.request)
        | .error cause => .start (.refused cause),
       (f.begin id).2) := by
  simp only [Call.steps, Call.step, StartCall.step]
  unfold Fleet.begin
  rw [hs]
  dsimp only
  cases hb : s.begin with
  | error cause => simp
  | ok s' =>
      obtain ⟨-, rfl⟩ := Service.begin_eq_ok hb
      simp only [Fleet.service?_modify, hs, if_pos, Option.map_some]
      rw [Fleet.modify_eq hs]

/-! ## §3. Scenes. -/

/-- What a caller wants. -/
inductive Demand where
  | setVar (key value : String)
  | var (key : String)
  | info
  | start
  | stop
  | remove
  | wait

/-- The call of a caller that has just come. -/
def Demand.call : Demand → Call
  | .setVar key value => .setVar (.entering key value)
  | .var key => .var (.entering key)
  | .info => .info .entering
  | .start => .start .entering
  | .stop => .stop .checking
  | .remove => .remove .checking
  | .wait => .wait .waiting

/-- A service in its fleet, the calls on it, and what has happened to it. -/
structure Scene where
  fleet : Fleet
  callers : List Call
  /-- What was set by the calls that succeeded, in their order. -/
  written : List (String × String)
  /-- The requests with which its program was launched. -/
  launches : List Variables
  /-- What its process told in a handshake that succeeded. -/
  answers : List Negotiation

/-- Something that happens in a scene. -/
inductive Move where
  | come (demand : Demand)
  /-- The call with a number goes on. -/
  | go (caller : Nat)
  | act (host : Host) (action : Action)
  /-- Anything happens to the other services and to the registries. -/
  | elsewhere (rest : Fleet)

/-- What a service is launched with when its owner goes on. -/
def launching? (s : Service) : Option Variables :=
  match s.phase with
  | .launching => some s.request
  | _ => none

/-- What the process of a service told and what is not stored yet. -/
def answering? (s : Service) : Option Negotiation :=
  match s.phase with
  | .answering n => some n
  | _ => none

/-- A service among other services and in other registries. -/
def Fleet.among (f : Fleet) (id : String) (rest : Fleet) : Fleet :=
  match f.service? id with
  | none => f
  | some s => { rest with clock := f.clock, services := rest.services.insert id s }

namespace Scene

/-- A scene before anybody has come. -/
def opening (f : Fleet) : Scene := ⟨f, [], [], [], []⟩

/-- Whether nobody has the lock. -/
def isFree (sc : Scene) : Bool := sc.callers.all fun call => !call.isInside

/-- Whether the owner of the service may go on.  It takes over from a start, and it takes the lock
to store what the process told. -/
def mayGoOn (sc : Scene) (s : Service) : Bool :=
  match s.phase with
  | .launching => sc.callers.all fun call => !call.isHandingOver
  | .answering _ => sc.isFree
  | _ => true

/-- The call with a number goes on.  Who is to take the lock waits until nobody has it. -/
def go (id : String) (sc : Scene) (caller : Nat) : Scene :=
  match sc.callers[caller]? with
  | none => sc
  | some call =>
      if call.isEntering && !sc.isFree then sc
      else
        { sc with
          fleet := (call.step id sc.fleet).2
          callers := sc.callers.set caller (call.step id sc.fleet).1
          written := sc.written ++ call.written (call.step id sc.fleet).1 }

/-- The owner of the service goes on, if it may. -/
def own (id : String) (host : Host) (sc : Scene) : Scene :=
  match sc.fleet.service? id, sc.fleet.step? host (.owner id) with
  | some s, some f =>
      if sc.mayGoOn s then
        { sc with
          fleet := f
          launches := sc.launches ++ s.launching?.toList
          answers := sc.answers ++ ((f.service? id).bind (·.answering?)).toList }
      else sc
  | _, _ => sc

/-- Something happens in a scene; what is not possible does not happen. -/
def move (id : String) (sc : Scene) : Move → Scene
  | .come demand => { sc with callers := sc.callers ++ [demand.call] }
  | .go caller => sc.go id caller
  | .act host action =>
      if action = .owner id then sc.own id host
      else { sc with fleet := (sc.fleet.step? host action).getD sc.fleet }
  | .elsewhere rest => { sc with fleet := sc.fleet.among id rest }

/-- Things happen one after the other. -/
def run (id : String) (sc : Scene) (moves : List Move) : Scene := moves.foldl (move id) sc

end Scene

end Failover.Service
