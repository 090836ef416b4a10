import AgentPulse.OrderedMap
import AgentPulse.RelayCrypto
import AgentPulse.Trace

/-!
# The relay connector of a host

A supervisor polls the credential store and keeps one worker for each route. A worker
registers its route at the relay, again and again, until it is told to stop. All of them
write one list of ready routes, in any order.
-/
namespace AgentPulse

open Std (ExtTreeMap)
open OrderedMap (getElem?_insert getElem?_erase)

def RelayError.toString : RelayError → String
  | invalidField field reason => s!"invalid Relay field {field}: {reason}"
  | json source => s!"invalid Relay JSON: {source}"
  | base64 source => s!"invalid Relay base64: {source}"
  | io operation source => s!"Relay I/O failed while {operation}: {source}"
  | tls message => s!"Relay TLS failed: {message}"
  | authentication => "Relay authentication failed"
  | protocol message => s!"Relay protocol failed: {message}"
  | timeout operation => s!"Relay timed out while {operation}"
  | hostUnavailable => "Relay Host is unavailable"
  | hostBusy => "Relay Host registration is already occupied"
  | routesChanged => "Relay route registration changed"
  | stopped => "Relay stopped"

structure RelayRuntimeSnapshot where
  readyRoutes : List String
  health : String
  lastError : Option String
  deriving DecidableEq, Repr

namespace RelayRuntimeSnapshot

def new (initialHealth : String) : RelayRuntimeSnapshot := ⟨[], initialHealth, none⟩

def update (_self : RelayRuntimeSnapshot) (health : String) (lastError : Option String) :
    RelayRuntimeSnapshot := ⟨[], health, lastError⟩

def pushRoute (ready : List String) (route : RouteRegistration) : List String :=
  if route.routeId ∈ ready then ready else ready ++ [route.routeId]

def ready (self : RelayRuntimeSnapshot) (routes : List RouteRegistration) : RelayRuntimeSnapshot :=
  ⟨routes.foldl pushRoute self.readyRoutes, "waiting_or_tunneling", none⟩

def unready (self : RelayRuntimeSnapshot) (routeId : String) (error : Option String) :
    RelayRuntimeSnapshot :=
  let readyRoutes := self.readyRoutes.filter (· != routeId)
  ⟨readyRoutes, if readyRoutes.isEmpty then "refreshing" else self.health, error⟩

end RelayRuntimeSnapshot

inductive WorkerPhase where
  /-- Before the stop flag is read at the top of the loop. -/
  | checking
  /-- Inside `connect`, which may have reported that it waits. -/
  | connecting (reported : Bool)
  /-- Inside the report, between the stop check and the write. -/
  | readying (reported : Bool)
  /-- `connect` has returned, and its route is not taken off the list yet. -/
  | returned (result : Except RelayError Unit)
  | sleeping (seconds : Nat)
  | finished
  deriving DecidableEq, Repr

structure RelayWorker where
  route : RouteRegistration
  stop : Bool
  backoffIndex : Nat
  phase : WorkerPhase
  deriving DecidableEq, Repr

/-- What a worker does next: it goes on by itself, or `connect` does something. -/
inductive WorkerTurn where
  | proceed
  | waiting
  | returns (result : Except RelayError Unit)
  deriving DecidableEq

namespace RelayWorker

def backoffSeconds : List Nat := [1, 2, 5, 10, 30]

/-- The loop body after `connect`. -/
def retry (self : RelayWorker) : Except RelayError Unit → RelayWorker
  | .ok () => { self with backoffIndex := 0, phase := .checking }
  | .error .routesChanged => { self with backoffIndex := 0, phase := .checking }
  | .error .stopped => { self with phase := .finished }
  | .error _ =>
    { self with
      backoffIndex := min (self.backoffIndex + 1) (backoffSeconds.length - 1)
      phase := .sleeping (backoffSeconds.getD self.backoffIndex 0) }

def errorText : Except RelayError Unit → Option String
  | .ok () => none
  | .error error => some error.toString

def advance (turn : WorkerTurn) (self : RelayWorker) (runtime : RelayRuntimeSnapshot) :
    RelayWorker × RelayRuntimeSnapshot :=
  match self.phase, turn with
  | .checking, .proceed =>
    ({ self with phase := if self.stop then .finished else .connecting false }, runtime)
  | .connecting reported, .waiting =>
    ({ self with phase := if self.stop then .connecting true else .readying reported }, runtime)
  | .connecting _, .returns result => ({ self with phase := .returned result }, runtime)
  | .readying _, .proceed => ({ self with phase := .connecting true }, runtime.ready [self.route])
  | .returned result, .proceed =>
    (self.retry result, runtime.unready self.route.routeId (errorText result))
  | .sleeping _, .proceed => ({ self with phase := .checking }, runtime)
  | _, _ => (self, runtime)

end RelayWorker

inductive SupervisorPhase where
  | configuring
  | polling
  /-- The workers without a route are told to stop; some are still to be looked at. -/
  | retiring (routes : List RouteRegistration) (pending : List String)
  | unreadying (routes : List RouteRegistration) (id : String) (pending : List String)
  | reaping (routes : List RouteRegistration) (pending : List String)
  | clearing (routes : List RouteRegistration)
  | spawning (routes : List RouteRegistration)
  | failing (error : String)
  | halting (pending : List String)
  | joining
  | closing
  | ended
  deriving DecidableEq, Repr

structure RelaySystem where
  stop : Bool
  runtime : RelayRuntimeSnapshot
  phase : SupervisorPhase
  workers : ExtTreeMap String RelayWorker

inductive RelayTurn where
  /-- The owner of the connector sets the stop flag. -/
  | requestStop
  | configured (result : Except String Unit)
  /-- The supervisor reads its stop flag and the routes of the store. -/
  | poll (routes : Except String (List RouteRegistration))
  /-- The supervisor looks at one of its workers; a hash map has no order. -/
  | visit (id : String)
  | supervise
  | worker (id : String) (turn : WorkerTurn)
  deriving DecidableEq

namespace RelaySystem

/-- Retiring workers count as well. -/
def maxWorkers : Nat := 32

def stopWorker (workers : ExtTreeMap String RelayWorker) (id : String) :
    ExtTreeMap String RelayWorker :=
  match workers[id]? with
  | some worker => workers.insert id { worker with stop := true }
  | none => workers

def reapWorker (workers : ExtTreeMap String RelayWorker) (id : String) :
    ExtTreeMap String RelayWorker :=
  match workers[id]? with
  | some worker => if worker.phase = .finished then workers.erase id else workers
  | none => workers

def allFinished (workers : ExtTreeMap String RelayWorker) : Bool :=
  workers.keys.all fun id => workers[id]?.all (·.phase = .finished)

def visit (self : RelaySystem) (id : String) : RelaySystem :=
  match self.phase with
  | .retiring routes pending =>
    if id ∉ pending then self
    else if routes.any (·.routeId == id) then
      { self with phase := .retiring routes (pending.erase id) }
    else
      { self with
        phase := .unreadying routes id (pending.erase id)
        workers := stopWorker self.workers id }
  | .reaping routes pending =>
    if id ∉ pending then self
    else
      { self with
        phase := .reaping routes (pending.erase id)
        workers := reapWorker self.workers id }
  | .halting pending =>
    if id ∉ pending then self
    else
      { self with
        phase := .halting (pending.erase id)
        workers := stopWorker self.workers id }
  | _ => self

/-- One route of the last loop. -/
def spawn (workers : ExtTreeMap String RelayWorker) (route : RouteRegistration) :
    ExtTreeMap String RelayWorker :=
  if workers.contains route.routeId || decide (maxWorkers ≤ workers.size) then workers
  else workers.insert route.routeId ⟨route, false, 0, .checking⟩

def supervise (self : RelaySystem) : RelaySystem :=
  match self.phase with
  | .retiring routes [] => { self with phase := .reaping routes self.workers.keys }
  | .unreadying routes id pending =>
    { self with
      phase := .retiring routes pending
      runtime := self.runtime.unready id none }
  | .reaping routes [] => { self with phase := .clearing routes }
  | .clearing routes =>
    { self with
      phase := .spawning routes
      runtime := if routes.isEmpty then self.runtime.update "waiting_for_device" none else self.runtime }
  | .spawning [] => { self with phase := .polling }
  | .spawning (route :: routes) =>
    { self with
      phase := .spawning routes
      workers := spawn self.workers route }
  | .failing error =>
    { self with
      phase := .polling
      runtime := self.runtime.update "retrying" (some error) }
  | .halting [] => { self with phase := .joining }
  | .joining => if allFinished self.workers then { self with phase := .closing } else self
  | .closing => { self with phase := .ended, runtime := self.runtime.update "stopped" none }
  | _ => self

def advanceWorker (self : RelaySystem) (id : String) (turn : WorkerTurn) : RelaySystem :=
  match self.workers[id]? with
  | none => self
  | some worker =>
    let (worker, runtime) := worker.advance turn self.runtime
    { self with runtime, workers := self.workers.insert id worker }

def step (self : RelaySystem) : RelayTurn → RelaySystem × Unit
  | .requestStop => ({ self with stop := true }, ())
  | .configured result =>
    (match self.phase, result with
    | .configuring, .ok () => { self with phase := .polling }
    | .configuring, .error error =>
      { self with phase := .ended, runtime := self.runtime.update "failed" (some error) }
    | _, _ => self, ())
  | .poll routes =>
    (match self.phase with
    | .polling =>
      if self.stop then { self with phase := .halting self.workers.keys }
      else
        match routes with
        | .ok routes => { self with phase := .retiring routes self.workers.keys }
        | .error error => { self with phase := .failing error }
    | _ => self, ())
  | .visit id => (self.visit id, ())
  | .supervise => (self.supervise, ())
  | .worker id turn => (self.advanceWorker id turn, ())

def initial : RelaySystem := ⟨false, .new "starting", .configuring, ∅⟩

def after (turns : List RelayTurn) : RelaySystem := Trace.final step initial turns

/-- The route's current `connect` call has reported that it waits and has not returned, and the
worker is not stopped. -/
def Standing (self : RelaySystem) (id : String) : Prop :=
  ∃ worker, self.workers[id]? = some worker ∧ worker.phase = .connecting true ∧ worker.stop = false

/-- No worker is between the return of `connect` and its write, or between its stop check
and its write. -/
def Quiet (self : RelaySystem) : Prop :=
  ∀ (id : String) (worker : RelayWorker), self.workers[id]? = some worker →
    (∀ result, worker.phase ≠ .returned result) ∧ ∀ reported, worker.phase ≠ .readying reported

/-- The list of the ready routes says what is the case. -/
def Accurate (self : RelaySystem) : Prop :=
  self.Quiet → ∀ id, id ∈ self.runtime.readyRoutes ↔ self.Standing id

end RelaySystem

/-- A report of the current `connect` call is on the list, unless somebody took it off. -/
def WorkerPhase.waits : WorkerPhase → Bool
  | .connecting reported | .readying reported => reported
  | _ => false

/-- The write of a report is still to come. -/
def WorkerPhase.isReadying : WorkerPhase → Bool
  | .readying _ => true
  | _ => false

def WorkerPhase.isReturned : WorkerPhase → Bool
  | .returned _ => true
  | _ => false

namespace RelaySystem

/-- The supervisor reports a failed read of the routes only while no report stands. -/
def KeepsReports (self : RelaySystem) (turn : RelayTurn) : Prop :=
  ∀ error, turn = .supervise → self.phase = .failing error →
    ∀ (id : String) (worker : RelayWorker), self.workers[id]? = some worker →
      worker.stop = false → worker.phase.waits = false

/-- The visit tells the worker to stop. -/
def Stops (self : RelaySystem) (id : String) : Prop :=
  (∃ routes pending, self.phase = .retiring routes pending ∧ id ∈ pending ∧
      routes.any (·.routeId == id) = false) ∨
    ∃ pending, self.phase = .halting pending ∧ id ∈ pending

/-- A worker is told to stop only while no report of it stands or is about to be written. -/
def StopsSilent (self : RelaySystem) (turn : RelayTurn) : Prop :=
  ∀ id worker, turn = .visit id → self.Stops id → self.workers[id]? = some worker →
    worker.stop = true ∨ (worker.phase.waits = false ∧ worker.phase.isReadying = false)

end RelaySystem

namespace RelayRuntimeSnapshot

theorem mem_ready (self : RelayRuntimeSnapshot) (route : RouteRegistration) (id : String) :
    id ∈ (self.ready [route]).readyRoutes ↔ id ∈ self.readyRoutes ∨ id = route.routeId := by
  show id ∈ pushRoute self.readyRoutes route ↔ _
  unfold pushRoute
  split
  · next hlisted =>
    refine ⟨Or.inl, ?_⟩
    rintro (h | rfl)
    · exact h
    · exact hlisted
  · simp

theorem mem_unready (self : RelayRuntimeSnapshot) (routeId : String) (error : Option String)
    (id : String) :
    id ∈ (self.unready routeId error).readyRoutes ↔ id ∈ self.readyRoutes ∧ id ≠ routeId := by
  simp [unready]

end RelayRuntimeSnapshot

/-- The list is right about the route of a worker, as far as the worker itself goes. -/
structure RelayWorker.Agrees (id : String) (worker : RelayWorker) (listed : Prop) : Prop where
  route : worker.route.routeId = id
  sound : listed → worker.phase.waits = true ∨ worker.phase.isReturned = true
  complete : worker.stop = false → worker.phase.waits = true → listed

/-- The route of a stopped worker is off the list, or about to be taken off by the worker. -/
def RelayWorker.Silent (worker : RelayWorker) (listed : Prop) : Prop :=
  worker.stop = true → (listed → worker.phase.isReturned = true) ∧ worker.phase.isReadying = false

namespace RelayWorker

theorem retry_eq (worker : RelayWorker) (result : Except RelayError Unit) :
    ∃ backoffIndex phase, worker.retry result = { worker with backoffIndex, phase } ∧
      phase.waits = false ∧ phase.isReadying = false := by
  unfold retry
  split <;> exact ⟨_, _, rfl, rfl, rfl⟩

theorem Agrees.withPhase {id : String} {worker : RelayWorker} {listed : Prop}
    (h : worker.Agrees id listed) {phase : WorkerPhase}
    (hsound : worker.phase.waits = true ∨ worker.phase.isReturned = true →
      phase.waits = true ∨ phase.isReturned = true)
    (hcomplete : worker.stop = false → phase.waits = true → worker.phase.waits = true) :
    { worker with phase }.Agrees id listed where
  route := h.route
  sound hlisted := hsound (h.sound hlisted)
  complete hstop hwaits := h.complete hstop (hcomplete hstop hwaits)

/-- What a turn of the worker may come to. -/
structure Continues (id : String) (worker : RelayWorker) (runtime : RelayRuntimeSnapshot)
    (next : RelayWorker × RelayRuntimeSnapshot) : Prop where
  agrees : next.1.Agrees id (id ∈ next.2.readyRoutes)
  others : ∀ other, other ≠ id → (other ∈ next.2.readyRoutes ↔ other ∈ runtime.readyRoutes)

/-- A turn of a worker keeps the list right about its own route and leaves the others alone. -/
theorem advance_continues {id : String} {worker : RelayWorker} {runtime : RelayRuntimeSnapshot}
    (h : worker.Agrees id (id ∈ runtime.readyRoutes)) (turn : WorkerTurn) :
    Continues id worker runtime (worker.advance turn runtime) := by
  obtain ⟨route, stop, backoffIndex, phase⟩ := worker
  have hroute : route.routeId = id := h.route
  -- a turn without a write is a matter of the phase
  have hquiet : ∀ next : WorkerPhase,
      (phase.waits = true ∨ phase.isReturned = true → next.waits = true ∨ next.isReturned = true) →
      (stop = false → next.waits = true → phase.waits = true) →
      Continues id ⟨route, stop, backoffIndex, phase⟩ runtime
        (⟨route, stop, backoffIndex, next⟩, runtime) :=
    fun next hsound hcomplete => ⟨h.withPhase hsound hcomplete, fun _ _ => Iff.rfl⟩
  have hstay : Continues id ⟨route, stop, backoffIndex, phase⟩ runtime
      (⟨route, stop, backoffIndex, phase⟩, runtime) := ⟨h, fun _ _ => Iff.rfl⟩
  cases phase with
  | checking =>
    cases turn with
    | proceed =>
      cases stop with
      | true => exact hquiet .finished (by simp [WorkerPhase.waits, WorkerPhase.isReturned]) (by simp)
      | false =>
        exact hquiet (.connecting false) (by simp [WorkerPhase.waits, WorkerPhase.isReturned])
          (by simp [WorkerPhase.waits])
    | _ => exact hstay
  | connecting reported =>
    cases turn with
    | proceed => exact hstay
    | waiting =>
      cases stop with
      | true => exact hquiet (.connecting true) (by simp [WorkerPhase.waits]) (by simp)
      | false => exact hquiet (.readying reported) (fun h => h) fun _ h => h
    | returns result =>
      exact hquiet (.returned result) (by simp [WorkerPhase.isReturned])
        (by simp [WorkerPhase.waits])
  | readying reported =>
    cases turn with
    | proceed =>
      refine ⟨⟨hroute, fun _ => .inl rfl, fun _ _ => ?_⟩, ?_⟩
      · exact (RelayRuntimeSnapshot.mem_ready runtime route id).mpr (.inr hroute.symm)
      · intro other hother
        have hne : other ≠ route.routeId := fun heq => hother (heq.trans hroute)
        refine (RelayRuntimeSnapshot.mem_ready runtime route other).trans ?_
        simp [hne]
    | _ => exact hstay
  | returned result =>
    cases turn with
    | proceed =>
      obtain ⟨index, next, hretry, hwaits, -⟩ :=
        retry_eq ⟨route, stop, backoffIndex, .returned result⟩ result
      unfold advance
      dsimp only
      rw [hretry]
      have hlisted := RelayRuntimeSnapshot.mem_unready runtime route.routeId (errorText result)
      refine ⟨⟨hroute, fun hid => ?_, fun _ hnext => ?_⟩, ?_⟩
      · exact absurd hroute.symm ((hlisted id).mp hid).2
      · rw [hwaits] at hnext
        cases hnext
      · intro other hother
        have hne : other ≠ route.routeId := fun heq => hother (heq.trans hroute)
        exact (hlisted other).trans (and_iff_left hne)
    | _ => exact hstay
  | sleeping seconds =>
    cases turn with
    | proceed =>
      exact hquiet .checking (by simp [WorkerPhase.waits, WorkerPhase.isReturned])
        (by simp [WorkerPhase.waits])
    | _ => exact hstay
  | finished =>
    have hsame : advance turn ⟨route, stop, backoffIndex, .finished⟩ runtime =
        (⟨route, stop, backoffIndex, .finished⟩, runtime) := by
      cases turn <;> rfl
    rw [hsame]
    exact hstay

theorem advance_stop (turn : WorkerTurn) (worker : RelayWorker) (runtime : RelayRuntimeSnapshot) :
    (worker.advance turn runtime).1.stop = worker.stop := by
  unfold advance
  split
  · rfl
  · rfl
  · rfl
  · rfl
  · next result _ =>
    obtain ⟨index, next, hretry, -⟩ := retry_eq worker result
    rw [hretry]
  · rfl
  · rfl

/-- A stopped worker does not come back on the list. -/
theorem advance_silent {id : String} {worker : RelayWorker} {runtime : RelayRuntimeSnapshot}
    (hroute : worker.route.routeId = id) (h : worker.Silent (id ∈ runtime.readyRoutes))
    (turn : WorkerTurn) :
    (worker.advance turn runtime).1.Silent
      (id ∈ (worker.advance turn runtime).2.readyRoutes) := by
  intro hstop
  rw [advance_stop] at hstop
  obtain ⟨hsilent, hwriting⟩ := h hstop
  obtain ⟨route, stop, backoffIndex, phase⟩ := worker
  dsimp only at hroute hstop hsilent hwriting
  subst hstop
  cases phase with
  | returned result =>
    cases turn with
    | proceed =>
      obtain ⟨index, next, hretry, hwaits, hreadying⟩ :=
        retry_eq ⟨route, true, backoffIndex, .returned result⟩ result
      unfold advance
      dsimp only
      rw [hretry]
      refine ⟨fun hlisted => ?_, hreadying⟩
      exact absurd hroute.symm
        ((RelayRuntimeSnapshot.mem_unready runtime route.routeId (errorText result) id).mp hlisted).2
    | _ => exact ⟨fun _ => rfl, rfl⟩
  | readying reported =>
    cases hwriting
  | connecting reported =>
    have hunlisted : id ∉ runtime.readyRoutes := fun hlisted => nomatch hsilent hlisted
    cases turn with
    | proceed => exact ⟨fun hlisted => absurd hlisted hunlisted, rfl⟩
    | waiting => exact ⟨fun hlisted => absurd hlisted hunlisted, rfl⟩
    | returns result => exact ⟨fun _ => rfl, rfl⟩
  | checking =>
    have hunlisted : id ∉ runtime.readyRoutes := fun hlisted => nomatch hsilent hlisted
    cases turn <;> exact ⟨fun hlisted => absurd hlisted hunlisted, rfl⟩
  | sleeping seconds =>
    have hunlisted : id ∉ runtime.readyRoutes := fun hlisted => nomatch hsilent hlisted
    cases turn <;> exact ⟨fun hlisted => absurd hlisted hunlisted, rfl⟩
  | finished =>
    have hunlisted : id ∉ runtime.readyRoutes := fun hlisted => nomatch hsilent hlisted
    cases turn <;> exact ⟨fun hlisted => absurd hlisted hunlisted, rfl⟩

end RelayWorker

/-- In this phase, a worker of the route has been told to stop. -/
def SupervisorPhase.Retired (id : String) : SupervisorPhase → Prop
  | .configuring | .joining | .closing => True
  | .retiring routes pending => id ∉ pending ∧ routes.any (·.routeId == id) = false
  | .unreadying routes other pending =>
    id = other ∨ (id ∉ pending ∧ routes.any (·.routeId == id) = false)
  | .reaping routes _ | .clearing routes => routes.any (·.routeId == id) = false
  | .halting pending => id ∉ pending
  | .polling | .spawning _ | .failing _ | .ended => False

namespace RelaySystem

/-- One step of the supervisor. -/
inductive Move (s : RelaySystem) : RelayTurn → RelaySystem → Prop where
  | goes {turn : RelayTurn} (phase : SupervisorPhase) (hretired : ∀ (id : String) (worker : RelayWorker),
      s.workers[id]? = some worker → phase.Retired id → s.phase.Retired id) :
      Move s turn { s with phase }
  | stops (id : String) (phase : SupervisorPhase) (hstops : s.Stops id)
      (hretired : ∀ other, phase.Retired other → other = id ∨ s.phase.Retired other) :
      Move s (.visit id) { s with phase, workers := stopWorker s.workers id }
  | unreadies {turn : RelayTurn} (id : String) (phase : SupervisorPhase) (hid : s.phase.Retired id)
      (hretired : ∀ other, phase.Retired other → s.phase.Retired other) :
      Move s turn { s with phase, runtime := s.runtime.unready id none }
  | clears {turn : RelayTurn} (phase : SupervisorPhase) (health : String) (error : Option String)
      (hall : ∀ id, s.phase.Retired id)
      (hretired : ∀ other, phase.Retired other → s.phase.Retired other) :
      Move s turn { s with phase, runtime := s.runtime.update health error }
  | reaps {turn : RelayTurn} (id : String) (phase : SupervisorPhase)
      (hretired : ∀ other, phase.Retired other → s.phase.Retired other) :
      Move s turn { s with phase, workers := reapWorker s.workers id }
  | spawns {turn : RelayTurn} (route : RouteRegistration) (phase : SupervisorPhase)
      (hretired : ∀ id, ¬ phase.Retired id) :
      Move s turn { s with phase, workers := spawn s.workers route }
  | fails (error : String) (hphase : s.phase = .failing error) :
      Move s .supervise { s with phase := .polling, runtime := s.runtime.update "retrying" (some error) }

theorem Move.stay (s : RelaySystem) (turn : RelayTurn) : Move s turn s := .goes s.phase fun _ _ _ h => h

theorem visit_move (s : RelaySystem) (id : String) : Move s (.visit id) (s.visit id) := by
  unfold visit
  split
  · next routes pending hphase =>
    split
    · exact .stay s _
    · next hpending =>
      have hpending : id ∈ pending := not_not.mp hpending
      split
      · next hrouted =>
        refine .goes _ ?_
        rintro other worker - ⟨hother, hunrouted⟩
        rw [hphase]
        refine ⟨fun hmem => hother ((List.mem_erase_of_ne ?_).mpr hmem), hunrouted⟩
        rintro rfl
        rw [hrouted] at hunrouted
        cases hunrouted
      · next hunrouted =>
        have hunrouted : routes.any (·.routeId == id) = false := by simpa using hunrouted
        refine .stops id _ (.inl ⟨routes, pending, hphase, hpending, hunrouted⟩) ?_
        rintro other (rfl | ⟨hother, hrouted⟩)
        · exact .inl rfl
        · by_cases hsame : other = id
          · exact .inl hsame
          · rw [hphase]
            exact .inr ⟨fun hmem => hother ((List.mem_erase_of_ne hsame).mpr hmem), hrouted⟩
  · next routes pending hphase =>
    split
    · exact .stay s _
    · refine .reaps id _ ?_
      intro other hother
      rw [hphase]
      exact hother
  · next pending hphase =>
    split
    · exact .stay s _
    · next hpending =>
      refine .stops id _ (.inr ⟨pending, hphase, not_not.mp hpending⟩) ?_
      intro other hother
      by_cases hsame : other = id
      · exact .inl hsame
      · rw [hphase]
        exact .inr fun hmem => hother ((List.mem_erase_of_ne hsame).mpr hmem)
  · exact .stay s _

theorem supervise_move (s : RelaySystem) : Move s .supervise s.supervise := by
  unfold supervise
  split
  · next routes hphase =>
    refine .goes _ ?_
    intro id worker _ hid
    rw [hphase]
    exact ⟨by simp, hid⟩
  · next routes id pending hphase =>
    refine .unreadies id _ (by rw [hphase]; exact .inl rfl) ?_
    intro other hother
    rw [hphase]
    exact .inr hother
  · next routes hphase =>
    refine .goes _ ?_
    intro id worker _ hid
    rw [hphase]
    exact hid
  · next routes hphase =>
    cases routes with
    | nil =>
      refine .clears _ _ _ ?_ fun _ h => h.elim
      intro id
      rw [hphase]
      rfl
    | cons route routes => exact .goes _ fun _ _ _ h => h.elim
  · exact .goes _ fun _ _ _ h => h.elim
  · exact .spawns _ _ fun _ h => h
  · next error hphase => exact .fails error hphase
  · next hphase =>
    refine .goes _ ?_
    intro id worker _ _
    rw [hphase]
    exact List.not_mem_nil
  · next hphase =>
    split
    · refine .goes _ ?_
      intro id worker _ _
      rw [hphase]
      trivial
    · exact .stay s _
  · next hphase =>
    refine .clears _ _ _ ?_ fun _ h => h.elim
    intro id
    rw [hphase]
    trivial
  · exact .stay s _

theorem mem_keys_of_getElem? {workers : ExtTreeMap String RelayWorker} {id : String}
    {worker : RelayWorker} (h : workers[id]? = some worker) : id ∈ workers.keys := by
  rw [ExtTreeMap.mem_keys, ExtTreeMap.mem_iff_isSome_getElem?, h]
  rfl

/-- A turn is one of the supervisor, one of a worker, or the stop flag of the owner. -/
theorem step_cases (s : RelaySystem) (turn : RelayTurn) :
    Move s turn (s.step turn).1 ∨ (turn = .requestStop ∧ (s.step turn).1 = { s with stop := true }) ∨
      ∃ id act, turn = .worker id act ∧ (s.step turn).1 = s.advanceWorker id act := by
  cases turn with
  | requestStop => exact .inr (.inl ⟨rfl, rfl⟩)
  | configured result =>
    left
    show Move s (.configured result) (match s.phase, result with
      | .configuring, .ok () => { s with phase := .polling }
      | .configuring, .error error =>
        { s with phase := .ended, runtime := s.runtime.update "failed" (some error) }
      | _, _ => s)
    split
    · exact .goes _ fun _ _ _ h => h.elim
    · next error hphase =>
      refine .clears _ _ _ ?_ fun _ h => h.elim
      intro id
      rw [hphase]
      trivial
    · exact .stay s _
  | poll routes =>
    left
    show Move s (.poll routes) (match s.phase with
      | .polling =>
        if s.stop then { s with phase := .halting s.workers.keys }
        else
          match routes with
          | .ok routes => { s with phase := .retiring routes s.workers.keys }
          | .error error => { s with phase := .failing error }
      | _ => s)
    split
    · split
      · exact .goes _ fun id worker hworker h => absurd (mem_keys_of_getElem? hworker) h
      · split
        · exact .goes _ fun id worker hworker h => absurd (mem_keys_of_getElem? hworker) h.1
        · exact .goes _ fun _ _ _ h => h.elim
    · exact .stay s _
  | visit id => exact .inl (visit_move s id)
  | supervise => exact .inl (supervise_move s)
  | worker id act => exact .inr (.inr ⟨id, act, rfl, rfl⟩)

/-- The list is right about every worker, and the workers that had to be stopped are. -/
structure Listed (s : RelaySystem) : Prop where
  agrees : ∀ (id : String) (worker : RelayWorker), s.workers[id]? = some worker →
    worker.Agrees id (id ∈ s.runtime.readyRoutes)
  known : ∀ id ∈ s.runtime.readyRoutes, ∃ worker, s.workers[id]? = some worker
  stopped : ∀ (id : String) (worker : RelayWorker), s.workers[id]? = some worker →
    s.phase.Retired id → worker.stop = true

/-- Stopped workers are off the list. -/
def AllSilent (s : RelaySystem) : Prop :=
  ∀ (id : String) (worker : RelayWorker), s.workers[id]? = some worker →
    worker.Silent (id ∈ s.runtime.readyRoutes)

theorem getElem?_stopWorker (workers : ExtTreeMap String RelayWorker) (id other : String) :
    (stopWorker workers id)[other]? =
      workers[other]?.map fun worker => if id = other then { worker with stop := true } else worker := by
  unfold stopWorker
  by_cases hsame : id = other
  · subst hsame
    cases hworker : workers[id]? with
    | none => simp [hworker]
    | some worker => simp
  · cases hworker : workers[id]? with
    | none => simp [hsame]
    | some worker => simp [getElem?_insert, hsame]

theorem getElem?_reapWorker (workers : ExtTreeMap String RelayWorker) (id other : String) :
    (reapWorker workers id)[other]? = workers[other]? ∨
      (reapWorker workers id)[other]? = none ∧
        ∃ worker : RelayWorker, workers[other]? = some worker ∧ worker.phase = .finished := by
  unfold reapWorker
  cases hworker : workers[id]? with
  | none => exact .inl rfl
  | some worker =>
    dsimp only
    split
    · next hfinished =>
      by_cases hsame : id = other
      · subst hsame
        exact .inr ⟨by simp, worker, hworker, hfinished⟩
      · exact .inl (by simp [getElem?_erase, hsame])
    · exact .inl rfl

theorem getElem?_spawn (workers : ExtTreeMap String RelayWorker) (route : RouteRegistration)
    (other : String) :
    (spawn workers route)[other]? = workers[other]? ∨
      (other = route.routeId ∧ workers[other]? = none ∧
        (spawn workers route)[other]? = some ⟨route, false, 0, .checking⟩) := by
  unfold spawn
  split
  · exact .inl rfl
  · next hroom =>
    rw [Bool.not_eq_true, Bool.or_eq_false_iff] at hroom
    have habsent : workers[route.routeId]? = none :=
      ExtTreeMap.getElem?_eq_none_of_contains_eq_false hroom.1
    by_cases hsame : route.routeId = other
    · subst hsame
      exact .inr ⟨rfl, habsent, by simp⟩
    · exact .inl (by simp [getElem?_insert, hsame])

/-- The supervisor keeps the list right, if it reports failures only while no report stands. -/
theorem Move.listed {s t : RelaySystem} {turn : RelayTurn} (hmove : Move s turn t) (h : Listed s)
    (hkeeps : s.KeepsReports turn) : Listed t := by
  cases hmove with
  | goes phase hretired =>
    exact ⟨h.agrees, h.known, fun id worker hworker hphase =>
      h.stopped id worker hworker (hretired id worker hworker hphase)⟩
  | stops id phase hstops hretired =>
    refine ⟨?_, ?_, ?_⟩
    · intro other worker hworker
      rw [getElem?_stopWorker] at hworker
      obtain ⟨old, hold, rfl⟩ := Option.map_eq_some_iff.mp hworker
      obtain ⟨hroute, hsound, hcomplete⟩ := h.agrees other old hold
      split
      · exact ⟨hroute, hsound, fun hstop => nomatch hstop⟩
      · exact ⟨hroute, hsound, hcomplete⟩
    · intro other hother
      obtain ⟨worker, hworker⟩ := h.known other hother
      exact ⟨_, by rw [getElem?_stopWorker, hworker]; rfl⟩
    · intro other worker hworker hphase
      rw [getElem?_stopWorker] at hworker
      obtain ⟨old, hold, rfl⟩ := Option.map_eq_some_iff.mp hworker
      split
      · rfl
      · next hother =>
        rcases hretired other hphase with rfl | hbefore
        · exact absurd rfl hother
        · exact h.stopped other old hold hbefore
  | unreadies id phase hid hretired =>
    have hmem := RelayRuntimeSnapshot.mem_unready s.runtime id none
    refine ⟨?_, ?_, fun other worker hworker hphase =>
      h.stopped other worker hworker (hretired other hphase)⟩
    · intro other worker hworker
      obtain ⟨hroute, hsound, hcomplete⟩ := h.agrees other worker hworker
      refine ⟨hroute, fun hlisted => hsound ((hmem other).mp hlisted).1, ?_⟩
      intro hstop hwaits
      refine (hmem other).mpr ⟨hcomplete hstop hwaits, ?_⟩
      rintro rfl
      rw [h.stopped other worker hworker hid] at hstop
      cases hstop
    · intro other hother
      exact h.known other ((hmem other).mp hother).1
  | clears phase health error hall hretired =>
    refine ⟨?_, ?_, fun other worker hworker hphase =>
      h.stopped other worker hworker (hretired other hphase)⟩
    · intro other worker hworker
      refine ⟨(h.agrees other worker hworker).route,
        fun hlisted => absurd hlisted List.not_mem_nil, ?_⟩
      intro hstop
      rw [h.stopped other worker hworker (hall other)] at hstop
      cases hstop
    · intro other hother
      exact absurd hother List.not_mem_nil
  | reaps id phase hretired =>
    have hkept : ∀ (other : String) (worker : RelayWorker),
        (reapWorker s.workers id)[other]? = some worker → s.workers[other]? = some worker := by
      intro other worker hworker
      rcases getElem?_reapWorker s.workers id other with hsame | ⟨hnone, -⟩
      · rw [← hsame, hworker]
      · rw [hnone] at hworker
        cases hworker
    refine ⟨fun other worker hworker => h.agrees other worker (hkept other worker hworker), ?_,
      fun other worker hworker hphase =>
        h.stopped other worker (hkept other worker hworker) (hretired other hphase)⟩
    intro other hother
    obtain ⟨worker, hworker⟩ := h.known other hother
    rcases getElem?_reapWorker s.workers id other with hsame | ⟨-, found, hfound, hfinished⟩
    · exact ⟨worker, hsame.trans hworker⟩
    · -- a finished worker is not on the list
      have hlisted := (h.agrees other found hfound).sound hother
      rw [hfinished] at hlisted
      rcases hlisted with hwaits | hreturned
      · cases hwaits
      · cases hreturned
  | spawns route phase hretired =>
    refine ⟨?_, ?_, fun other _ _ hphase => absurd hphase (hretired other)⟩
    · intro other worker hworker
      rcases getElem?_spawn s.workers route other with hsame | ⟨rfl, hnone, hnew⟩
      · exact h.agrees other worker (hsame ▸ hworker)
      · cases hnew.symm.trans hworker
        refine ⟨rfl, fun hlisted => ?_, fun _ hwaits => nomatch hwaits⟩
        obtain ⟨found, hfound⟩ := h.known _ hlisted
        rw [hnone] at hfound
        cases hfound
    · intro other hother
      obtain ⟨worker, hworker⟩ := h.known other hother
      rcases getElem?_spawn s.workers route other with hsame | ⟨-, hnone, -⟩
      · exact ⟨worker, hsame.trans hworker⟩
      · rw [hnone] at hworker
        cases hworker
  | fails error hphase =>
    refine ⟨?_, ?_, fun _ _ _ hretired => hretired.elim⟩
    · intro other worker hworker
      refine ⟨(h.agrees other worker hworker).route,
        fun hlisted => absurd hlisted List.not_mem_nil, ?_⟩
      intro hstop hwaits
      rw [hkeeps error rfl hphase other worker hworker hstop] at hwaits
      cases hwaits
    · intro other hother
      exact absurd hother List.not_mem_nil

theorem advanceWorker_listed {s : RelaySystem} (h : Listed s) (id : String) (turn : WorkerTurn) :
    Listed (s.advanceWorker id turn) := by
  unfold advanceWorker
  cases hworker : s.workers[id]? with
  | none => exact h
  | some worker =>
    obtain ⟨hagrees, hothers⟩ :=
      RelayWorker.advance_continues (h.agrees id worker hworker) turn
    dsimp only
    refine ⟨?_, ?_, ?_⟩
    · intro other next hnext
      dsimp only at hnext ⊢
      rw [getElem?_insert] at hnext
      split at hnext
      · next heq =>
        cases hnext
        exact heq ▸ hagrees
      · next hne =>
        obtain ⟨hroute, hsound, hcomplete⟩ := h.agrees other next hnext
        have hother := hothers other fun heq => hne heq.symm
        exact ⟨hroute, fun hlisted => hsound (hother.mp hlisted),
          fun hstop hwaits => hother.mpr (hcomplete hstop hwaits)⟩
    · intro other hother
      dsimp only at hother ⊢
      rw [getElem?_insert]
      split
      · exact ⟨_, rfl⟩
      · next hne => exact h.known other ((hothers other fun heq => hne heq.symm).mp hother)
    · intro other next hnext hretired
      dsimp only at hnext
      rw [getElem?_insert] at hnext
      split at hnext
      · next heq =>
        cases hnext
        rw [RelayWorker.advance_stop]
        exact h.stopped id worker hworker (heq ▸ hretired)
      · exact h.stopped other next hnext hretired

theorem step_listed {s : RelaySystem} {turn : RelayTurn} (hkeeps : s.KeepsReports turn)
    (h : Listed s) : Listed (s.step turn).1 := by
  rcases step_cases s turn with hmove | ⟨-, hstop⟩ | ⟨id, act, -, hact⟩
  · exact hmove.listed h hkeeps
  · rw [hstop]
    exact ⟨h.agrees, h.known, h.stopped⟩
  · rw [hact]
    exact advanceWorker_listed h id act

/-- The supervisor leaves stopped workers off the list, if it stops only silent ones. -/
theorem Move.silent {s t : RelaySystem} {turn : RelayTurn} (hmove : Move s turn t)
    (hlisted : Listed s) (hstops : s.StopsSilent turn) (h : AllSilent s) : AllSilent t := by
  cases hmove with
  | goes phase hretired => exact h
  | stops id phase hid hretired =>
    intro other worker hworker
    rw [getElem?_stopWorker] at hworker
    obtain ⟨old, hold, rfl⟩ := Option.map_eq_some_iff.mp hworker
    by_cases hsame : id = other
    · subst hsame
      rw [if_pos rfl]
      intro _
      rcases hstops id old rfl hid hold with hstopped | ⟨hwaits, hreadying⟩
      · exact h id old hold hstopped
      · refine ⟨fun hmem => ?_, hreadying⟩
        rcases (hlisted.agrees id old hold).sound hmem with hwaiting | hreturned
        · rw [hwaits] at hwaiting
          cases hwaiting
        · exact hreturned
    · rw [if_neg hsame]
      exact h other old hold
  | unreadies id phase hid hretired =>
    intro other worker hworker hstop
    obtain ⟨hsilent, hreadying⟩ := h other worker hworker hstop
    exact ⟨fun hmem => hsilent ((RelayRuntimeSnapshot.mem_unready _ _ _ _).mp hmem).1, hreadying⟩
  | clears phase health error hall hretired =>
    intro other worker hworker hstop
    exact ⟨fun hmem => absurd hmem List.not_mem_nil, (h other worker hworker hstop).2⟩
  | reaps id phase hretired =>
    intro other worker hworker
    rcases getElem?_reapWorker s.workers id other with hsame | ⟨hnone, -⟩
    · exact h other worker (hsame ▸ hworker)
    · rw [hnone] at hworker
      cases hworker
  | spawns route phase hretired =>
    intro other worker hworker
    rcases getElem?_spawn s.workers route other with hsame | ⟨-, -, hnew⟩
    · exact h other worker (hsame ▸ hworker)
    · cases hnew.symm.trans hworker
      exact fun hstop => nomatch hstop
  | fails error hphase =>
    intro other worker hworker hstop
    exact ⟨fun hmem => absurd hmem List.not_mem_nil, (h other worker hworker hstop).2⟩

theorem advanceWorker_silent {s : RelaySystem} (hlisted : Listed s) (h : AllSilent s) (id : String)
    (turn : WorkerTurn) : AllSilent (s.advanceWorker id turn) := by
  unfold advanceWorker
  cases hworker : s.workers[id]? with
  | none => exact h
  | some worker =>
    have hagrees := hlisted.agrees id worker hworker
    have hothers := (RelayWorker.advance_continues hagrees turn).others
    intro other next hnext
    dsimp only at hnext ⊢
    rw [getElem?_insert] at hnext
    split at hnext
    · next heq =>
      cases hnext
      exact heq ▸ RelayWorker.advance_silent hagrees.route (h id worker hworker) turn
    · next hne =>
      intro hstop
      obtain ⟨hsilent, hreadying⟩ := h other next hnext hstop
      exact ⟨fun hmem => hsilent ((hothers other fun heq => hne heq.symm).mp hmem), hreadying⟩

theorem step_silent {s : RelaySystem} {turn : RelayTurn} (hlisted : Listed s)
    (hstops : s.StopsSilent turn) (h : AllSilent s) : AllSilent (s.step turn).1 := by
  rcases step_cases s turn with hmove | ⟨-, hstop⟩ | ⟨id, act, -, hact⟩
  · exact hmove.silent hlisted hstops h
  · rw [hstop]
    exact h
  · rw [hact]
    exact advanceWorker_silent hlisted h id act

theorem listed_initial : Listed initial where
  agrees id worker hworker := by simp [initial] at hworker
  known id hid := by simp [initial, RelayRuntimeSnapshot.new] at hid
  stopped id worker hworker := by simp [initial] at hworker

theorem run_listed {turns : List RelayTurn} (h : Trace.Along step KeepsReports initial turns) :
    Listed (after turns) :=
  Trace.along_invariant step KeepsReports Listed (fun _ _ hs hkeeps => step_listed hkeeps hs) h
    listed_initial

/-- The condition on one step. -/
def Undisturbed (self : RelaySystem) (turn : RelayTurn) : Prop :=
  self.KeepsReports turn ∧ self.StopsSilent turn

theorem run_silent {turns : List RelayTurn} (h : Trace.Along step Undisturbed initial turns) :
    Listed (after turns) ∧ AllSilent (after turns) := by
  refine Trace.along_invariant step Undisturbed (fun s => Listed s ∧ AllSilent s) ?_ h
    ⟨listed_initial, fun id worker hworker => by simp [initial] at hworker⟩
  rintro s turn ⟨hlisted, hsilent⟩ ⟨hkeeps, hstops⟩
  exact ⟨step_listed hkeeps hlisted, step_silent hlisted hstops hsilent⟩

/-- Outside the writes of the workers: a standing report is on the list, and what is on the
list is a report of a current call, which the supervisor may have told to stop. -/
theorem Listed.reported {s : RelaySystem} (h : Listed s) (hquiet : s.Quiet) (id : String) :
    (s.Standing id → id ∈ s.runtime.readyRoutes) ∧
      (id ∈ s.runtime.readyRoutes →
        ∃ worker, s.workers[id]? = some worker ∧ worker.phase = .connecting true) := by
  constructor
  · rintro ⟨worker, hworker, hphase, hstop⟩
    exact (h.agrees id worker hworker).complete hstop (by rw [hphase]; rfl)
  · intro hid
    obtain ⟨worker, hworker⟩ := h.known id hid
    obtain ⟨hreturned, hreadying⟩ := hquiet id worker hworker
    refine ⟨worker, hworker, ?_⟩
    have hlisted := (h.agrees id worker hworker).sound hid
    cases hphase : worker.phase with
    | connecting reported =>
      rw [hphase] at hlisted
      rcases hlisted with hwaits | hback
      · exact congrArg WorkerPhase.connecting hwaits
      · cases hback
    | readying reported => exact absurd hphase (hreadying reported)
    | returned result => exact absurd hphase (hreturned result)
    | _ =>
      rw [hphase] at hlisted
      rcases hlisted with hwaits | hback
      · cases hwaits
      · cases hback

end RelaySystem

open RelaySystem in
/-- In every state of a run in which the supervisor reports no failure while a report stands,
the standing reports are on the list, and the list has only reports of current calls. If it
also stops no worker with such a report, the list is exactly that of the standing reports. -/
theorem relay_readiness_accurate (turns : List RelayTurn)
    (hkeeps : Trace.Along step KeepsReports initial turns) :
    ((after turns).Quiet → ∀ id,
      ((after turns).Standing id → id ∈ (after turns).runtime.readyRoutes) ∧
      (id ∈ (after turns).runtime.readyRoutes →
        ∃ worker, (after turns).workers[id]? = some worker ∧ worker.phase = .connecting true)) ∧
    (Trace.Along step StopsSilent initial turns → (after turns).Accurate) := by
  refine ⟨fun hquiet id => (run_listed hkeeps).reported hquiet id, ?_⟩
  intro hstops hquiet id
  obtain ⟨hlisted, hsilent⟩ := run_silent (Trace.along_and hkeeps hstops)
  obtain ⟨hcomplete, hsound⟩ := hlisted.reported hquiet id
  refine ⟨?_, hcomplete⟩
  intro hid
  obtain ⟨worker, hworker, hphase⟩ := hsound hid
  refine ⟨worker, hworker, hphase, ?_⟩
  cases hstop : worker.stop with
  | false => rfl
  | true =>
    have hreturned := (hsilent id worker hworker hstop).1 hid
    rw [hphase] at hreturned
    cases hreturned

namespace Sample

def relayRoute : RouteRegistration := ⟨"route-a", ""⟩

/-- One device, whose worker registers and waits. -/
def relayTurns : List RelayTurn :=
  [.configured (.ok ()), .poll (.ok [relayRoute]), .supervise, .supervise, .supervise, .supervise,
    .worker "route-a" .proceed, .worker "route-a" .waiting, .worker "route-a" .proceed]

/-- The supervisor goes on to a poll that cannot read the store. -/
def failedPoll : List RelayTurn := relayTurns ++ [.supervise, .poll (.error "locked"), .supervise]

def isFailing : SupervisorPhase → Bool
  | .failing _ => true
  | _ => false

def isVisit : RelayTurn → Bool
  | .visit _ => true
  | _ => false

/-- A turn that neither reports a failure nor looks at a worker. -/
theorem undisturbed_of {s : RelaySystem} {turn : RelayTurn}
    (h : (isFailing s.phase || isVisit turn) = false) :
    s.KeepsReports turn ∧ s.StopsSilent turn := by
  obtain ⟨hphase, hturn⟩ := Bool.or_eq_false_iff.mp h
  constructor
  · intro error _ hfailing
    rw [hfailing] at hphase
    cases hphase
  · intro id worker hvisit
    rw [hvisit] at hturn
    cases hturn

theorem relayTurns_undisturbed :
    Trace.Along RelaySystem.step RelaySystem.Undisturbed RelaySystem.initial relayTurns :=
  Trace.along_mono RelaySystem.step (fun _ _ h => undisturbed_of h) (by decide +kernel :
    Trace.Along RelaySystem.step (fun s turn => (isFailing s.phase || isVisit turn) = false)
      RelaySystem.initial relayTurns)

end Sample

open Sample RelaySystem in
/-- A route that waits is listed. -/
theorem relay_readiness_accurate_waiting :
    (after relayTurns).runtime.readyRoutes = ["route-a"] ∧ (after relayTurns).Accurate := by
  refine ⟨by decide +kernel, (relay_readiness_accurate relayTurns ?_).2 ?_⟩
  · exact Trace.along_mono step (fun _ _ h => h.1) relayTurns_undisturbed
  · exact Trace.along_mono step (fun _ _ h => h.2) relayTurns_undisturbed

open Sample RelaySystem in
/-- After one failed read of the store the list is empty, though the route still waits. -/
theorem relay_readiness_lost :
    (after failedPoll).runtime.readyRoutes = [] ∧ (after failedPoll).Standing "route-a" ∧
      (after failedPoll).Quiet := by
  have hworker : (after failedPoll).workers[("route-a" : String)]? =
      some ⟨relayRoute, false, 0, .connecting true⟩ := by decide +kernel
  have hkeys : (after failedPoll).workers.keys = ["route-a"] := by decide +kernel
  refine ⟨by decide +kernel, ⟨_, hworker, rfl, rfl⟩, ?_⟩
  intro id worker hfound
  have hid : id ∈ (after failedPoll).workers.keys := mem_keys_of_getElem? hfound
  rw [hkeys, List.mem_singleton] at hid
  subst hid
  cases hworker.symm.trans hfound
  exact ⟨fun result => by simp, fun reported => by simp⟩

end AgentPulse
