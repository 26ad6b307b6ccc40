import Convoy.Supervisor

/-!
# Bringing a topology up

Every service starts on its own: it waits for its dependencies one after another, passes their
gates, and launches its instances. A one-shot service is up when all its instances have ended well.
The services know of each other only through their status. The task of a service can crash, because
a gate needs an instant after the end of the clock, or because a call does not return. Then the
service has the status that it had before.
-/

namespace Convoy

/-- How far a service has come, as the others see it. -/
inductive Status where
  | pending
  | running
  | completed
  | failed
  deriving DecidableEq

namespace Status

/-- Whether a status ends the wait for a dependency. -/
def settles : Condition → Status → Bool
  | .reachable, status => status != .pending
  | .completed, status => status == .completed || status == .failed

end Status

/-- A gate that a service is passing. -/
structure Visit where
  gate : Gate
  begun : Duration
  /-- How many attempts have been started. -/
  attempts : Nat
  /-- When the latest of them started. -/
  started : Duration
  deriving DecidableEq

namespace Visit

def deadline (visit : Visit) : Duration := visit.begun + visit.gate.timeout

/-- The attempt under way, if it ends at an instant. -/
def attempt (visit : Visit) (finished : Duration) (refusal : Option String) : Attempt :=
  ⟨visit.started, visit.gate.budget visit.deadline visit.started, finished, refusal⟩

/-- The log line about the attempt under way, if it ends at an instant. -/
def line (visit : Visit) (finished : Duration) (refusal : Option String) : LogLine :=
  visit.gate.attemptLine visit.begun visit.attempts (visit.attempt finished refusal)

/-- When the next attempt is due, if the one under way ends at an instant. A timer may be late, so
that this is the earliest instant at which it is made. -/
def nextStart (visit : Visit) (finished : Duration) : Duration :=
  visit.gate.nextStart .exact visit.deadline visit.started finished

end Visit

/-- What a starting service is doing. -/
inductive Stage where
  /-- It waits until the first of these dependencies has come far enough. -/
  | awaiting (dependencies : List Dependency)
  /-- An attempt to connect is under way. -/
  | connecting (visit : Visit) (dependency : Dependency) (rest : List Dependency)
  /-- The next attempt is due at an instant. -/
  | pausing (visit : Visit) (due : Duration) (dependency : Dependency) (rest : List Dependency)
  /-- The instance with an index is being launched; those before it are given. -/
  | launching (index : Nat) (launched : List Instance)
  /-- A one-shot service waits for its instances to end, one after another. -/
  | draining (current : Instance) (rest : List Instance)
  | ended (failure : Option Failure)
  /-- It has been called off; the others still see the status that it had then. -/
  | cancelled (reached : Status)
  /-- It has crashed, which is told by a failure; the others still see the status that it had then. -/
  | crashed (reached : Status) (failure : Failure)
  deriving DecidableEq

namespace Stage

/-- The status of a service in a stage. -/
def status (oneShot : Bool) : Stage → Status
  | draining .. => .running
  | ended none => if oneShot then .completed else .running
  | ended (some _) => .failed
  | cancelled reached => reached
  | crashed reached _ => reached
  | _ => .pending

/-- Whether a service has nothing more to do. -/
def isOver : Stage → Bool
  | ended _ => true
  | cancelled _ => true
  | crashed .. => true
  | _ => false

/-- Whether a service has come to an end that is to be noted. -/
def hasEnded : Stage → Bool
  | ended _ => true
  | crashed .. => true
  | _ => false

/-- Whether a service waits for a call to return. -/
def isCalling : Stage → Bool
  | connecting .. => true
  | launching .. => true
  | draining .. => true
  | _ => false

def isCancelled : Stage → Bool
  | cancelled _ => true
  | _ => false

/-- The failure with which a stage ended, if it did. -/
def failure? : Stage → Option Failure
  | ended failure => failure
  | crashed _ failure => some failure
  | _ => none

end Stage

/-- The services of a topology while they start. -/
structure Startup where
  stages : Dictionary Stage
  /-- The services whose end has been noted, in that order. -/
  joined : List String
  deriving DecidableEq

namespace Startup

/-- All services before anything happened. -/
def ofTopology (topology : Topology) : Startup where
  stages := .ofList (topology.services.map fun service =>
    (service.name, .awaiting service.dependsOn))
  joined := []

/-- The status of a service; a name that is none counts as failed. -/
def statusOf (topology : Topology) (startup : Startup) (name : String) : Status :=
  match topology.service? name, startup.stages.get? name with
  | some service, some stage => stage.status service.role.isOneShot
  | _, _ => .failed

def setStage (startup : Startup) (name : String) (stage : Stage) : Startup :=
  { startup with stages := startup.stages.insert name stage }

/-- Whether a failure only tells that another service failed. -/
def isDependencyFailure (failure : Failure) : Bool :=
  match failure.cause with
  | .supervisor (.dependencyFailed ..) => true
  | _ => false

/-- The failures noted so far. -/
def failures (startup : Startup) : List Failure :=
  startup.joined.filterMap fun name => (startup.stages.get? name).bind Stage.failure?

/-- Once a failure with a cause of its own has been noted, the services that are not up are called
off. -/
def isAborting (startup : Startup) : Bool := startup.failures.any (!isDependencyFailure ·)

/-- Whether every service is up or off, and noted. -/
def isSettled (startup : Startup) : Bool :=
  startup.stages.entries.all fun entry => entry.2.isCancelled || startup.joined.contains entry.1

/-- The failure of the whole startup; one with a cause of its own is preferred. -/
def failure? (startup : Startup) : Option Failure :=
  (startup.failures.find? (!isDependencyFailure ·)).or startup.failures.head?

end Startup

namespace Supervisor

/-- What is told about the crash of a service. -/
def crashFailure (supervisor : Supervisor) (service : Service) : Failure :=
  (Failure.ofText (supervisor.crashText service.name)).within "Startup task panicked"

/-- The task of a service crashes. -/
def crash (supervisor : Supervisor) (service : Service) (stage : Stage) : Stage :=
  .crashed (stage.status service.role.isOneShot) (supervisor.crashFailure service)

/-- Starts the next attempt at a gate, or gives up if the time is over. The clock has to reach the
deadline, which can fail only at the first attempt. -/
def attempt (supervisor : Supervisor) (service : Service) (visit : Visit) (dependency : Dependency)
    (rest : List Dependency) (now : Duration) : Move Stage :=
  if now < visit.deadline then
    if visit.deadline.IsInstant then
      let started := { visit with attempts := visit.attempts + 1, started := now }
      ⟨.connecting started dependency rest,
        [.request (.connect service.name visit.gate.target (visit.gate.budget visit.deadline now))]⟩
    else .still (.crashed .pending (supervisor.crashFailure service))
  else .still (.ended (some (visit.gate.timeoutError visit.attempts : Failure)))

/-- The wait for a dependency is over. -/
def passGate (service : Service) (dependency : Dependency) (rest : List Dependency) : Move Stage :=
  ⟨.awaiting rest, [.event service.name (.gatePassed dependency.service)]⟩

/-- Waits until the instances of a one-shot service have ended. -/
def drain (service : Service) : List Instance → Move Stage
  | [] =>
    ⟨.ended none, [.line (.info s!"✓ {service.name} completed"), .event service.name .completed]⟩
  | current :: rest => ⟨.draining current rest, [.request (.awaitExit current)]⟩

/-- Launches the instance with an index, or goes on if there is none. -/
def launch (supervisor : Supervisor) (service : Service) (index : Nat) (launched : List Instance) :
    Move Stage :=
  if index < service.replicas then
    ⟨.launching index launched, [supervisor.startRequest ⟨service.name, index⟩]⟩
  else if service.role.isOneShot then drain service launched
  else .still (.ended none)

/-- A service goes on, if the dependency it waits for has come far enough. -/
def resume? (supervisor : Supervisor) (startup : Startup) (service : Service) (now : Duration) :
    List Dependency → Option (Move Stage)
  | [] => some (supervisor.launch service 0 [])
  | dependency :: rest =>
    let status := startup.statusOf supervisor.topology dependency.service
    if status.settles dependency.condition then
      if status == .failed then
        some (.still (.ended (some
          (SupervisorError.dependencyFailed service.name dependency.service : Failure))))
      else
        match dependency.condition, supervisor.gateFor? service dependency.service with
        | .reachable, some gate =>
          let line := LogLine.debug
            (s!"{service.name} waiting for {dependency.service} at " ++ gate.target.target)
          some ((supervisor.attempt service ⟨gate, now, 0, now⟩ dependency rest now).after
            [.line line])
        | _, _ => some (passGate service dependency rest)
    else none

/-- An attempt to connect has ended. If it was refused, the clock has to reach the end of its
interval. -/
def finishAttempt (supervisor : Supervisor) (service : Service) (visit : Visit)
    (dependency : Dependency) (rest : List Dependency) (now : Duration) (refusal : Option String) :
    Move Stage :=
  (match refusal with
    | none => passGate service dependency rest
    | some _ =>
      if (visit.started + visit.gate.pollInterval).IsInstant then
        .still (.pausing visit (visit.nextStart now) dependency rest)
      else .still (.crashed .pending (supervisor.crashFailure service))).after
    [.line (visit.line now refusal)]

/-- A launch has ended. -/
def finishLaunch (supervisor : Supervisor) (service : Service) (board : Board) (index : Nat)
    (launched : List Instance) : Option Failure → Move (Stage × Board)
  | some failure =>
    let slot : Slot := ⟨service.name, index⟩
    .still (.ended (some (failure.within ("Failed to start " ++ slot.text))), board)
  | none =>
    let slot : Slot := ⟨service.name, index⟩
    let filled := board.nextInstance slot
    let line := LogLine.info
      ("▶ Started " ++ slot.text ++ " (" ++ supervisor.instanceText filled.id ++ ")")
    ((supervisor.launch service (index + 1) (launched ++ [filled])).map (·, board.enter slot)).after
      [.line line, .event service.name (.started index)]

/-- An instance of a one-shot service has ended. -/
def finishExit (service : Service) (board : Board) (current : Instance) (rest : List Instance) :
    Except Failure (Option Int) → Move (Stage × Board)
  | .error failure => .still (.ended (some failure), board)
  | .ok code =>
    let left := board.forget current.id
    if code = some 0 then (drain service rest).map (·, left)
    else .still (.ended (some (SupervisorError.oneShotFailed service.name code : Failure)), left)

end Supervisor

end Convoy
