import Convoy.Supervisor.Control
import Convoy.Supervisor.Startup

/-!
# Runs of a supervisor

A run goes through phases: the topology is brought up, then kept healthy, and at the end all live
instances are stopped in the reverse of the order in which their slots were filled. `step?` says
what the supervisor does when something happens, and refuses what cannot happen in its state. Any
sequence of happenings that it accepts is a run, so that statements about all sequences cover all
surroundings and all interleavings.
-/

namespace Convoy

/-- What can happen in a run. -/
inductive Happening where
  /-- A starting service finds that the dependency it waits for has come far enough. -/
  | resumed (service : String)
  /-- The next attempt of a starting service is due. -/
  | retried (service : String)
  | attemptEnded (service : String) (refusal : Option String)
  | startEnded (slot : Slot) (failure : Option Failure)
  | stopEnded (target : Instance) (failure : Option Failure)
  | exited (target : Instance) (outcome : Except Failure (Option Int))
  /-- A starting service is called off because another one has failed. -/
  | cancelled (service : String)
  /-- A call of a starting service does not return: its task crashes. -/
  | crashed (service : String)
  /-- The end of a starting service is noted. -/
  | joined (service : String)
  /-- All services are up or off. -/
  | settled
  /-- A monitor has asked its instance. -/
  | probed (slot : Slot) (kind : ProbeKind) (passed : Bool)
  /-- The control loop takes a report. -/
  | handled
  | shutdown

/-- What a supervisor is doing. -/
inductive Phase where
  | starting (startup : Startup)
  | supervising (control : Control)
  | repairing (control : Control) (repair : Repair)
  /-- The given instance is being stopped, the others after it. -/
  | stopping (current : Instance) (rest : List Instance) (failure : Option Failure)
  | ended (failure : Option Failure)
  deriving DecidableEq

/-- A moment in a run. -/
structure Supervisor.State where
  now : Duration
  phase : Phase
  board : Board
  deriving DecidableEq

namespace Supervisor

/-- The beginning of a run. -/
def State.initial (supervisor : Supervisor) : State :=
  ⟨.zero, .starting (.ofTopology supervisor.topology), .empty⟩

/-! ## Taking a topology down -/

/-- Stops the given instances one after another. -/
def stopEach (failure : Option Failure) (board : Board) : List Instance → Move (Phase × Board)
  | [] => .still (.ended failure, board)
  | current :: rest =>
    ⟨(.stopping current rest failure, board.unroute current.slot), [.request (.stop current)]⟩

/-- Stops all live instances, those launched last first. -/
def stopAll (failure : Option Failure) (board : Board) : Move (Phase × Board) :=
  stopEach failure { board with running := [] } board.running.reverse

/-- What is told about a stop that has ended. -/
def stopEffects (stopped : Instance) : Option Failure → List Effect
  | none =>
    [.line (.info ("■ Stopped " ++ stopped.slot.text)),
      .event stopped.slot.service (.stopped stopped.slot.index)]
  | some reason =>
    [.line (.warn ("Failed to stop " ++ stopped.slot.text ++ ": " ++ reason.message))]

/-! ## Steps -/

/-- The phase that the control loop is in. -/
def ofLoop (progress : Loop) : Move (Phase × Board) :=
  match progress.progress with
  | .done => .still (.supervising progress.control, progress.board)
  | .repairing repair => .still (.repairing progress.control repair, progress.board)
  | .broken failure =>
    (stopAll (some failure) progress.board).after [.line (.error failure.message)]

/-- The startup is over: the topology is watched, or taken down. -/
def settle (supervisor : Supervisor) (now : Duration) (startup : Startup) (board : Board) :
    Move (Phase × Board) :=
  match startup.failure? with
  | some failure =>
    (stopAll (some failure) board).after [.line (.error ("Startup failed: " ++ failure.message))]
  | none =>
    ((supervisor.watchAll now board).map fun (control, routed) => (.supervising control, routed)).after
      [.line (.info ("✓ All services of '" ++ supervisor.topology.name ++ "' started"))]

/-- The move of one starting service. -/
def stageStep? (supervisor : Supervisor) (now : Duration) (startup : Startup) (board : Board)
    (service : Service) : Stage → Happening → Option (Move (Stage × Board))
  | .awaiting dependencies, .resumed _ =>
    (supervisor.resume? startup service now dependencies).map fun move => move.map (·, board)
  | .connecting visit dependency rest, .attemptEnded _ refusal =>
    some ((supervisor.finishAttempt service visit dependency rest now refusal).map (·, board))
  | .pausing visit due dependency rest, .retried _ =>
    if due ≤ now then some ((supervisor.attempt service visit dependency rest now).map (·, board))
    else none
  | .launching index launched, .startEnded slot failure =>
    if slot.index = index then some (supervisor.finishLaunch service board index launched failure)
    else none
  | .draining current rest, .exited target outcome =>
    if target = current then some (finishExit service board current rest outcome) else none
  | stage, .cancelled _ =>
    if startup.isAborting && !stage.isOver then
      some (.still (.cancelled (stage.status service.role.isOneShot), board))
    else none
  | stage, .crashed _ =>
    if stage.isCalling then some (.still (supervisor.crash service stage, board)) else none
  | _, _ => none

/-- The name of the starting service that something happens to. -/
def concerned? : Happening → Option String
  | .resumed service => some service
  | .retried service => some service
  | .attemptEnded service _ => some service
  | .startEnded slot _ => some slot.service
  | .exited target _ => some target.slot.service
  | .cancelled service => some service
  | .crashed service => some service
  | _ => none

/-- The step of a starting service. -/
def serviceStep? (supervisor : Supervisor) (now : Duration) (startup : Startup) (board : Board)
    (happening : Happening) : Option (Move (Phase × Board)) := do
  let name ← concerned? happening
  let service ← supervisor.topology.service? name
  let stage ← startup.stages.get? name
  let move ← supervisor.stageStep? now startup board service stage happening
  return move.map fun (next, after) => (.starting (startup.setStage name next), after)

/-- The step while the topology is brought up. A shutdown drops the tasks of all services at once:
they wait for something, and a task that waits goes no further once it is dropped. Where one of them
has failed, the others are called off one by one, each when its turn comes, and until then they may
go on. -/
def startingStep? (supervisor : Supervisor) (now : Duration) (startup : Startup) (board : Board) :
    Happening → Option (Move (Phase × Board))
  | .joined name =>
    match startup.stages.get? name with
    | some stage =>
      if !stage.hasEnded || startup.joined.contains name then none
      else some (.still (.starting { startup with joined := startup.joined ++ [name] }, board))
    | none => none
  | .settled => if startup.isSettled then some (supervisor.settle now startup board) else none
  | .shutdown =>
    some ((stopAll none board).after [.line (.info "Shutdown requested during startup")])
  | happening => supervisor.serviceStep? now startup board happening

/-- What a monitor does when something happens to its instance. -/
def monitorStep? (supervisor : Supervisor) (now : Duration) (control : Control) :
    Happening → Option Control
  | .probed slot kind passed => do
    let watched ← control.find? slot
    let due ← watched.due.get kind
    if due ≤ now then some (supervisor.post now control watched (.probe kind passed)) else none
  | .exited target outcome => do
    let watched ← control.find? target.slot
    if watched.current = target ∧ watched.awaitsExit then
      match outcome with
      | .ok code => some (supervisor.post now control watched (.exited code))
      | .error _ => some (control.put { watched with awaitsExit := false })
    else none
  | _ => none

/-- What the supervisor does at an instant when something happens, if it can happen then. -/
def step? (supervisor : Supervisor) (now : Duration) (state : State) (happening : Happening) :
    Option (Move State) :=
  if state.now ≤ now then
    let move : Option (Move (Phase × Board)) :=
      match state.phase, happening with
      | .starting startup, _ => supervisor.startingStep? now startup state.board happening
      | .supervising _, .shutdown =>
        some ((stopAll none state.board).after [.line (.info "Shutdown requested")])
      | .supervising control, .handled => do
        let (report, left) ← supervisor.take? now control
        return (supervisor.apply left state.board report).andThen ofLoop
      | .supervising control, _ =>
        (supervisor.monitorStep? now control happening).map fun next =>
          .still (.supervising next, state.board)
      | .repairing control repair, .stopEnded target failure =>
        if repair.stage = .stopping ∧ target = repair.old then
          some ((supervisor.relaunch control state.board repair failure).andThen ofLoop)
        else none
      | .repairing control repair, .startEnded slot failure =>
        if repair.stage = .starting ∧ slot = repair.old.slot then
          some ((supervisor.finishRepair now control state.board repair failure).andThen ofLoop)
        else none
      | .repairing control repair, _ =>
        (supervisor.monitorStep? now control happening).map fun next =>
          .still (.repairing next repair, state.board)
      | .stopping current rest failure, .stopEnded target refusal =>
        if target = current then
          some ((stopEach failure state.board rest).after (stopEffects current refusal))
        else none
      | _, _ => none
    move.map fun move => move.map fun (phase, board) => ⟨now, phase, board⟩
  else none

end Supervisor

end Convoy
