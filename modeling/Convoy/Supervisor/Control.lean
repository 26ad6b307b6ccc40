import Convoy.Health
import Convoy.Supervisor

/-!
# Keeping a topology healthy

Once a topology is up, each instance is watched by monitors, one for each of its probes and one for
its exit. Monitors report through a mailbox that holds only so many reports. The control loop takes
reports one at a time and acts on them: it changes the routing table and restarts instances. While
it restarts one, reports wait.
-/

namespace Convoy

/-- What a monitor has found. -/
inductive Finding where
  | probe (kind : ProbeKind) (passed : Bool)
  | exited (code : Option Int)
  deriving DecidableEq

/-- A finding about the instance that filled a slot in one generation. -/
structure Report where
  slot : Slot
  generation : Nat
  finding : Finding
  deriving DecidableEq

/-- The reports on their way to the control loop, the oldest first. -/
structure Mailbox where
  queue : List Report
  /-- Reports of monitors that wait until there is room. -/
  blocked : List Report
  deriving DecidableEq

namespace Mailbox

/-- How many reports a mailbox holds. -/
def capacity : Nat := 256

def empty : Mailbox := ⟨[], []⟩

def hasRoom (mailbox : Mailbox) : Bool := mailbox.queue.length < capacity

def post (mailbox : Mailbox) (report : Report) : Mailbox :=
  if mailbox.hasRoom then { mailbox with queue := mailbox.queue ++ [report] }
  else { mailbox with blocked := mailbox.blocked ++ [report] }

/-- Drops what monitors of a slot could not post yet. -/
def withdraw (mailbox : Mailbox) (slot : Slot) : Mailbox :=
  { mailbox with blocked := mailbox.blocked.filter (·.slot != slot) }

end Mailbox

/-- A slot as the control loop sees it. -/
structure Watched where
  slot : Slot
  id : InstanceId
  /-- How many instances filled the slot before this one. -/
  generation : Nat
  health : Health
  /-- When each monitor asks next; a monitor whose report is blocked has no such time. -/
  due : PerKind (Option Duration)
  /-- Whether the exit of the instance is still waited for. -/
  awaitsExit : Bool
  deriving DecidableEq

namespace Watched

/-- The monitors of an instance begin. -/
def monitored (watched : Watched) (probes : ProbeSet) (now : Duration) : Watched :=
  { watched with
    due := probes.map (·.map fun probe => now + probe.initialDelay)
    awaitsExit := true }

/-- The monitors of an instance are called off. -/
def unmonitored (watched : Watched) : Watched :=
  { watched with due := .replicate none, awaitsExit := false }

def current (watched : Watched) : Instance := ⟨watched.slot, watched.id⟩

end Watched

/-- All that the control loop knows. -/
structure Control where
  watched : List Watched
  mailbox : Mailbox
  deriving DecidableEq

namespace Control

def empty : Control := ⟨[], .empty⟩

def find? (control : Control) (slot : Slot) : Option Watched :=
  control.watched.find? (·.slot = slot)

/-- Replaces what is known about the slot of a watched instance. -/
def put (control : Control) (watched : Watched) : Control :=
  { control with
    watched := control.watched.map fun other =>
      if other.slot = watched.slot then watched else other }

end Control

/-- What the control loop waits for while it restarts an instance. -/
inductive RepairStage where
  | stopping
  | starting
  deriving DecidableEq

/-- A restart under way, and what remains to be done after it. -/
structure Repair where
  /-- The instance that is replaced. -/
  old : Instance
  stage : RepairStage
  rest : List HealthAction
  deriving DecidableEq

/-- How far the control loop came with a report. -/
inductive Progress where
  | done
  | repairing (repair : Repair)
  | broken (failure : Failure)
  deriving DecidableEq

/-- The control loop between two happenings. -/
structure Loop where
  control : Control
  board : Board
  progress : Progress
  deriving DecidableEq

namespace Supervisor

/-- The probes of the service that a slot belongs to. -/
def probesOf (supervisor : Supervisor) (slot : Slot) : ProbeSet :=
  ((supervisor.topology.service? slot.service).map (·.probes)).getD .none

/-- The first watch on an instance. -/
def watch (supervisor : Supervisor) (now : Duration) (live : Instance) : Watched :=
  let probes := supervisor.probesOf live.slot
  let unwatched : Watched :=
    { slot := live.slot
      id := live.id
      generation := 0
      health := .ofProbes probes
      due := .replicate none
      awaitsExit := false }
  unwatched.monitored probes now

/-- Watches all instances; those that serve at once get traffic. -/
def watchAll (supervisor : Supervisor) (now : Duration) (board : Board) : Move (Control × Board) :=
  let watched := board.running.map (supervisor.watch now)
  let serving := watched.filter (·.health.serving)
  { next := (⟨watched, .empty⟩, serving.foldl (fun board found => board.route found.slot) board)
    effects := watched.map fun found => .request (.awaitExit found.current) }

/-! ## Reports -/

/-- When a monitor asks again after a report that was accepted at an instant. -/
def nextDue (supervisor : Supervisor) (now : Duration) (report : Report) (watched : Watched) :
    Watched :=
  match report.finding with
  | .exited _ => watched
  | .probe kind _ =>
    { watched with
      due := watched.due.set kind
        (((supervisor.probesOf report.slot).get kind).map fun probe => now + probe.period) }

/-- A monitor posts what it has found; if there is no room it waits. -/
def post (supervisor : Supervisor) (now : Duration) (control : Control) (watched : Watched)
    (finding : Finding) : Control :=
  let report : Report := ⟨watched.slot, watched.generation, finding⟩
  let waiting :=
    match finding with
    | .probe kind _ => { watched with due := watched.due.set kind none }
    | .exited _ => { watched with awaitsExit := false }
  let posted := { control with mailbox := control.mailbox.post report }
  posted.put (if control.mailbox.hasRoom then supervisor.nextDue now report waiting else waiting)

/-- The oldest report; the first monitor that waits for room gets it. -/
def take? (supervisor : Supervisor) (now : Duration) (control : Control) :
    Option (Report × Control) :=
  match control.mailbox.queue, control.mailbox.blocked with
  | [], _ => none
  | report :: rest, [] => some (report, { control with mailbox := ⟨rest, []⟩ })
  | report :: rest, next :: blocked =>
    let accepted := { control with mailbox := ⟨rest ++ [next], blocked⟩ }
    some (report,
      match accepted.find? next.slot with
      | some watched => accepted.put (supervisor.nextDue now next watched)
      | none => accepted)

/-! ## Acting on reports -/

/-- Begins to restart the instance in a slot, if the slot has restarts left. -/
def beginRepair (supervisor : Supervisor) (control : Control) (board : Board) (watched : Watched)
    (rest : List HealthAction) : Move Loop :=
  if supervisor.options.maxRestarts ≤ watched.health.restarts then
    .still ⟨control, board, .broken
      (SupervisorError.restartBudgetExhausted watched.slot.service watched.health.restarts : Failure)⟩
  else
    let unmonitored := { control with mailbox := control.mailbox.withdraw watched.slot }
    { next := ⟨unmonitored.put watched.unmonitored, board.unroute watched.slot,
        .repairing ⟨watched.current, .stopping, rest⟩⟩
      effects := [.request (.stop watched.current)] }

/-- Does what has to follow from a report about a watched instance, up to a restart. -/
def perform (supervisor : Supervisor) (control : Control) (watched : Watched) :
    Board → List HealthAction → Move Loop
  | board, [] => .still ⟨control, board, .done⟩
  | board, .started :: rest =>
    (supervisor.perform control watched board rest).after
      [.line (.info ("✓ " ++ watched.slot.text ++ " passed its startup probe"))]
  | board, .addToRouting :: rest =>
    (supervisor.perform control watched (board.route watched.slot) rest).after
      [.line (.info (watched.slot.text ++ " is ready; routing traffic to it"))]
  | board, .removeFromRouting :: rest =>
    (supervisor.perform control watched (board.unroute watched.slot) rest).after
      [.line (.warn (watched.slot.text ++ " is not ready; removed from routing"))]
  | board, .startupFailed :: rest =>
    (supervisor.beginRepair control board watched rest).after
      [.line (.warn (watched.slot.text ++ " failed to start"))]
  | board, .restart :: rest => supervisor.beginRepair control board watched rest

/-- The status of an instance that has exited, as the log shows it. -/
def statusText : Option Int → String
  | none => "None"
  | some code => s!"Some({code})"

/-- Takes in a report. One about a slot that is not watched, or about an instance that has been
replaced, changes nothing. -/
def apply (supervisor : Supervisor) (control : Control) (board : Board) (report : Report) :
    Move Loop :=
  match control.find? report.slot with
  | none => .still ⟨control, board, .done⟩
  | some watched =>
    if watched.generation ≠ report.generation then .still ⟨control, board, .done⟩
    else
      match report.finding with
      | .probe kind passed =>
        let (health, actions) := watched.health.observe kind passed
        let observed := { watched with health := health }
        let answer := if passed then "ok" else "failed"
        (supervisor.perform (control.put observed) observed board actions).after
          [.line (.debug (watched.slot.text ++ s!" {kind.name} probe: {answer}"))]
      | .exited code =>
        let actions := if watched.health.serving then [.removeFromRouting, .restart] else [.restart]
        (supervisor.perform control watched board actions).after
          [.line (.warn
            (watched.slot.text ++ " exited unexpectedly (status " ++ statusText code ++ ")"))]

/-- The old instance of a slot has been stopped, or could not be; a new one is launched. -/
def relaunch (supervisor : Supervisor) (control : Control) (board : Board) (repair : Repair)
    (failure : Option Failure) : Move Loop :=
  let warning : List Effect :=
    match failure with
    | none => []
    | some reason => [.line (.warn
        ("Failed to stop " ++ repair.old.slot.text ++ " before restart: " ++ reason.message))]
  { next := ⟨control, board, .repairing { repair with stage := .starting }⟩
    effects := warning ++ [supervisor.startRequest repair.old.slot] }

/-- The launch of the new instance has ended. If it succeeded, the instance is watched like the
first one, under the next generation. -/
def finishRepair (supervisor : Supervisor) (now : Duration) (control : Control) (board : Board)
    (repair : Repair) : Option Failure → Move Loop
  | some failure =>
    .still ⟨control, board, .broken (failure.within ("Failed to restart " ++ repair.old.slot.text))⟩
  | none =>
    let slot := repair.old.slot
    match control.find? slot with
    | none => .still ⟨control, board, .done⟩
    | some old =>
      let filled := board.nextInstance slot
      let health := old.health.restarted
      let renewed : Watched :=
        { old with id := filled.id, generation := old.generation + 1, health := health }
      let watched := renewed.monitored (supervisor.probesOf slot) now
      let replaced := board.replace slot
      let routed := if health.serving then replaced.route slot else replaced
      let line := LogLine.info
        ("↻ Restarted " ++ slot.text ++ " as " ++ supervisor.instanceText filled.id ++
          s!" (restart {health.restarts}/{supervisor.options.maxRestarts})")
      (supervisor.perform (control.put watched) watched routed repair.rest).after
        [.line line, .event slot.service (.restarted slot.index health.restarts),
          .request (.awaitExit filled)]

end Supervisor

end Convoy
