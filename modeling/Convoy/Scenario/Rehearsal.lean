import Convoy.Supervisor.Run

/-!
# Rehearsals

A rehearsal runs a supervisor in surroundings that are a function: they say how long launches and
stops take, when instances exit, and what probes find. Time is virtual. All that can happen at an
instant happens, then the clock jumps to the next instant at which something is due.
-/

namespace Convoy.Scenario

/-- What comes of a start: how long it takes, whether it fails, and when after it and with which
status the instance exits. -/
structure StartPlan where
  delay : Duration
  failure : Option Failure
  exit : Option (Duration × Option Int)

/-- What comes of a stop. -/
structure StopPlan where
  delay : Duration
  failure : Option Failure

/-- A start that succeeded. -/
structure Launch where
  live : Instance
  /-- Which start of its service it was. -/
  number : Nat
  moment : Duration
  environment : Dictionary String
  exit : Option (Duration × Option Int)

/-- What the surroundings of a supervisor do. -/
structure Surroundings where
  /-- The outcome of a start of a service, by its number and the variables it gets. -/
  start : Service → Nat → Dictionary String → StartPlan
  stop : String → StopPlan
  /-- Why the exit of an instance cannot be waited for, if it cannot. -/
  waitFailure : String → Option Failure
  /-- How long an attempt takes that starts at an instant with a budget. -/
  latency : Address → Duration → Duration → Duration
  /-- Why an attempt with a start and a budget is refused at its end, if it is. The latest starts of
  services are given, and the instant of the end. -/
  refusal : (String → Option Duration) → Address → Duration → Duration → Duration → Option String
  /-- Whether a probe of a host passes at an instant. -/
  probe : String → Probe → Duration → Bool
  /-- When the shutdown is asked for, if it is, given the starts that have succeeded. -/
  shutdown : List Launch → Option Duration

/-- A request that has not been answered yet. -/
inductive Pending where
  | start (slot : Slot) (number : Nat) (environment : Dictionary String) (plan : StartPlan)
  | stop (target : Instance) (failure : Option Failure)
  /-- The stop of an instance that has been stopped before, which has no effect. -/
  | idleStop (target : Instance)
  | exit (target : Instance) (outcome : Except Failure (Option Int))
  | attempt (service : String) (target : Address) (started budget : Duration)

/-- An attempt to connect that has ended. -/
structure Contact where
  target : Address
  started : Duration
  budget : Duration
  succeeded : Bool

/-- What has been seen so far; every list has the latest first. -/
structure Record where
  effects : List (Duration × Effect)
  launches : List Launch
  stops : List (Duration × String × Nat)
  contacts : List Contact
  probeCalls : Dictionary Nat
  routings : List (Duration × Routing)

namespace Record

def empty : Record := ⟨[], [], [], [], .empty, []⟩

/-- When a service was last started. -/
def latestStart (record : Record) (service : String) : Option Duration :=
  (record.launches.find? (·.live.slot.service == service)).map (·.moment)

/-- Which start of its service an instance came from. -/
def numberOf (record : Record) (target : Instance) : Nat :=
  ((record.launches.find? (·.live == target)).map (·.number)).getD 0

/-- The routing table at an instant. -/
def routingAt (record : Record) (moment : Duration) : Routing :=
  ((record.routings.find? (·.1 ≤ moment)).map (·.2)).getD .empty

/-- The variables of the last start of each service. -/
def environments (record : Record) : Dictionary (Dictionary String) :=
  .ofList (record.launches.reverse.map fun launch => (launch.live.slot.service, launch.environment))

end Record

/-- A supervisor and its scripted surroundings at an instant. -/
structure Rehearsal where
  supervisor : Supervisor
  surroundings : Surroundings
  clock : Duration
  state : Supervisor.State
  /-- What is pending, in the order in which it is due. -/
  agenda : List (Duration × Pending)
  /-- How many starts of each service have begun. -/
  begun : Dictionary Nat
  stopped : List Instance
  record : Record

namespace Rehearsal

/-- Puts something on an agenda, after all that is due no later. -/
def schedule (due : Duration) (pending : Pending) :
    List (Duration × Pending) → List (Duration × Pending)
  | [] => [(due, pending)]
  | entry :: rest =>
    if entry.1 ≤ due then entry :: schedule due pending rest else (due, pending) :: entry :: rest

def plan (rehearsal : Rehearsal) (due : Duration) (pending : Pending) : Rehearsal :=
  { rehearsal with agenda := schedule due pending rehearsal.agenda }

/-- When and how the exit of an instance is noticed, if the wait begins now. -/
def exitNotice? (rehearsal : Rehearsal) (target : Instance) :
    Option (Duration × Except Failure (Option Int)) :=
  match rehearsal.surroundings.waitFailure target.slot.service with
  | some failure => some (rehearsal.clock, .error failure)
  | none =>
    if rehearsal.stopped.contains target then some (rehearsal.clock, .ok none)
    else do
      let launch ← rehearsal.record.launches.find? (·.live == target)
      let (delay, code) ← launch.exit
      return (max rehearsal.clock (launch.moment + delay), .ok code)

/-- Takes a request of the supervisor. -/
def receive (rehearsal : Rehearsal) : Request → Rehearsal
  | .start slot environment =>
    let number := (rehearsal.begun.get? slot.service).getD 0
    match rehearsal.supervisor.topology.service? slot.service with
    | none => rehearsal
    | some service =>
      let plan := rehearsal.surroundings.start service number environment
      { rehearsal with begun := rehearsal.begun.insert slot.service (number + 1) }.plan
        (rehearsal.clock + plan.delay) (.start slot number environment plan)
  | .stop target =>
    if rehearsal.stopped.contains target then rehearsal.plan rehearsal.clock (.idleStop target)
    else
      let plan := rehearsal.surroundings.stop target.slot.service
      { rehearsal with stopped := target :: rehearsal.stopped }.plan (rehearsal.clock + plan.delay)
        (.stop target plan.failure)
  | .awaitExit target =>
    match rehearsal.exitNotice? target with
    | some (due, outcome) => rehearsal.plan due (.exit target outcome)
    | none => rehearsal
  | .connect service target budget =>
    rehearsal.plan
      (rehearsal.clock + rehearsal.surroundings.latency target rehearsal.clock budget)
      (.attempt service target rehearsal.clock budget)

/-- Notes what the supervisor did, and takes its requests. -/
def follow (rehearsal : Rehearsal) (effect : Effect) : Rehearsal :=
  let noted := { rehearsal with record := { rehearsal.record with
    effects := (rehearsal.clock, effect) :: rehearsal.record.effects } }
  match effect with
  | .request request => noted.receive request
  | _ => noted

/-- What the end of something pending means to the supervisor. -/
def happening (rehearsal : Rehearsal) : Pending → Happening
  | .start slot _ _ plan => .startEnded slot plan.failure
  | .stop target failure => .stopEnded target failure
  | .idleStop target => .stopEnded target none
  | .exit target outcome => .exited target outcome
  | .attempt service target started budget =>
    .attemptEnded service (rehearsal.surroundings.refusal rehearsal.record.latestStart target started
      budget rehearsal.clock)

/-- Notes what a happening shows to the outside. -/
def note (rehearsal : Rehearsal) (pending : Pending) (happening : Happening) : Record :=
  let record := rehearsal.record
  match pending, happening with
  | .start slot number environment plan, .startEnded _ none =>
    let live := rehearsal.state.board.nextInstance slot
    { record with
      launches := ⟨live, number, rehearsal.clock, environment, plan.exit⟩ :: record.launches }
  | .stop target _, .stopEnded _ none =>
    { record with
      stops := (rehearsal.clock, target.slot.service, record.numberOf target) :: record.stops }
  | .attempt _ target started budget, .attemptEnded _ refusal =>
    { record with contacts := ⟨target, started, budget, refusal.isNone⟩ :: record.contacts }
  | _, _ => record

/-- Lets something happen, with what is noted about it; nothing if it cannot happen. -/
def step? (rehearsal : Rehearsal) (happening : Happening) (record : Record) : Option Rehearsal :=
  (rehearsal.supervisor.step? rehearsal.clock rehearsal.state happening).map fun move =>
    move.effects.foldl follow { rehearsal with state := move.next, record := record }

/-- Takes the first entry from the agenda if it is due. What cannot happen any more is dropped. -/
def stepAgenda? (rehearsal : Rehearsal) : Option Rehearsal :=
  match rehearsal.agenda with
  | (due, pending) :: rest =>
    if due ≤ rehearsal.clock then
      let happening := rehearsal.happening pending
      let left := { rehearsal with agenda := rest }
      some ((left.step? happening (rehearsal.note pending happening)).getD left)
    else none
  | [] => none

/-- The text that tells one probe from another: the host and the handler. -/
def probeKey (host : String) (handler : ProbeHandler) : String := host ++ " " ++ handler.text

/-- Whether a probe passes now, and its key. -/
def ask (rehearsal : Rehearsal) (slot : Slot) (kind : ProbeKind) : Option (String × Bool) := do
  let service ← rehearsal.supervisor.topology.service? slot.service
  let probe ← service.probes.get kind
  let host := rehearsal.supervisor.hostFor service
  return (probeKey host probe.handler, rehearsal.surroundings.probe host probe rehearsal.clock)

/-- Lets a monitor ask. -/
def stepMonitor? (rehearsal : Rehearsal) (slot : Slot) (kind : ProbeKind) : Option Rehearsal := do
  let (key, passed) ← rehearsal.ask slot kind
  let record := rehearsal.record
  let calls := (record.probeCalls.get? key).getD 0 + 1
  rehearsal.step? (.probed slot kind passed)
    { record with probeCalls := record.probeCalls.insert key calls }

/-- The monitors that are due by an instant. -/
def dueMonitors (control : Control) (clock : Duration) : List (Slot × ProbeKind) :=
  control.watched.flatMap fun watched =>
    (ProbeKind.all.filter fun kind => (watched.due.get kind).any (· ≤ clock)).map (watched.slot, ·)

/-- What the starting services can do without an answer from outside: an end is noted before
anything else goes on. -/
def startupHappenings (startup : Startup) : List Happening :=
  let ends := startup.stages.entries.filterMap fun (name, stage) =>
    if !stage.hasEnded || startup.joined.contains name then none else some (.joined name)
  let others := startup.stages.entries.filterMap fun (name, stage) =>
    if stage.isOver then none
    else if startup.isAborting then some (.cancelled name)
    else
      match stage with
      | .awaiting _ => some (.resumed name)
      | .pausing .. => some (.retried name)
      | _ => none
  ends ++ others ++ [.settled]

/-- Lets one thing happen that needs no answer from outside. -/
def stepInside? (rehearsal : Rehearsal) : Option Rehearsal :=
  match rehearsal.state.phase with
  | .starting startup =>
    (startupHappenings startup).findSome? fun happening =>
      rehearsal.step? happening rehearsal.record
  | .supervising control =>
    (rehearsal.step? .handled rehearsal.record).or
      ((dueMonitors control rehearsal.clock).findSome? fun (slot, kind) =>
        rehearsal.stepMonitor? slot kind)
  | .repairing control _ =>
    (dueMonitors control rehearsal.clock).findSome? fun (slot, kind) =>
      rehearsal.stepMonitor? slot kind
  | _ => none

/-- When the shutdown is asked for, as far as it is known. -/
def shutdown? (rehearsal : Rehearsal) : Option Duration :=
  rehearsal.surroundings.shutdown rehearsal.record.launches

/-- Lets one thing happen at the current instant; the shutdown comes first. -/
def stepNow? (rehearsal : Rehearsal) : Option Rehearsal :=
  let shutdown :=
    if rehearsal.shutdown?.any (· ≤ rehearsal.clock) then
      rehearsal.step? .shutdown rehearsal.record
    else none
  (shutdown.or rehearsal.stepAgenda?).or rehearsal.stepInside?

/-- The instants at which something is due after the current one. -/
def alarms (rehearsal : Rehearsal) : List Duration :=
  let shutdown := rehearsal.shutdown?.toList
  let inside : List Duration :=
    match rehearsal.state.phase with
    | .starting startup =>
      shutdown ++ startup.stages.values.filterMap fun stage =>
        match stage with
        | .pausing _ due _ _ => some due
        | _ => none
    | .supervising control => shutdown ++ monitorAlarms control
    | .repairing control _ => monitorAlarms control
    | _ => []
  ((rehearsal.agenda.head?.map (·.1)).toList ++ inside).filter (rehearsal.clock < ·)
where
  monitorAlarms (control : Control) : List Duration :=
    control.watched.flatMap fun watched => ProbeKind.all.filterMap fun kind => watched.due.get kind

/-- The routing table as it is now, if it is not the one noted last. -/
def noteRouting (rehearsal : Rehearsal) : Rehearsal :=
  let record := rehearsal.record
  let routing := rehearsal.state.board.routing
  if (record.routings.head?.map (·.2)) = some routing then rehearsal
  else { rehearsal with record :=
    { record with routings := (rehearsal.clock, routing) :: record.routings } }

/-- Lets things happen until the run has ended, nothing is due, or the fuel is used up. -/
def proceed : Nat → Rehearsal → Rehearsal
  | 0, rehearsal => rehearsal
  | fuel + 1, rehearsal =>
    match rehearsal.state.phase with
    | .ended _ => rehearsal.noteRouting
    | _ =>
      match rehearsal.stepNow? with
      | some next => proceed fuel next
      | none =>
        match rehearsal.alarms.min? with
        | some due => proceed fuel { rehearsal.noteRouting with clock := due }
        | none => rehearsal.noteRouting

/-- A rehearsal before anything has happened. -/
def initial (supervisor : Supervisor) (surroundings : Surroundings) : Rehearsal where
  supervisor := supervisor
  surroundings := surroundings
  clock := .zero
  state := .initial supervisor
  agenda := []
  begun := .empty
  stopped := []
  record := .empty

/-- How a run ended, if it did. -/
def outcome? (rehearsal : Rehearsal) : Option (Except Failure Unit) :=
  match rehearsal.state.phase with
  | .ended none => some (.ok ())
  | .ended (some failure) => some (.error failure)
  | _ => none

end Rehearsal

end Convoy.Scenario
