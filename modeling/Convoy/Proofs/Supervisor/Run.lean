import Convoy.Supervisor.Run
import Mathlib.Data.List.Nodup

/-!
# Histories of runs

A run accumulates a history: what happened at which moment, what the supervisor did about it, and
the state in which that left it. All statements about runs are statements about histories. A run is
any sequence of accepted happenings, so that they cover all surroundings, all orders in which the
starting services proceed, and all moments of a shutdown.

For what the control loop does about reports it does not matter where they come from. A run with
arbitrary mail may therefore exchange its mailbox at any time.
-/

namespace Convoy

/-- One step of a run. -/
structure Turn where
  moment : Duration
  happening : Happening
  effects : List Effect
  /-- The state to which the step led. -/
  after : Supervisor.State

/-- Where the reports of a run come from. -/
inductive Mail where
  /-- From the monitors of the run. -/
  | monitored
  /-- From anywhere, about any slot and any generation. -/
  | arbitrary

/-- The runs of a supervisor, each with its history and the state that it has reached. -/
inductive Supervisor.Run (supervisor : Supervisor) (mail : Mail) :
    List Turn → Supervisor.State → Prop where
  | start : Run supervisor mail [] (.initial supervisor)
  | step {history : List Turn} {state : Supervisor.State} {moment : Duration}
      {happening : Happening} {move : Move Supervisor.State}
      (before : Run supervisor mail history state)
      (made : supervisor.step? moment state happening = some move) :
      Run supervisor mail (history ++ [⟨moment, happening, move.effects, move.next⟩]) move.next
  | exchange {history : List Turn} {moment : Duration} {control : Control} {board : Board}
      (mailbox : Mailbox) (allowed : mail = .arbitrary)
      (before : Run supervisor mail history ⟨moment, .supervising control, board⟩) :
      Run supervisor mail history ⟨moment, .supervising { control with mailbox := mailbox }, board⟩

namespace Supervisor

/-- Lets things happen one after another, if all of them can. -/
def replay? (supervisor : Supervisor) (history : List Turn) (state : State) :
    List (Duration × Happening) → Option (List Turn × State)
  | [] => some (history, state)
  | (moment, happening) :: rest =>
    (supervisor.step? moment state happening).bind fun move =>
      supervisor.replay? (history ++ [⟨moment, happening, move.effects, move.next⟩]) move.next rest

/-- Whatever can be replayed from a run is a run. -/
theorem Run.replay
    {supervisor : Supervisor} {mail : Mail} {script : List (Duration × Happening)}
    {history further : List Turn} {state reached : State}
    (run : supervisor.Run mail history state)
    (replayed : supervisor.replay? history state script = some (further, reached)) :
    supervisor.Run mail further reached := by
  induction script generalizing history state with
  | nil =>
    cases replayed
    exact run
  | cons entry rest induction =>
    rcases Option.bind_eq_some_iff.1 replayed with ⟨move, made, replayed⟩
    exact induction (run.step made) replayed

/-- A script that can be replayed from the beginning makes a run; what came before its last turn,
this turn, and the state it has reached can be tested. -/
theorem exists_run_of_replay?
    (supervisor : Supervisor) (mail : Mail) (script : List (Duration × Happening))
    (test : List Turn → Turn → State → Bool)
    (possible : (supervisor.replay? [] (.initial supervisor) script).any (fun reached =>
      reached.1.getLast?.any (test reached.1.dropLast · reached.2)) = true) :
    ∃ earlier turn state, supervisor.Run mail (earlier ++ [turn]) state ∧
      test earlier turn state = true := by
  rcases (Option.any_eq_true _ _).1 possible with ⟨⟨history, state⟩, replayed, tested⟩
  rcases (Option.any_eq_true _ _).1 tested with ⟨turn, last, passes⟩
  have run : supervisor.Run mail history state := Run.start.replay replayed
  have parts : history.dropLast ++ [turn] = history := List.dropLast_append_getLast? turn last
  rw [← parts] at run
  exact ⟨history.dropLast, turn, state, run, passes⟩

/-- The run up to one of its turns, and the step that is this turn. -/
theorem Run.split
    {supervisor : Supervisor} {mail : Mail} {history : List Turn} {state : State}
    (run : supervisor.Run mail history state)
    {earlier later : List Turn} {turn : Turn} (parts : history = earlier ++ turn :: later) :
    ∃ before, supervisor.Run mail earlier before ∧
      supervisor.step? turn.moment before turn.happening = some ⟨turn.after, turn.effects⟩ := by
  induction run generalizing earlier later with
  | start => simp at parts
  | exchange mailbox allowed before induction => exact induction parts
  | @step history state moment happening move before made induction =>
    rcases List.eq_nil_or_concat later with rfl | ⟨front, last, rfl⟩
    · obtain ⟨rfl, equal⟩ := List.append_inj' parts rfl
      cases equal
      exact ⟨state, before, made⟩
    · rw [List.concat_eq_append, ← List.cons_append, ← List.append_assoc] at parts
      rcases List.append_inj' parts rfl with ⟨rest, -⟩
      exact induction rest

/-- Every part of a history up to some turn is a history. -/
theorem Run.exists_prefix
    {supervisor : Supervisor} {mail : Mail} {earlier later : List Turn} {state : State}
    (run : supervisor.Run mail (earlier ++ later) state) :
    ∃ before, supervisor.Run mail earlier before := by
  cases later with
  | nil =>
    rw [List.append_nil] at run
    exact ⟨state, run⟩
  | cons turn rest =>
    rcases run.split rfl with ⟨before, run, -⟩
    exact ⟨before, run⟩

end Supervisor

/-! ## A small stack -/

/-- A service with one instance and no probes. -/
def Service.plain (name : String) (role : Role) (dependsOn : List Dependency) : Service where
  name := name
  role := role
  image := name
  command := []
  endpoint := some ⟨name, 80⟩
  environment := .empty
  secrets := .empty
  dependsOn := dependsOn
  probes := .none
  volumes := []
  replicas := 1
  readinessTimeout := .ofSeconds 30

/-- A stack with dependencies of both kinds. -/
def Topology.small : Topology where
  name := "small"
  services := [
    .plain "db" .store [],
    .plain "setup" .initializer [⟨"db", .reachable⟩],
    .plain "app" .appServer [⟨"db", .reachable⟩, ⟨"setup", .completed⟩]]
  volumes := .empty
  secrets := .ofList []
  edge := .standard
  fits := by decide +kernel

/-- The small stack, with no more than one restart of a slot. -/
def Supervisor.small : Supervisor where
  topology := .small
  environments := .empty
  options := { SupervisorOptions.standard with maxRestarts := 1 }
  instanceText := toString
  crashText := fun _ => "panicked"

/-- The small stack on its way up, until its last instance is asked for. -/
def Supervisor.small.climb : List (Duration × Happening) :=
  [(.zero, .resumed "db"),
    (.zero, .startEnded ⟨"db", 0⟩ none),
    (.ofSeconds 1, .resumed "setup"),
    (.ofSeconds 2, .attemptEnded "setup" none),
    (.ofSeconds 2, .resumed "setup"),
    (.ofSeconds 2, .startEnded ⟨"setup", 0⟩ none),
    (.ofSeconds 3, .exited ⟨⟨"setup", 0⟩, 1⟩ (.ok (some 0))),
    (.ofSeconds 3, .resumed "app"),
    (.ofSeconds 4, .attemptEnded "app" none),
    (.ofSeconds 4, .resumed "app"),
    (.ofSeconds 4, .resumed "app")]

/-- The small stack comes up, and its application exits and is restarted. -/
def Supervisor.small.mend : List (Duration × Happening) :=
  Supervisor.small.climb ++
  [(.ofSeconds 4, .startEnded ⟨"app", 0⟩ none),
    (.ofSeconds 4, .joined "setup"),
    (.ofSeconds 4, .joined "app"),
    (.ofSeconds 4, .joined "db"),
    (.ofSeconds 4, .settled),
    (.ofSeconds 5, .exited ⟨⟨"app", 0⟩, 2⟩ (.ok (some 1))),
    (.ofSeconds 5, .handled),
    (.ofSeconds 6, .stopEnded ⟨⟨"app", 0⟩, 2⟩ none),
    (.ofSeconds 7, .startEnded ⟨"app", 0⟩ none)]

/-- The small stack is shut down after the restart. -/
def Supervisor.small.descend : List (Duration × Happening) :=
  Supervisor.small.mend ++
  [(.ofSeconds 8, .shutdown),
    (.ofSeconds 8, .stopEnded ⟨⟨"app", 0⟩, 3⟩ none),
    (.ofSeconds 9, .stopEnded ⟨⟨"db", 0⟩, 0⟩ none)]

/-- Why the database of the small stack does not start. -/
def Supervisor.small.obstacle : Failure := (SupervisorError.startFailed "db" "no image" : Failure)

/-- The database of the small stack does not start; the others are noted before it. -/
def Supervisor.small.fail : List (Duration × Happening) :=
  [(.zero, .resumed "db"),
    (.ofSeconds 1, .startEnded ⟨"db", 0⟩ (some Supervisor.small.obstacle)),
    (.ofSeconds 1, .resumed "setup"),
    (.ofSeconds 1, .joined "setup"),
    (.ofSeconds 1, .resumed "app"),
    (.ofSeconds 1, .joined "app"),
    (.ofSeconds 1, .joined "db"),
    (.ofSeconds 1, .settled)]

/-! ## What a turn shows -/

namespace Turn

/-- The slot of the launch that succeeded in this turn. -/
def launched? (turn : Turn) : Option Slot :=
  match turn.happening with
  | .startEnded slot none => some slot
  | _ => none

/-- The stage in which this turn left a starting service. -/
def stage? (turn : Turn) (name : String) : Option Stage :=
  match turn.after.phase with
  | .starting startup => startup.stages.get? name
  | _ => none

end Turn

/-- An attempt to connect, as it was asked for. -/
structure Dial where
  asked : Duration
  target : Address
  budget : Duration

/-- The attempts to connect that a turn asks for on behalf of a service. -/
def Turn.dials (service : String) (turn : Turn) : List Dial :=
  turn.effects.filterMap fun effect =>
    match effect with
    | .request (.connect caller target budget) =>
      if caller = service then some ⟨turn.moment, target, budget⟩ else none
    | _ => none

namespace History

/-- The slots of the launches that succeeded, in order. -/
def launches (history : List Turn) : List Slot := history.filterMap Turn.launched?

/-- The instances that have been launched, in order; their numbers count them. -/
def instances (history : List Turn) : List Instance :=
  (launches history).zipIdx.map fun (slot, id) => ⟨slot, id⟩

/-- The instances that have been launched for a slot. -/
def instancesIn (slot : Slot) (history : List Turn) : List Instance :=
  (instances history).filter (·.slot = slot)

/-- The instances that have been launched for a service. -/
def instancesOf (service : String) (history : List Turn) : List Instance :=
  (instances history).filter (·.slot.service = service)

/-- The latest attempt to connect that was asked for on behalf of a service. -/
def latestDial? (service : String) (history : List Turn) : Option Dial :=
  (history.flatMap (Turn.dials service)).getLast?

/-- A starting service has been in a stage. -/
def Showed (history : List Turn) (name : String) (stage : Stage) : Prop :=
  ∃ turn ∈ history, turn.stage? name = some stage

variable {history : List Turn} {turn : Turn}

theorem Showed.append {name : String} {stage : Stage} (showed : Showed history name stage)
    (later : List Turn) : Showed (history ++ later) name stage := by
  rcases showed with ⟨turn, member, shown⟩
  exact ⟨turn, List.mem_append_left later member, shown⟩

theorem showed_concat_iff {name : String} {stage : Stage} :
    Showed (history ++ [turn]) name stage ↔
      Showed history name stage ∨ turn.stage? name = some stage := by
  simp [Showed, or_and_right, exists_or]

theorem launches_concat_of_launched {slot : Slot} (launched : turn.launched? = some slot) :
    launches (history ++ [turn]) = launches history ++ [slot] := by
  simp [launches, launched]

theorem launches_concat_of_not_launched (none : turn.launched? = none) :
    launches (history ++ [turn]) = launches history := by
  simp [launches, none]

theorem instances_concat_of_launched {slot : Slot} (launched : turn.launched? = some slot) :
    instances (history ++ [turn]) =
      instances history ++ [⟨slot, (launches history).length⟩] := by
  simp [instances, launches_concat_of_launched launched, List.zipIdx_append]

theorem instances_concat_of_not_launched (none : turn.launched? = none) :
    instances (history ++ [turn]) = instances history := by
  rw [instances, launches_concat_of_not_launched none, instances]

@[simp]
theorem map_slot_instances : (instances history).map (·.slot) = launches history := by
  simp [instances, List.map_map, Function.comp_def, List.zipIdx_map_fst]

/-- Instances are numbered one after another. -/
theorem map_id_instances :
    (instances history).map (·.id) = List.range (launches history).length := by
  simp [instances, List.map_map, Function.comp_def, List.range_eq_range', List.zipIdx_map_snd]

/-- A number tells an instance from all others. -/
theorem instances_ext {first second : Instance} (firstMember : first ∈ instances history)
    (secondMember : second ∈ instances history) (same : first.id = second.id) : first = second := by
  have distinct : ((instances history).map (·.id)).Nodup := by
    rw [map_id_instances]
    exact List.nodup_range
  exact List.inj_on_of_nodup_map distinct firstMember secondMember same

theorem slot_mem_launches {live : Instance} (member : live ∈ instances history) :
    live.slot ∈ launches history := by
  rw [← map_slot_instances]
  exact List.mem_map_of_mem member

end History

end Convoy
