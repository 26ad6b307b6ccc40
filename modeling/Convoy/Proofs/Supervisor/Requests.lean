import Convoy.Proofs.Supervisor.Control
import Convoy.Proofs.Supervisor.Run
import Convoy.Proofs.Supervisor.Step

/-!
# What is asked for

The parts of the machine differ in what they ask for. Starting services and restarts ask for launches,
the control loop and the end of a run ask for stops, and only the control loop reports restarts.
-/

namespace Convoy

namespace Effect

/-- The slots for which effects ask for an instance. -/
def starts (effects : List Effect) : List Slot :=
  effects.filterMap fun effect =>
    match effect with
    | .request (.start slot _) => some slot
    | _ => none

/-- The instances that effects ask to stop. -/
def stops (effects : List Effect) : List Instance :=
  effects.filterMap fun effect =>
    match effect with
    | .request (.stop target) => some target
    | _ => none

/-- The numbers under which effects report restarts of a slot. -/
def restarts (slot : Slot) (effects : List Effect) : List Nat :=
  effects.filterMap fun effect =>
    match effect with
    | .event service (.restarted index number) =>
      if (⟨service, index⟩ : Slot) = slot then some number else none
    | _ => none

/-- Effects that ask for no launch and no stop, and report no restart. -/
structure Silent (effects : List Effect) : Prop where
  starts : starts effects = []
  stops : stops effects = []
  restarts : ∀ slot, restarts slot effects = []

variable (effects further : List Effect) (slot : Slot)

@[simp]
theorem starts_append : starts (effects ++ further) = starts effects ++ starts further :=
  List.filterMap_append

@[simp]
theorem stops_append : stops (effects ++ further) = stops effects ++ stops further :=
  List.filterMap_append

@[simp]
theorem restarts_append :
    restarts slot (effects ++ further) = restarts slot effects ++ restarts slot further :=
  List.filterMap_append

@[simp]
theorem starts_line (line : LogLine) : starts (.line line :: effects) = starts effects := rfl

@[simp]
theorem stops_line (line : LogLine) : stops (.line line :: effects) = stops effects := rfl

@[simp]
theorem restarts_line (line : LogLine) :
    restarts slot (.line line :: effects) = restarts slot effects := rfl

theorem restarts_report (slot other : Slot) (number : Nat) (request : Request) :
    restarts other [.event slot.service (.restarted slot.index number), .request request] =
      if slot = other then [number] else [] := by
  by_cases same : slot = other <;> simp [restarts, same]

end Effect

open Effect

theorem Logs.silent {effects : List Effect} (logs : Logs effects) : Silent effects := by
  induction effects with
  | nil => exact ⟨rfl, rfl, fun slot => rfl⟩
  | cons effect rest induction =>
    rcases List.forall_mem_cons.1 logs with ⟨⟨line, rfl⟩, later⟩
    have silent := induction later
    exact ⟨silent.starts, silent.stops, silent.restarts⟩

/-- The stop that a control loop which goes on in some way has asked for. -/
def Progress.stops : Progress → List Instance
  | .repairing repair => [repair.old]
  | _ => []

namespace Supervisor

variable {supervisor : Supervisor} {now : Duration} {startup : Startup} {board after : Board}
  {control : Control} {effects : List Effect}

/-! ## Starting services -/

theorem attempt_silent (supervisor : Supervisor) (service : Service) (visit : Visit)
    (dependency : Dependency) (rest : List Dependency) (now : Duration) :
    Silent (supervisor.attempt service visit dependency rest now).effects := by
  rcases supervisor.attempt_cases service visit dependency rest now with
    ⟨-, -, equal⟩ | ⟨-, -, equal⟩ | ⟨-, equal⟩
  · rw [equal]
    exact ⟨rfl, rfl, fun slot => rfl⟩
  · rw [equal]
    exact ⟨rfl, rfl, fun slot => rfl⟩
  · rw [equal]
    exact ⟨rfl, rfl, fun slot => rfl⟩

theorem drain_silent (service : Service) (launched : List Instance) :
    Silent (drain service launched).effects := by
  rcases drain_cases service launched with ⟨-, equal⟩ | ⟨current, rest, -, equal⟩
  · rw [equal]
    exact ⟨rfl, rfl, fun slot => rfl⟩
  · rw [equal]
    exact ⟨rfl, rfl, fun slot => rfl⟩

/-- At most the instance with the given index is asked for. -/
theorem launch_asks (supervisor : Supervisor) (service : Service) (index : Nat)
    (launched : List Instance) :
    (∀ slot ∈ starts (supervisor.launch service index launched).effects,
        slot = ⟨service.name, index⟩) ∧
      stops (supervisor.launch service index launched).effects = [] ∧
      ∀ slot, restarts slot (supervisor.launch service index launched).effects = [] := by
  rcases launch_cases supervisor service index launched with
    ⟨-, equal⟩ | ⟨-, -, equal⟩ | ⟨-, -, equal⟩
  · rw [equal]
    refine ⟨?_, rfl, fun slot => rfl⟩
    intro slot member
    exact List.mem_singleton.1 member
  · rw [equal]
    rcases drain_silent service launched with ⟨none, stops, restarts⟩
    refine ⟨?_, stops, restarts⟩
    rw [none]
    intro slot member
    cases member
  · rw [equal]
    refine ⟨?_, rfl, fun slot => rfl⟩
    intro slot member
    cases member

/-- A starting service asks for its first instance when it has gone past its dependencies, and for
each other one when the one before it is there. -/
theorem StageStep.starts {service : Service} {stage next : Stage} {happening : Happening}
    (step : StageStep supervisor now startup board service stage happening next after effects)
    {slot : Slot} (asked : slot ∈ starts effects) :
    (stage = .awaiting [] ∧ slot = ⟨service.name, 0⟩) ∨
      ∃ index launched, stage = .launching index launched ∧ slot = ⟨service.name, index + 1⟩ := by
  cases step with
  | cleared =>
    left
    exact ⟨rfl, (launch_asks _ _ _ _).1 slot asked⟩
  | launched =>
    right
    exact ⟨_, _, rfl, (launch_asks _ _ _ _).1 slot asked⟩
  | begun settled sound reachable found =>
    rw [starts_line, (attempt_silent _ _ _ _ _ _).starts] at asked
    cases asked
  | retried ready =>
    rw [(attempt_silent _ _ _ _ _ _).starts] at asked
    cases asked
  | exitedWell =>
    rw [(drain_silent _ _).starts] at asked
    cases asked
  | _ => cases asked

/-- A starting service asks for no stop and reports no restart. -/
theorem StageStep.silent {service : Service} {stage next : Stage} {happening : Happening}
    (step : StageStep supervisor now startup board service stage happening next after effects) :
    stops effects = [] ∧ ∀ slot, restarts slot effects = [] := by
  cases step with
  | cleared => exact (launch_asks _ _ _ _).2
  | launched => exact (launch_asks _ _ _ _).2
  | @begun dependency rest gate line settled sound reachable found =>
    have silent := supervisor.attempt_silent service ⟨gate, now, 0, now⟩ dependency rest now
    exact ⟨silent.stops, silent.restarts⟩
  | @retried visit due dependency rest ready =>
    have silent := supervisor.attempt_silent service visit dependency rest now
    exact ⟨silent.stops, silent.restarts⟩
  | @exitedWell current rest =>
    have silent := drain_silent service rest
    exact ⟨silent.stops, silent.restarts⟩
  | _ => exact ⟨rfl, fun slot => rfl⟩

/-! ## The control loop -/

theorem watchAll_silent (supervisor : Supervisor) (now : Duration) (board : Board) :
    Silent (supervisor.watchAll now board).effects := by
  have awaits : ∀ lives : List Watched,
      Silent (lives.map fun watched => .request (.awaitExit watched.current)) := by
    intro lives
    induction lives with
    | nil => exact ⟨rfl, rfl, fun slot => rfl⟩
    | cons watched rest induction =>
      exact ⟨induction.starts, induction.stops, induction.restarts⟩
  exact awaits _

/-- After a report nothing is asked for but the stop of an instance that is replaced. -/
theorem Applied.asks {report : Report} {progress : Loop}
    (applied : Applied supervisor control board report progress effects) :
    starts effects = [] ∧ Effect.stops effects = Progress.stops progress.progress ∧
      ∀ slot, restarts slot effects = [] := by
  cases applied with
  | stale old => exact ⟨rfl, rfl, fun slot => rfl⟩
  | quiet found current finding quiet logs =>
    exact ⟨logs.silent.starts, logs.silent.stops, logs.silent.restarts⟩
  | exhausted found current spent logs =>
    exact ⟨logs.silent.starts, logs.silent.stops, logs.silent.restarts⟩
  | repair found current same left logs =>
    rcases logs.silent with ⟨starts, stops, restarts⟩
    refine ⟨?_, ?_, ?_⟩
    · rw [starts_append, starts]
      rfl
    · rw [stops_append, stops]
      rfl
    · intro slot
      rw [restarts_append, restarts]
      rfl

/-- When the old instance of a restart has stopped, only the new one is asked for. -/
theorem relaunch_asks (supervisor : Supervisor) (control : Control) (board : Board)
    (repair : Repair) (failure : Option Failure) :
    starts (supervisor.relaunch control board repair failure).effects = [repair.old.slot] ∧
      stops (supervisor.relaunch control board repair failure).effects = [] ∧
      ∀ slot, restarts slot (supervisor.relaunch control board repair failure).effects = [] := by
  cases failure <;> exact ⟨rfl, rfl, fun slot => rfl⟩

/-- After the launch of a restart nothing is asked for that starts or stops an instance. -/
theorem Finished.asks {slot : Slot} {failure : Option Failure} {progress : Loop}
    (finished : Finished supervisor now control board slot failure progress effects) :
    starts effects = [] ∧ stops effects = [] := by
  cases finished with
  | failed => exact ⟨rfl, rfl⟩
  | renewed found => exact ⟨rfl, rfl⟩

/-! ## The end of a run -/

/-- Of several instances the first is asked to stop, and nothing else is asked for. -/
theorem Stopping.asks {failure : Option Failure} {left : List Instance} {phase : Phase}
    (down : Stopping failure board left phase after effects) :
    starts effects = [] ∧ stops effects = left.take 1 ∧ ∀ slot, restarts slot effects = [] := by
  cases down with
  | ended => exact ⟨rfl, rfl, fun slot => rfl⟩
  | next => exact ⟨rfl, rfl, fun slot => rfl⟩

theorem Proceeds.asks {progress : Loop} {phase : Phase}
    (proceeds : Proceeds progress phase after effects) :
    starts effects = [] ∧ ∀ slot, restarts slot effects = [] := by
  cases proceeds with
  | done => exact ⟨rfl, fun slot => rfl⟩
  | repairing => exact ⟨rfl, fun slot => rfl⟩
  | broken down => exact ⟨down.asks.1, down.asks.2.2⟩

/-- Whatever follows from a report, no restart is reported before it is over. -/
theorem Applied.unrestarted {report : Report} {progress further : Loop} {phase : Phase}
    {rest : List Effect} (applied : Applied supervisor control board report progress effects)
    (proceeds : Proceeds further phase after rest) (slot : Slot) :
    restarts slot (effects ++ rest) = [] := by
  rw [restarts_append, applied.asks.2.2, proceeds.asks.2]
  rfl

theorem stopEffects_silent (stopped : Instance) (refusal : Option Failure) :
    Silent (stopEffects stopped refusal) := by
  cases refusal with
  | none => exact ⟨rfl, rfl, fun slot => rfl⟩
  | some reason => exact ⟨rfl, rfl, fun slot => rfl⟩

end Supervisor

end Convoy
