import Convoy.Proofs.Gate.Timing
import Convoy.Proofs.Supervisor.Invariant

/-!
# How often a gate is tried

A service at a gate starts its attempts no earlier than they are due, whatever the answers take and
whatever the other services do meanwhile. So it makes no more attempts than are due before the time
of the gate is over, and the count that it keeps is the number of attempts that it has asked for.
-/

namespace Convoy

namespace Visit

/-- The first attempts at a gate have been made, and the next one is not made before it is due. -/
def Reaches (visit : Visit) (made : Nat) (instant : Duration) : Prop :=
  min (visit.gate.due visit.begun made) visit.deadline ≤ instant

variable {visit : Visit} {made : Nat} {instant later : Duration}

theorem Reaches.mono (reaches : visit.Reaches made instant) (passes : instant ≤ later) :
    visit.Reaches made later :=
  Nat.le_trans reaches passes

/-- The first attempt is due at once. -/
theorem reaches_zero (gate : Gate) (begun started : Duration) :
    Visit.Reaches ⟨gate, begun, 0, started⟩ 0 begun := by
  rw [Reaches, deadline, Gate.min_due_zero]
  exact Nat.le_refl _

/-- After an attempt the wait goes on when the next one is due. -/
theorem Reaches.nextStart (reaches : visit.Reaches made visit.started) (finished : Duration) :
    visit.Reaches (made + 1) (visit.nextStart finished) :=
  Gate.due_le_nextStart reaches

theorem Reaches.lt_slots (reaches : visit.Reaches made instant)
    (inTime : instant < visit.deadline) : made < visit.gate.slots :=
  Gate.lt_slots_of_inTime reaches inTime

end Visit

namespace Stage

/-- The visit of a service that is at a gate. -/
def visit? : Stage → Option Visit
  | connecting visit _ _ => some visit
  | pausing visit _ _ _ => some visit
  | _ => none

/-- A service at a gate has kept to the times at which its attempts are due. -/
def Paced : Stage → Prop
  | connecting visit _ _ =>
    ∃ made, visit.attempts = made + 1 ∧ visit.Reaches made visit.started ∧
      visit.started < visit.deadline
  | pausing visit due _ _ =>
    visit.attempts ≤ visit.gate.slots ∧ visit.Reaches visit.attempts due
  | _ => True

variable {stage : Stage} {visit : Visit}

theorem paced_of_visit?_eq_none (away : stage.visit? = none) : stage.Paced := by
  cases stage with
  | connecting => cases away
  | pausing => cases away
  | _ => trivial

/-- No more attempts have been made at a gate than are due in its time. -/
theorem Paced.attempts_le_slots (paced : stage.Paced) (present : stage.visit? = some visit) :
    visit.attempts ≤ visit.gate.slots := by
  cases stage with
  | connecting current dependency rest =>
    cases present
    rcases paced with ⟨made, counted, reaches, inTime⟩
    rw [counted]
    exact reaches.lt_slots inTime
  | pausing current due dependency rest =>
    cases present
    exact paced.1
  | _ => cases present

end Stage

namespace Supervisor

open History

variable {supervisor : Supervisor} {mail : Mail} {history : List Turn} {startup : Startup}
  {board after : Board} {service : Service} {stage next : Stage} {now : Duration}
  {happening : Happening} {effects : List Effect} {state : State} {visit : Visit}

/-! ## Stages away from a gate -/

@[simp]
theorem visit?_drain (service : Service) (launched : List Instance) :
    (drain service launched).next.visit? = none := by
  cases launched <;> rfl

@[simp]
theorem visit?_launch (supervisor : Supervisor) (service : Service) (index : Nat)
    (launched : List Instance) :
    (supervisor.launch service index launched).next.visit? = none := by
  rcases launch_cases supervisor service index launched with
    ⟨-, equal⟩ | ⟨-, -, equal⟩ | ⟨-, -, equal⟩
  · rw [equal]
    rfl
  · rw [equal]
    exact visit?_drain service launched
  · rw [equal]
    rfl

/-! ## Keeping the pace -/

theorem paced_attempt (service : Service) (dependency : Dependency) (rest : List Dependency)
    (reaches : visit.Reaches visit.attempts now) :
    (supervisor.attempt service visit dependency rest now).next.Paced := by
  rcases supervisor.attempt_cases service visit dependency rest now with
    ⟨inTime, -, equal⟩ | ⟨-, -, equal⟩ | ⟨-, equal⟩
  · rw [equal]
    exact ⟨visit.attempts, rfl, reaches, inTime⟩
  · rw [equal]
    trivial
  · rw [equal]
    trivial

theorem StageStep.paced
    (step : StageStep supervisor now startup board service stage happening next after effects)
    (paced : stage.Paced) : next.Paced := by
  cases step with
  | begun => exact paced_attempt service _ _ (Visit.reaches_zero _ now now)
  | refused inClock =>
    rcases paced with ⟨made, counted, reaches, inTime⟩
    refine ⟨?_, ?_⟩
    · rw [counted]
      exact reaches.lt_slots inTime
    · rw [counted]
      exact reaches.nextStart now
  | retried ready => exact paced_attempt service _ _ (paced.2.mono ready)
  | cleared => exact Stage.paced_of_visit?_eq_none (visit?_launch ..)
  | launched => exact Stage.paced_of_visit?_eq_none (visit?_launch ..)
  | exitedWell => exact Stage.paced_of_visit?_eq_none (visit?_drain ..)
  | _ => trivial

/-! ## Counting attempts -/

/-- The attempts that a service has asked for since it came to a gate are as many as it counts, and
all of them go to the target of the gate. -/
def Counted (history : List Turn) (name : String) (visit : Visit) : Prop :=
  ∃ before first rest, history = before ++ first :: rest ∧
    first.happening = .resumed name ∧ first.moment = visit.begun ∧
    ((first :: rest).flatMap (Turn.dials name)).map (·.target) =
      List.replicate visit.attempts visit.gate.target

theorem Counted.concat {turn : Turn} {name : String} (counted : Counted history name visit)
    (silent : turn.dials name = []) : Counted (history ++ [turn]) name visit := by
  rcases counted with ⟨before, first, rest, rfl, resumed, moment, asked⟩
  refine ⟨before, first, rest ++ [turn], by simp, resumed, moment, ?_⟩
  rw [← List.cons_append, List.flatMap_append, List.flatMap_singleton, silent, List.append_nil]
  exact asked

/-- Where a service asks for an attempt, it counts one more. -/
theorem Counted.attempt {name : String} (counted : Counted history name visit) {turn : Turn}
    {started : Duration} (asked : (turn.dials name).map (·.target) = [visit.gate.target]) :
    Counted (history ++ [turn]) name
      { visit with attempts := visit.attempts + 1, started := started } := by
  rcases counted with ⟨before, first, rest, rfl, resumed, moment, former⟩
  refine ⟨before, first, rest ++ [turn], by simp, resumed, moment, ?_⟩
  rw [← List.cons_append, List.flatMap_append, List.flatMap_singleton, List.map_append, former,
    asked]
  exact List.replicate_succ'.symm

/-- A service that is at a gate after an attempt is due has asked for this attempt. -/
theorem attempt_of_visit? {dependency : Dependency} {rest : List Dependency} {reached : Visit}
    (present : (supervisor.attempt service visit dependency rest now).next.visit? = some reached) :
    reached = { visit with attempts := visit.attempts + 1, started := now } ∧
      (supervisor.attempt service visit dependency rest now).effects =
        [.request (.connect service.name visit.gate.target
          (visit.gate.budget visit.deadline now))] := by
  rcases supervisor.attempt_cases service visit dependency rest now with
    ⟨-, -, equal⟩ | ⟨-, -, equal⟩ | ⟨-, equal⟩
  · rw [equal] at present ⊢
    cases present
    exact ⟨rfl, rfl⟩
  · rw [equal] at present
    cases present
  · rw [equal] at present
    cases present

theorem StageStep.counted
    (step : StageStep supervisor now startup board service stage happening next after effects)
    (counted : ∀ visit, stage.visit? = some visit → Counted history service.name visit)
    (state : State) (reached : Visit) (present : next.visit? = some reached) :
    Counted (history ++ [⟨now, happening, effects, state⟩]) service.name reached := by
  cases step with
  | begun =>
    rcases attempt_of_visit? present with ⟨rfl, asked⟩
    refine ⟨history, _, [], rfl, rfl, rfl, ?_⟩
    simp [Turn.dials, asked]
  | refused inClock =>
    cases present
    exact (counted _ rfl).concat rfl
  | retried =>
    rcases attempt_of_visit? present with ⟨rfl, asked⟩
    apply (counted _ rfl).attempt
    simp [Turn.dials, asked]
  | cleared => simp at present
  | launched => simp at present
  | exitedWell => simp at present
  | _ => cases present

/-! ## Runs -/

/-- All services at gates have kept to the times of their attempts, and have counted them. -/
def Measured (history : List Turn) (startup : Startup) : Prop :=
  ∀ name stage, startup.stages.get? name = some stage → stage.Paced ∧
    ∀ visit, stage.visit? = some visit → Counted history name visit

theorem Measured.start (topology : Topology) : Measured [] (.ofTopology topology) := by
  intro name stage found
  rcases (Startup.get?_ofTopology _).1 found with ⟨service, -, -, rfl⟩
  exact ⟨trivial, fun visit present => nomatch present⟩

theorem Measured.step (measured : Measured history startup)
    (standing : startup.stages.get? service.name = some stage)
    (step : StageStep supervisor now startup board service stage happening next after effects)
    (state : State) :
    Measured (history ++ [⟨now, happening, effects, state⟩])
      (startup.setStage service.name next) := by
  intro name current found
  rw [Startup.get?_setStage] at found
  split at found
  case isTrue same =>
    cases same
    cases found
    rcases measured service.name stage standing with ⟨paced, counted⟩
    exact ⟨step.paced paced, step.counted counted state⟩
  case isFalse different =>
    rcases measured name current found with ⟨paced, counted⟩
    refine ⟨paced, fun visit present => (counted visit present).concat ?_⟩
    exact step.dials_of_ne state (Ne.symm different)

/-- While a topology starts, every service has kept count of its attempts. -/
theorem Run.measured (run : supervisor.Run mail history state)
    (starting : state.phase = .starting startup) : Measured history startup := by
  induction run generalizing startup with
  | start =>
    cases starting
    exact .start supervisor.topology
  | exchange mailbox allowed before induction => cases starting
  | @step history state moment happening move before made induction =>
    have step := Step.of_step? made
    generalize move.next = next at step starting ⊢
    generalize move.effects = effects at step ⊢
    cases step with
    | stage declared standing step =>
      cases starting
      exact (induction rfl).step standing step _
    | joined standing hasEnded fresh =>
      cases starting
      intro name stage found
      rcases induction rfl name stage found with ⟨paced, counted⟩
      exact ⟨paced, fun visit present => (counted visit present).concat rfl⟩
    | startupFailed settled failed down => exact absurd starting (down.ne_of_up rfl)
    | shutdown heeds down => exact absurd starting (down.ne_of_up rfl)
    | handled taken proceeds => exact absurd starting proceeds.ne_starting
    | repaired begun proceeds => exact absurd starting proceeds.ne_starting
    | stopped down => exact absurd starting (down.ne_of_up rfl)
    | _ => cases starting

/-- The visit of a service that is at a gate. -/
def State.visit? (state : State) (name : String) : Option Visit :=
  match state.phase with
  | .starting startup => (startup.stages.get? name).bind Stage.visit?
  | _ => none

theorem State.visit?_eq_some_iff {name : String} :
    state.visit? name = some visit ↔ ∃ startup stage, state.phase = .starting startup ∧
      startup.stages.get? name = some stage ∧ stage.visit? = some visit := by
  unfold State.visit?
  cases state.phase <;> simp [Option.bind_eq_some_iff]

/-- A service at a gate is at one of its own gates, has asked for as many attempts as it counts, and
for no more than are due before the time is over. -/
theorem Run.visited (run : supervisor.Run mail history state)
    (declared : supervisor.topology.service? service.name = some service)
    (present : state.visit? service.name = some visit) :
    (∃ dependency, supervisor.gateFor? service dependency = some visit.gate) ∧
      Counted history service.name visit ∧ visit.attempts ≤ visit.gate.slots := by
  rcases State.visit?_eq_some_iff.1 present with ⟨startup, stage, starting, standing, present⟩
  have former := run.invariant.phase
  rw [starting] at former
  have fits := StartupFits.stageFits former declared standing
  rcases run.measured starting service.name stage standing with ⟨paced, counted⟩
  refine ⟨?_, counted visit present, paced.attempts_le_slots present⟩
  cases stage with
  | connecting current dependency rest =>
    cases present
    rcases fits with ⟨-, -, before, since, -, dialling⟩
    exact ⟨dependency.service, dialling.gate⟩
  | pausing current due dependency rest =>
    cases present
    rcases fits with ⟨-, -, before, since, -, waits⟩
    exact ⟨dependency.service, waits.gate⟩
  | _ => cases present

end Supervisor

end Convoy
