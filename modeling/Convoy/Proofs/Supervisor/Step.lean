import Convoy.Proofs.Topology
import Convoy.Supervisor.Run

/-!
# What a step can do

Every step that a supervisor accepts, listed once with the conditions under which it is taken. The
relations follow the shape of the machine: `StageStep` for one starting service, `Stopping` for
taking instances down, `Proceeds` for the control loop after it has handled something, and `Step`
for the whole. Invariants are proved by cases on them; the functions themselves are opened only here.
-/

namespace Convoy

/-- Whether a service has failed, crashed or been called off. -/
def Stage.isSetback : Stage → Bool
  | ended (some _) => true
  | cancelled _ => true
  | crashed .. => true
  | _ => false

theorem Stage.isOver_of_isCalling {stage : Stage} (calling : stage.isCalling = true) :
    stage.isOver = false := by
  cases stage with
  | ended outcome => cases calling
  | cancelled reached => cases calling
  | crashed reached failure => cases calling
  | _ => rfl

theorem Stage.isOver_of_hasEnded {stage : Stage} (hasEnded : stage.hasEnded = true) :
    stage.isOver = true := by
  cases stage with
  | ended outcome => rfl
  | crashed reached failure => rfl
  | _ => cases hasEnded

theorem Stage.hasEnded_of_failure? {stage : Stage} {failure : Failure}
    (told : stage.failure? = some failure) : stage.hasEnded = true := by
  cases stage with
  | ended outcome => rfl
  | crashed reached failure => rfl
  | _ => cases told

theorem Stage.isSetback_of_failure? {stage : Stage} {failure : Failure}
    (told : stage.failure? = some failure) : stage.isSetback = true := by
  cases stage with
  | ended outcome =>
    cases told
    rfl
  | crashed reached failure => rfl
  | _ => cases told

/-- A service that has come to an end is up, or has a failure to tell of. -/
theorem Stage.eq_ended_or_exists_failure {stage : Stage} (hasEnded : stage.hasEnded = true) :
    stage = .ended none ∨ ∃ failure, stage.failure? = some failure := by
  cases stage with
  | ended outcome =>
    cases outcome with
    | none => exact .inl rfl
    | some failure => exact .inr ⟨failure, rfl⟩
  | crashed reached failure => exact .inr ⟨failure, rfl⟩
  | _ => cases hasEnded

/-- Whether the topology is taken down in a phase, or has been. -/
def Phase.isDown : Phase → Bool
  | stopping .. => true
  | ended _ => true
  | _ => false

namespace Supervisor

variable {supervisor : Supervisor}

/-! ## Starting services -/

/-- An attempt at a gate is made exactly if its deadline has not come, and if the clock reaches it. -/
theorem attempt_cases (supervisor : Supervisor) (service : Service) (visit : Visit)
    (dependency : Dependency) (rest : List Dependency) (now : Duration) :
    (now < visit.deadline ∧ visit.deadline.IsInstant ∧
      supervisor.attempt service visit dependency rest now =
        ⟨.connecting { visit with attempts := visit.attempts + 1, started := now } dependency rest,
          [.request (.connect service.name visit.gate.target
            (visit.gate.budget visit.deadline now))]⟩) ∨
    (now < visit.deadline ∧ ¬ visit.deadline.IsInstant ∧
      supervisor.attempt service visit dependency rest now =
        ⟨.crashed .pending (supervisor.crashFailure service), []⟩) ∨
    (visit.deadline ≤ now ∧
      supervisor.attempt service visit dependency rest now =
        ⟨.ended (some (visit.gate.timeoutError visit.attempts : Failure)), []⟩) := by
  unfold attempt
  split
  · rename_i inTime
    split
    · rename_i fits
      exact Or.inl ⟨inTime, fits, rfl⟩
    · rename_i beyond
      exact Or.inr (Or.inl ⟨inTime, beyond, rfl⟩)
  · rename_i late
    exact Or.inr (Or.inr ⟨Nat.le_of_not_lt late, rfl⟩)

/-- Waiting for instances to end is over when there are none left. -/
theorem drain_cases (service : Service) (launched : List Instance) :
    (launched = [] ∧
      drain service launched =
        ⟨.ended none,
          [.line (.info s!"✓ {service.name} completed"), .event service.name .completed]⟩) ∨
    (∃ current rest, launched = current :: rest ∧
      drain service launched = ⟨.draining current rest, [.request (.awaitExit current)]⟩) := by
  cases launched with
  | nil => exact Or.inl ⟨rfl, rfl⟩
  | cons current rest => exact Or.inr ⟨current, rest, rfl, rfl⟩

/-- The next launch is asked for, unless all instances are there. -/
theorem launch_cases (supervisor : Supervisor) (service : Service) (index : Nat)
    (launched : List Instance) :
    (index < service.replicas ∧
      supervisor.launch service index launched =
        ⟨.launching index launched, [supervisor.startRequest ⟨service.name, index⟩]⟩) ∨
    (service.replicas ≤ index ∧ service.role.isOneShot = true ∧
      supervisor.launch service index launched = drain service launched) ∨
    (service.replicas ≤ index ∧ service.role.isOneShot = false ∧
      supervisor.launch service index launched = ⟨.ended none, []⟩) := by
  unfold launch
  split
  · rename_i more
    exact Or.inl ⟨more, rfl⟩
  · rename_i all
    have enough : service.replicas ≤ index := Nat.le_of_not_lt all
    by_cases oneShot : service.role.isOneShot = true
    · exact Or.inr (Or.inl ⟨enough, oneShot, if_pos oneShot⟩)
    · exact Or.inr (Or.inr ⟨enough, by simpa using oneShot, if_neg oneShot⟩)

/-- Waiting for instances to end leads to no failure by itself. -/
theorem isSetback_drain (service : Service) (launched : List Instance) :
    (drain service launched).next.isSetback = false := by
  cases launched with
  | nil => rfl
  | cons current rest => rfl

/-- Going on with the launches leads to no failure by itself. -/
theorem isSetback_launch (supervisor : Supervisor) (service : Service) (index : Nat)
    (launched : List Instance) :
    (supervisor.launch service index launched).next.isSetback = false := by
  rcases launch_cases supervisor service index launched with
    ⟨-, equal⟩ | ⟨-, -, equal⟩ | ⟨-, -, equal⟩
  · rw [equal]
    rfl
  · rw [equal]
    exact isSetback_drain service launched
  · rw [equal]
    rfl

/-- The step of one starting service: the stage it leaves, what happens, the stage it comes to, the
board after it, and what is done. -/
inductive StageStep (supervisor : Supervisor) (now : Duration) (startup : Startup) (board : Board)
    (service : Service) : Stage → Happening → Stage → Board → List Effect → Prop where
  | dependencyFailed {dependency : Dependency} {rest : List Dependency}
      (failed : startup.statusOf supervisor.topology dependency.service = .failed) :
      StageStep supervisor now startup board service
        (.awaiting (dependency :: rest)) (.resumed service.name)
        (.ended (some
          (SupervisorError.dependencyFailed service.name dependency.service : Failure)))
        board []
  | begun {dependency : Dependency} {rest : List Dependency} {gate : Gate} {line : LogLine}
      (settled : (startup.statusOf supervisor.topology dependency.service).settles
        dependency.condition = true)
      (sound : startup.statusOf supervisor.topology dependency.service ≠ .failed)
      (reachable : dependency.condition = .reachable)
      (found : supervisor.gateFor? service dependency.service = some gate) :
      StageStep supervisor now startup board service
        (.awaiting (dependency :: rest)) (.resumed service.name)
        (supervisor.attempt service ⟨gate, now, 0, now⟩ dependency rest now).next
        board
        (.line line :: (supervisor.attempt service ⟨gate, now, 0, now⟩ dependency rest now).effects)
  | passed {dependency : Dependency} {rest : List Dependency}
      (settled : (startup.statusOf supervisor.topology dependency.service).settles
        dependency.condition = true)
      (sound : startup.statusOf supervisor.topology dependency.service ≠ .failed)
      (ungated : dependency.condition = .completed ∨
        supervisor.gateFor? service dependency.service = none) :
      StageStep supervisor now startup board service
        (.awaiting (dependency :: rest)) (.resumed service.name)
        (.awaiting rest) board [.event service.name (.gatePassed dependency.service)]
  | cleared :
      StageStep supervisor now startup board service
        (.awaiting []) (.resumed service.name)
        (supervisor.launch service 0 []).next board (supervisor.launch service 0 []).effects
  | connected {visit : Visit} {dependency : Dependency} {rest : List Dependency} :
      StageStep supervisor now startup board service
        (.connecting visit dependency rest) (.attemptEnded service.name none)
        (.awaiting rest) board
        [.line (visit.line now none), .event service.name (.gatePassed dependency.service)]
  | refused {visit : Visit} {dependency : Dependency} {rest : List Dependency} {reason : String}
      (inClock : (visit.started + visit.gate.pollInterval).IsInstant) :
      StageStep supervisor now startup board service
        (.connecting visit dependency rest) (.attemptEnded service.name (some reason))
        (.pausing visit (visit.nextStart now) dependency rest) board
        [.line (visit.line now (some reason))]
  | overran {visit : Visit} {dependency : Dependency} {rest : List Dependency} {reason : String}
      (beyond : ¬ (visit.started + visit.gate.pollInterval).IsInstant) :
      StageStep supervisor now startup board service
        (.connecting visit dependency rest) (.attemptEnded service.name (some reason))
        (.crashed .pending (supervisor.crashFailure service)) board
        [.line (visit.line now (some reason))]
  | retried {visit : Visit} {due : Duration} {dependency : Dependency} {rest : List Dependency}
      (ready : due ≤ now) :
      StageStep supervisor now startup board service
        (.pausing visit due dependency rest) (.retried service.name)
        (supervisor.attempt service visit dependency rest now).next board
        (supervisor.attempt service visit dependency rest now).effects
  | launchFailed {index : Nat} {launched : List Instance} {failure : Failure} :
      StageStep supervisor now startup board service
        (.launching index launched) (.startEnded ⟨service.name, index⟩ (some failure))
        (.ended (some
          (failure.within ("Failed to start " ++ (Slot.mk service.name index).text))))
        board []
  | launched {index : Nat} {launched : List Instance} {line : LogLine} :
      StageStep supervisor now startup board service
        (.launching index launched) (.startEnded ⟨service.name, index⟩ none)
        (supervisor.launch service (index + 1)
          (launched ++ [board.nextInstance ⟨service.name, index⟩])).next
        (board.enter ⟨service.name, index⟩)
        (.line line :: .event service.name (.started index) ::
          (supervisor.launch service (index + 1)
            (launched ++ [board.nextInstance ⟨service.name, index⟩])).effects)
  | waitFailed {current : Instance} {rest : List Instance} {failure : Failure} :
      StageStep supervisor now startup board service
        (.draining current rest) (.exited current (.error failure))
        (.ended (some failure)) board []
  | exitedBadly {current : Instance} {rest : List Instance} {code : Option Int}
      (bad : code ≠ some 0) :
      StageStep supervisor now startup board service
        (.draining current rest) (.exited current (.ok code))
        (.ended (some (SupervisorError.oneShotFailed service.name code : Failure)))
        (board.forget current.id) []
  | exitedWell {current : Instance} {rest : List Instance} :
      StageStep supervisor now startup board service
        (.draining current rest) (.exited current (.ok (some 0)))
        (drain service rest).next (board.forget current.id) (drain service rest).effects
  | cancelled {stage : Stage} (aborting : startup.isAborting = true)
      (ongoing : stage.isOver = false) :
      StageStep supervisor now startup board service
        stage (.cancelled service.name)
        (.cancelled (stage.status service.role.isOneShot)) board []
  | crashed {stage : Stage} (calling : stage.isCalling = true) :
      StageStep supervisor now startup board service
        stage (.crashed service.name) (supervisor.crash service stage) board []

/-- What a service does when it finds that a dependency has come far enough. -/
theorem StageStep.of_resume?
    {startup : Startup} {board : Board} {service : Service} {now : Duration}
    {dependencies : List Dependency} {move : Move Stage}
    (made : supervisor.resume? startup service now dependencies = some move) :
    StageStep supervisor now startup board service (.awaiting dependencies)
      (.resumed service.name) move.next board move.effects := by
  cases dependencies with
  | nil =>
    cases made
    exact .cleared
  | cons dependency rest =>
    unfold resume? at made
    dsimp only at made
    split at made
    case isFalse => cases made
    case isTrue settled =>
      by_cases failed : startup.statusOf supervisor.topology dependency.service = .failed
      · rw [failed] at made
        cases made
        exact .dependencyFailed failed
      · rw [if_neg (by simpa using failed)] at made
        split at made
        · rename_i gate reachable found
          cases made
          exact .begun settled failed reachable found
        · rename_i other
          cases made
          refine .passed settled failed ?_
          cases condition : dependency.condition with
          | completed => exact Or.inl rfl
          | reachable =>
            refine Or.inr (Option.eq_none_iff_forall_ne_some.2 fun gate found => ?_)
            exact other gate condition found

/-- Every move of a starting service is one of the listed steps. -/
theorem StageStep.of_stageStep?
    {startup : Startup} {board : Board} {service : Service} {now : Duration} {stage : Stage}
    {happening : Happening} {move : Move (Stage × Board)}
    (concerned : concerned? happening = some service.name)
    (made : supervisor.stageStep? now startup board service stage happening = some move) :
    StageStep supervisor now startup board service stage happening
      move.next.1 move.next.2 move.effects := by
  unfold stageStep? at made
  split at made
  · cases concerned
    rcases Option.map_eq_some_iff.1 made with ⟨resumed, found, rfl⟩
    exact .of_resume? found
  · rename_i refusal
    cases concerned
    cases made
    cases refusal with
    | none => exact .connected
    | some reason =>
      unfold finishAttempt
      dsimp only
      split
      · rename_i inClock
        exact .refused inClock
      · rename_i beyond
        exact .overran beyond
  · cases concerned
    split at made
    · rename_i ready
      cases made
      exact .retried ready
    · cases made
  · rename_i index launched slot failure
    split at made
    · rename_i same
      rcases slot with ⟨name, place⟩
      cases concerned
      cases same
      cases made
      cases failure with
      | none => exact .launched
      | some reason => exact .launchFailed
    · cases made
  · rename_i current rest target outcome
    split at made
    · rename_i same
      subst same
      cases made
      cases outcome with
      | error failure => exact .waitFailed
      | ok code =>
        by_cases good : code = some 0
        · subst good
          exact .exitedWell
        · simp only [finishExit, if_neg good]
          exact .exitedBadly good
    · cases made
  · cases concerned
    split at made
    · rename_i possible
      rw [Bool.and_eq_true, Bool.not_eq_true'] at possible
      cases made
      exact .cancelled possible.1 possible.2
    · cases made
  · cases concerned
    split at made
    · rename_i calling
      cases made
      exact .crashed calling
    · cases made
  · cases made

/-! ## Taking instances down -/

/-- How the given instances, which are left to be stopped, are gone about. -/
inductive Stopping (failure : Option Failure) (board : Board) :
    List Instance → Phase → Board → List Effect → Prop where
  | ended : Stopping failure board [] (.ended failure) board []
  | next {current : Instance} {rest : List Instance} :
      Stopping failure board (current :: rest) (.stopping current rest failure)
        (board.unroute current.slot) [.request (.stop current)]

theorem Stopping.isDown
    {failure : Option Failure} {board after : Board} {left : List Instance} {phase : Phase}
    {effects : List Effect} (down : Stopping failure board left phase after effects) :
    phase.isDown = true := by
  cases down with
  | ended => rfl
  | next => rfl

theorem Stopping.of_stopEach (failure : Option Failure) (board : Board) (left : List Instance) :
    Stopping failure board left (stopEach failure board left).next.1
      (stopEach failure board left).next.2 (stopEach failure board left).effects := by
  cases left with
  | nil => exact .ended
  | cons current rest => exact .next

/-! ## The control loop -/

/-- Where the loop goes on after it has acted. -/
inductive Proceeds : Loop → Phase → Board → List Effect → Prop where
  | done {control : Control} {board : Board} :
      Proceeds ⟨control, board, .done⟩ (.supervising control) board []
  | repairing {control : Control} {board : Board} {repair : Repair} :
      Proceeds ⟨control, board, .repairing repair⟩ (.repairing control repair) board []
  | broken {control : Control} {board after : Board} {failure : Failure} {phase : Phase}
      {line : LogLine} {effects : List Effect}
      (down : Stopping (some failure) { board with running := [] } board.running.reverse
        phase after effects) :
      Proceeds ⟨control, board, .broken failure⟩ phase after (.line line :: effects)

theorem Proceeds.of_ofLoop (progress : Loop) :
    Proceeds progress (ofLoop progress).next.1 (ofLoop progress).next.2
      (ofLoop progress).effects := by
  rcases progress with ⟨control, board, _ | repair | failure⟩
  · exact .done
  · exact .repairing
  · exact .broken (.of_stopEach _ _ _)

/-! ## The whole machine -/

/-- Whether a shutdown is heeded in a phase. -/
inductive Heeds : Phase → Prop where
  | starting {startup : Startup} : Heeds (.starting startup)
  | supervising {control : Control} : Heeds (.supervising control)

/-- The steps of a supervisor at an instant. -/
inductive Step (supervisor : Supervisor) (now : Duration) :
    State → Happening → State → List Effect → Prop where
  | stage {moment : Duration} {startup : Startup} {board after : Board} {service : Service}
      {stage next : Stage} {happening : Happening} {effects : List Effect}
      (declared : supervisor.topology.service? service.name = some service)
      (standing : startup.stages.get? service.name = some stage)
      (step : StageStep supervisor now startup board service stage happening next after effects) :
      Step supervisor now ⟨moment, .starting startup, board⟩ happening
        ⟨now, .starting (startup.setStage service.name next), after⟩ effects
  | joined {moment : Duration} {startup : Startup} {board : Board} {name : String} {stage : Stage}
      (standing : startup.stages.get? name = some stage) (hasEnded : stage.hasEnded = true)
      (fresh : name ∉ startup.joined) :
      Step supervisor now ⟨moment, .starting startup, board⟩ (.joined name)
        ⟨now, .starting { startup with joined := startup.joined ++ [name] }, board⟩ []
  | startedUp {moment : Duration} {startup : Startup} {board : Board} {line : LogLine}
      (settled : startup.isSettled = true) (sound : startup.failure? = none) :
      Step supervisor now ⟨moment, .starting startup, board⟩ .settled
        ⟨now, .supervising (supervisor.watchAll now board).next.1,
          (supervisor.watchAll now board).next.2⟩
        (.line line :: (supervisor.watchAll now board).effects)
  | startupFailed {moment : Duration} {startup : Startup} {board after : Board}
      {failure : Failure} {phase : Phase} {line : LogLine} {effects : List Effect}
      (settled : startup.isSettled = true) (failed : startup.failure? = some failure)
      (down : Stopping (some failure) { board with running := [] } board.running.reverse
        phase after effects) :
      Step supervisor now ⟨moment, .starting startup, board⟩ .settled
        ⟨now, phase, after⟩ (.line line :: effects)
  | shutdown {moment : Duration} {phase next : Phase} {board after : Board} {line : LogLine}
      {effects : List Effect}
      (heeds : Heeds phase)
      (down : Stopping none { board with running := [] } board.running.reverse
        next after effects) :
      Step supervisor now ⟨moment, phase, board⟩ .shutdown
        ⟨now, next, after⟩ (.line line :: effects)
  | handled {moment : Duration} {control left : Control} {board after : Board} {report : Report}
      {phase : Phase} {effects : List Effect}
      (taken : supervisor.take? now control = some (report, left))
      (proceeds : Proceeds (supervisor.apply left board report).next phase after effects) :
      Step supervisor now ⟨moment, .supervising control, board⟩ .handled
        ⟨now, phase, after⟩ ((supervisor.apply left board report).effects ++ effects)
  | monitored {moment : Duration} {control next : Control} {board : Board} {happening : Happening}
      (seen : supervisor.monitorStep? now control happening = some next) :
      Step supervisor now ⟨moment, .supervising control, board⟩ happening
        ⟨now, .supervising next, board⟩ []
  | relaunched {moment : Duration} {control : Control} {board : Board} {repair : Repair}
      {failure : Option Failure}
      (stopping : repair.stage = .stopping) :
      Step supervisor now ⟨moment, .repairing control repair, board⟩
        (.stopEnded repair.old failure)
        ⟨now, .repairing control { repair with stage := .starting }, board⟩
        (supervisor.relaunch control board repair failure).effects
  | repaired {moment : Duration} {control : Control} {board after : Board} {repair : Repair}
      {failure : Option Failure} {phase : Phase} {effects : List Effect}
      (starting : repair.stage = .starting)
      (proceeds : Proceeds (supervisor.finishRepair now control board repair failure).next
        phase after effects) :
      Step supervisor now ⟨moment, .repairing control repair, board⟩
        (.startEnded repair.old.slot failure)
        ⟨now, phase, after⟩
        ((supervisor.finishRepair now control board repair failure).effects ++ effects)
  | monitoredMeanwhile {moment : Duration} {control next : Control} {board : Board}
      {repair : Repair} {happening : Happening}
      (seen : supervisor.monitorStep? now control happening = some next) :
      Step supervisor now ⟨moment, .repairing control repair, board⟩ happening
        ⟨now, .repairing next repair, board⟩ []
  | stopped {moment : Duration} {current : Instance} {rest : List Instance} {board after : Board}
      {failure refusal : Option Failure} {phase : Phase} {effects : List Effect}
      (down : Stopping failure board rest phase after effects) :
      Step supervisor now ⟨moment, .stopping current rest failure, board⟩
        (.stopEnded current refusal) ⟨now, phase, after⟩ (stopEffects current refusal ++ effects)

theorem Step.of_serviceStep?
    {now moment : Duration} {startup : Startup} {board : Board} {happening : Happening}
    {move : Move (Phase × Board)}
    (made : supervisor.serviceStep? now startup board happening = some move) :
    Step supervisor now ⟨moment, .starting startup, board⟩ happening
      ⟨now, move.next.1, move.next.2⟩ move.effects := by
  unfold serviceStep? at made
  rcases Option.bind_eq_some_iff.1 made with ⟨name, concerned, made⟩
  rcases Option.bind_eq_some_iff.1 made with ⟨service, declared, made⟩
  rcases Option.bind_eq_some_iff.1 made with ⟨stage, standing, made⟩
  rcases Option.bind_eq_some_iff.1 made with ⟨inner, stepped, made⟩
  cases made
  have named := Topology.service?_name declared
  subst named
  exact .stage declared standing (.of_stageStep? concerned stepped)

theorem Step.of_startingStep?
    {now moment : Duration} {startup : Startup} {board : Board} {happening : Happening}
    {move : Move (Phase × Board)}
    (made : supervisor.startingStep? now startup board happening = some move) :
    Step supervisor now ⟨moment, .starting startup, board⟩ happening
      ⟨now, move.next.1, move.next.2⟩ move.effects := by
  unfold startingStep? at made
  split at made
  · split at made
    · rename_i standing
      split at made
      · cases made
      · rename_i fresh
        rw [Bool.or_eq_true, not_or, Bool.not_eq_true', Bool.not_eq_false] at fresh
        cases made
        exact .joined standing fresh.1 (by simpa using fresh.2)
    · cases made
  · split at made
    · rename_i settled
      cases made
      unfold settle
      split
      · rename_i failure failed
        exact .startupFailed settled failed (.of_stopEach _ _ _)
      · rename_i sound
        exact .startedUp settled sound
    · cases made
  · cases made
    exact .shutdown .starting (.of_stopEach _ _ _)
  · exact .of_serviceStep? made

/-- Every step that is accepted is one of the listed steps. -/
theorem Step.of_step?
    {now : Duration} {state : State} {happening : Happening} {move : Move State}
    (made : supervisor.step? now state happening = some move) :
    Step supervisor now state happening move.next move.effects := by
  rcases state with ⟨moment, phase, board⟩
  unfold step? at made
  split at made
  case isFalse => cases made
  rcases Option.map_eq_some_iff.1 made with ⟨inner, chosen, rfl⟩
  clear made
  dsimp only at chosen
  split at chosen
  · exact .of_startingStep? chosen
  · cases chosen
    exact .shutdown .supervising (.of_stopEach _ _ _)
  · obtain ⟨⟨report, left⟩, taken, acted⟩ := Option.bind_eq_some_iff.1 chosen
    cases acted
    exact .handled taken (.of_ofLoop _)
  · obtain ⟨next, seen, rfl⟩ := Option.map_eq_some_iff.1 chosen
    exact .monitored seen
  · split at chosen
    · rename_i fits
      rcases fits with ⟨stopping, rfl⟩
      cases chosen
      simpa [Move.andThen, Move.after, relaunch, ofLoop, Move.still, Move.map] using
        @Step.relaunched supervisor now moment _ _ _ _ stopping
    · cases chosen
  · split at chosen
    · rename_i fits
      rcases fits with ⟨starting, rfl⟩
      cases chosen
      exact .repaired starting (.of_ofLoop _)
    · cases chosen
  · obtain ⟨next, seen, rfl⟩ := Option.map_eq_some_iff.1 chosen
    exact .monitoredMeanwhile seen
  · split at chosen
    · rename_i same
      subst same
      cases chosen
      exact .stopped (.of_stopEach _ _ _)
    · cases chosen
  · cases chosen

/-! ## Time -/

theorem Step.now_eq {now : Duration} {state next : State} {happening : Happening}
    {effects : List Effect} (step : Step supervisor now state happening next effects) :
    next.now = now := by
  cases step <;> rfl

theorem le_of_step? {now : Duration} {state : State} {happening : Happening} {move : Move State}
    (made : supervisor.step? now state happening = some move) : state.now ≤ now := by
  unfold step? at made
  split at made
  · assumption
  · cases made

end Supervisor

end Convoy
