import Convoy.Proofs.Supervisor.Roster
import Convoy.Proofs.Waves

/-!
# The startup goes on, and leaves nothing out

Starting services wait for each other only along dependencies, which end somewhere. So as long as
nothing is called off, one of the services that are not over hangs on none of the others. The
exception is a service that has crashed, of which the others learn nothing: they may all hang on it,
until its crash is noted and they are called off. When the startup is over and nothing has failed,
every slot has been filled once, the one-shot services have completed, and the instances of the
others are live.
-/

namespace Convoy

/-- A service in a stage goes on when this happens, from an instant on. -/
inductive Stage.Prompt (service : String) : Stage → Duration → Happening → Prop where
  | resumed {dependencies : List Dependency} :
      Prompt service (.awaiting dependencies) .zero (.resumed service)
  | attemptEnded {visit : Visit} {dependency : Dependency} {rest : List Dependency}
      (refusal : Option String) :
      Prompt service (.connecting visit dependency rest) .zero (.attemptEnded service refusal)
  | retried {visit : Visit} {due : Duration} {dependency : Dependency} {rest : List Dependency} :
      Prompt service (.pausing visit due dependency rest) due (.retried service)
  | startEnded {index : Nat} {launched : List Instance} (failure : Option Failure) :
      Prompt service (.launching index launched) .zero (.startEnded ⟨service, index⟩ failure)
  | exited {current : Instance} {rest : List Instance}
      (outcome : Except Failure (Option Int)) :
      Prompt service (.draining current rest) .zero (.exited current outcome)

/-- A service that is not over has something to go on with. -/
theorem Stage.exists_prompt (service : String) {stage : Stage} (ongoing : stage.isOver = false) :
    ∃ due happening, stage.Prompt service due happening := by
  cases stage with
  | awaiting dependencies => exact ⟨_, _, .resumed⟩
  | connecting visit dependency rest => exact ⟨_, _, .attemptEnded none⟩
  | pausing visit due dependency rest => exact ⟨_, _, .retried⟩
  | launching index launched => exact ⟨_, _, .startEnded none⟩
  | draining current rest => exact ⟨_, _, .exited (.ok none)⟩
  | ended outcome => cases ongoing
  | cancelled reached => cases ongoing
  | crashed reached failure => cases ongoing

/-- A service that has come to its end lets its dependents go on. -/
theorem Stage.settles_ended (outcome : Option Failure) {condition : Condition} {oneShot : Bool}
    (possible : condition = .completed → oneShot = true) :
    ((Stage.ended outcome).status oneShot).settles condition = true := by
  cases outcome with
  | some failure => cases condition <;> rfl
  | none =>
    cases condition with
    | reachable => cases oneShot <;> rfl
    | completed =>
      rw [possible rfl]
      rfl

/-- A service in this stage does not hang on the status of another one. -/
def Startup.IsFree (startup : Startup) (topology : Topology) : Stage → Prop
  | .awaiting (dependency :: _) =>
    (startup.statusOf topology dependency.service).settles dependency.condition = true
  | _ => True

instance (startup : Startup) (topology : Topology) :
    (stage : Stage) → Decidable (startup.IsFree topology stage)
  | .awaiting (_ :: _) => inferInstanceAs (Decidable (_ = true))
  | .awaiting [] => isTrue trivial
  | .connecting .. => isTrue trivial
  | .pausing .. => isTrue trivial
  | .launching .. => isTrue trivial
  | .draining .. => isTrue trivial
  | .ended _ => isTrue trivial
  | .cancelled _ => isTrue trivial
  | .crashed .. => isTrue trivial

/-- A service of the topology is not over. -/
def Startup.isOngoing (startup : Startup) (topology : Topology) : Bool :=
  topology.services.any fun service =>
    (startup.stages.get? service.name).any fun stage => !stage.isOver

theorem Startup.isOngoing_iff {startup : Startup} {topology : Topology} :
    startup.isOngoing topology = true ↔ ∃ service ∈ topology.services, ∃ stage,
      startup.stages.get? service.name = some stage ∧ stage.isOver = false := by
  simp [Startup.isOngoing, Option.any_eq_true]

/-- No service has failed. -/
def Startup.isSound (startup : Startup) : Bool :=
  startup.stages.entries.all fun entry => entry.2.failure?.isNone

/-- Every service of the topology is over or hangs on another one. -/
def Startup.isStalled (startup : Startup) (topology : Topology) : Bool :=
  topology.services.all fun service => (startup.stages.get? service.name).all fun stage =>
    stage.isOver || !decide (startup.IsFree topology stage)

theorem Startup.isStalled_iff {startup : Startup} {topology : Topology} :
    startup.isStalled topology = true ↔ ∀ service ∈ topology.services, ∀ stage,
      startup.stages.get? service.name = some stage → stage.isOver = false →
        ¬ startup.IsFree topology stage := by
  simp only [Startup.isStalled, List.all_eq_true, Option.all_eq_true, Bool.or_eq_true,
    Bool.not_eq_true', decide_eq_false_iff_not]
  refine forall₄_congr fun service member stage standing => ?_
  cases stage.isOver <;> simp

namespace Supervisor

open History

variable {supervisor : Supervisor} {mail : Mail} {history : List Turn} {state : State}
  {startup : Startup} {board : Board} {service : Service} {stage : Stage} {now : Duration}
  {happening : Happening}

/-! ## No deadlock -/

/-- A service takes up again once the dependency it waits for has come far enough. -/
theorem exists_resume? {dependencies : List Dependency}
    (free : startup.IsFree supervisor.topology (.awaiting dependencies)) :
    ∃ move, supervisor.resume? startup service now dependencies = some move := by
  cases dependencies with
  | nil => exact ⟨_, rfl⟩
  | cons dependency rest =>
    have settled : (startup.statusOf supervisor.topology dependency.service).settles
        dependency.condition = true := free
    unfold resume?
    dsimp only
    rw [if_pos settled]
    split
    · exact ⟨_, rfl⟩
    · split <;> exact ⟨_, rfl⟩

/-- A free service goes on with whatever it is prompted by. -/
theorem exists_stageStep? {due : Duration}
    (free : startup.IsFree supervisor.topology stage)
    (prompt : stage.Prompt service.name due happening) (ripe : due ≤ now) :
    ∃ move, supervisor.stageStep? now startup board service stage happening = some move := by
  cases prompt with
  | resumed =>
    obtain ⟨move, resumed⟩ :
        ∃ move, supervisor.resume? startup service now _ = some move := exists_resume? free
    exact ⟨_, Option.map_eq_some_iff.2 ⟨move, resumed, rfl⟩⟩
  | attemptEnded refusal => exact ⟨_, rfl⟩
  | retried => exact ⟨_, if_pos ripe⟩
  | startEnded failure => exact ⟨_, if_pos rfl⟩
  | exited outcome => exact ⟨_, if_pos rfl⟩

/-- What prompts a service concerns it. -/
theorem concerned?_of_prompt {due : Duration}
    (fits : StageFits supervisor history service stage)
    (prompt : stage.Prompt service.name due happening) :
    concerned? happening = some service.name := by
  cases prompt with
  | exited outcome => exact congrArg some (mem_instancesOf.1 fits.current_mem).2
  | _ => rfl

/-- A run goes on whenever a free service is prompted. -/
theorem exists_step?_of_prompt {moment due : Duration}
    (fits : StartupFits supervisor history startup board)
    (declared : supervisor.topology.service? service.name = some service)
    (standing : startup.stages.get? service.name = some stage)
    (free : startup.IsFree supervisor.topology stage)
    (prompt : stage.Prompt service.name due happening) (later : moment ≤ now) (ripe : due ≤ now) :
    ∃ move, supervisor.step? now ⟨moment, .starting startup, board⟩ happening = some move := by
  have concerned := concerned?_of_prompt (fits.stageFits declared standing) prompt
  obtain ⟨inner, stepped⟩ :
      ∃ inner, supervisor.stageStep? now startup board service stage happening = some inner :=
    exists_stageStep? free prompt ripe
  have made : ∃ move, supervisor.serviceStep? now startup board happening = some move := by
    simp [serviceStep?, concerned, declared, standing, stepped]
  have same : supervisor.startingStep? now startup board happening =
      supervisor.serviceStep? now startup board happening := by
    cases prompt <;> rfl
  rcases made with ⟨move, made⟩
  simp only [step?, if_pos later, same, made]
  exact ⟨_, rfl⟩

/-- A service whose status does not let its dependents go on is not over or has crashed, unless it
has been called off. -/
theorem StartupFits.ongoing_of_not_settles
    (fits : StartupFits supervisor history startup board) (calm : startup.isAborting = false)
    (declared : supervisor.topology.service? service.name = some service)
    (standing : startup.stages.get? service.name = some stage) {dependency : Dependency}
    (named : dependency.service = service.name)
    (oneShot : dependency.condition = .completed → service.role.isOneShot = true)
    (stuck : (startup.statusOf supervisor.topology dependency.service).settles
      dependency.condition = false) :
    stage.isOver = false ∨ ∃ reached failure, stage = .crashed reached failure := by
  cases stage with
  | ended outcome =>
    rw [Startup.statusOf, named, declared, standing] at stuck
    rw [Stage.settles_ended outcome oneShot] at stuck
    cases stuck
  | cancelled reached =>
    have aborting := fits.aborting _ _ standing
    rw [calm] at aborting
    cases aborting
  | crashed reached failure => exact .inr ⟨reached, failure, rfl⟩
  | _ => exact .inl rfl

/-- A service that has crashed, which has not been noted yet. -/
def Loose (supervisor : Supervisor) (startup : Startup) (name : String) : Prop :=
  ∃ service, supervisor.topology.service? name = some service ∧ name ∉ startup.joined ∧
    ∃ reached, startup.stages.get? name = some (.crashed reached (supervisor.crashFailure service))

/-- While nothing is called off, no crash has been noted. -/
theorem StartupFits.loose (fits : StartupFits supervisor history startup board)
    (calm : startup.isAborting = false)
    (declared : supervisor.topology.service? service.name = some service) {reached : Status}
    {failure : Failure}
    (standing : startup.stages.get? service.name = some (.crashed reached failure)) :
    Loose supervisor startup service.name := by
  have told := (fits.stageFits declared standing).2
  subst told
  refine ⟨service, declared, fun noted => ?_, reached, standing⟩
  have aborting : startup.isAborting = true :=
    List.any_eq_true.2 ⟨_, List.mem_filterMap.2 ⟨_, noted, by rw [standing]; rfl⟩, rfl⟩
  exact nomatch calm.symm.trans aborting

/-- While nothing is called off and some service is not over, there is one that is not over and
hangs on no other service, unless a service has crashed. -/
theorem StartupFits.exists_free
    (fits : StartupFits supervisor history startup board) (calm : startup.isAborting = false)
    (declared : supervisor.topology.service? service.name = some service)
    (standing : startup.stages.get? service.name = some stage) (ongoing : stage.isOver = false) :
    (∃ service stage, supervisor.topology.service? service.name = some service ∧
      startup.stages.get? service.name = some stage ∧ stage.isOver = false ∧
      startup.IsFree supervisor.topology stage) ∨
    ∃ name, Loose supervisor startup name := by
  have grounded := supervisor.topology.grounded service.name
  generalize named : service.name = name at grounded
  -- The induction follows the dependencies that services are waiting for.
  induction grounded generalizing service stage with
  | intro name _ induction =>
    by_cases free : startup.IsFree supervisor.topology stage
    · exact .inl ⟨service, stage, declared, standing, ongoing, free⟩
    · cases stage with
      | awaiting dependencies =>
        cases dependencies with
        | nil => exact absurd trivial free
        | cons dependency rest =>
          have member := (Topology.service?_eq_some_iff.1 declared).1
          have listed : dependency ∈ service.dependsOn :=
            (fits.stageFits declared standing).1.listed
          rcases Topology.dependency_fits member listed with ⟨-, target, found, -, oneShot⟩
          have targetNamed := Topology.service?_name found
          rw [← targetNamed] at found
          rcases fits.stage target found with ⟨targetStage, targetStanding, -⟩
          have stuck : (startup.statusOf supervisor.topology dependency.service).settles
              dependency.condition = false := by simpa [Startup.IsFree] using free
          rcases fits.ongoing_of_not_settles calm found targetStanding targetNamed.symm oneShot
            stuck with targetOngoing | ⟨reached, failure, rfl⟩
          · exact induction target.name
              ⟨service, member, named, dependency, listed, targetNamed.symm⟩ found targetStanding
              targetOngoing rfl
          · exact .inr ⟨target.name, fits.loose calm found targetStanding⟩
      | _ => exact absurd trivial free

/-- A crash that has not been noted can be noted at any time, and then everything else is called
off. -/
theorem exists_step?_of_loose {moment : Duration} {name : String}
    (loose : Loose supervisor startup name) (later : moment ≤ now) :
    ∃ move noted, supervisor.step? now ⟨moment, .starting startup, board⟩ (.joined name) =
        some move ∧ move.next = ⟨now, .starting noted, board⟩ ∧ noted.isAborting = true := by
  rcases loose with ⟨service, -, fresh, reached, standing⟩
  refine ⟨⟨_, []⟩, { startup with joined := startup.joined ++ [name] }, ?_, rfl, ?_⟩
  · simp [step?, startingStep?, later, standing, fresh, Stage.hasEnded, Move.still, Move.map]
  · refine List.any_eq_true.2 ⟨supervisor.crashFailure service, ?_, rfl⟩
    refine List.mem_filterMap.2 ⟨name, List.mem_append_right _ (List.mem_singleton_self name), ?_⟩
    rw [standing]
    rfl

/-! ## No replica is left out -/

/-- A slot belongs to a service that runs on until it is stopped. -/
def isEndless (supervisor : Supervisor) (slot : Slot) : Bool :=
  (supervisor.topology.service? slot.service).any fun service => !service.role.isOneShot

theorem isEndless_iff {slot : Slot} :
    supervisor.isEndless slot = true ↔ Endless supervisor slot := by
  simp [isEndless, Endless, Option.any_eq_true]

/-- The instances of a service that runs on are live when it has come to its end. -/
theorem StartupFits.mem_running
    (fits : StartupFits supervisor history startup board)
    (housed : Housed supervisor history startup board) (up : AllUp supervisor history)
    {live : Instance} (launched : live ∈ instances history)
    (endless : Endless supervisor live.slot) : live ∈ board.running := by
  rcases endless with ⟨service, declared, runsOn⟩
  have named := Topology.service?_name declared
  rw [← named] at declared
  have ended := fits.final _ _ (up service declared) rfl
  have lives := housed service _ declared ended
  have own : live ∈ board.livesOf service.name := by
    simp only [StageHoused, runsOn, Bool.false_eq_true, if_false] at lives
    rw [lives]
    exact mem_instancesOf.2 ⟨launched, named.symm⟩
  exact (List.mem_filter.1 own).1

/-- When the startup is over and nothing has failed, exactly the instances of services that run on
are live, in the order of their launches. -/
theorem StartupFits.running_eq
    (fits : StartupFits supervisor history startup board) (founded : Founded supervisor history)
    (housed : Housed supervisor history startup board)
    (settled : startup.isSettled = true) (sound : startup.failure? = none) :
    board.running = (instances history).filter fun live => supervisor.isEndless live.slot := by
  have endless := housed.endless fits founded settled sound
  have up := fits.allUp settled sound
  have sublist : board.running.Sublist
      ((instances history).filter fun live => supervisor.isEndless live.slot) := by
    have kept := fits.board.running.filter fun live => supervisor.isEndless live.slot
    rwa [List.filter_eq_self.2 fun live member => isEndless_iff.2 (endless live member)] at kept
  have distinct : (instances history).Nodup := by
    apply List.Nodup.of_map (·.id)
    rw [map_id_instances]
    exact List.nodup_range
  apply sublist.eq_of_length_le
  apply List.Subperm.length_le
  apply List.subperm_of_subset (distinct.filter _)
  intro live member
  rcases List.mem_filter.1 member with ⟨launched, runsOn⟩
  exact fits.mem_running housed up launched (isEndless_iff.1 runsOn)

/-- Only a startup that is over, and in which nothing has failed, leads to supervision. -/
theorem Step.of_startedUp {next : State} {effects : List Effect} {control : Control}
    (step : Step supervisor now state .settled next effects)
    (supervising : next.phase = .supervising control) :
    ∃ startup, state.phase = .starting startup ∧ startup.isSettled = true ∧
      startup.failure? = none ∧
      next.board.running = (supervisor.watchAll now state.board).next.2.running := by
  cases step with
  | stage declared standing step => cases step
  | startedUp settled sound => exact ⟨_, rfl, settled, sound, rfl⟩
  | startupFailed settled failed down => exact absurd supervising (down.ne_of_up rfl)
  | monitored seen => cases seen
  | monitoredMeanwhile seen => cases seen

/-! ## The startup as a whole -/

/-- As long as nothing is called off and a service is not over, one that is not over goes on with
whatever it is prompted by, so that it hangs on no other service; or a service has crashed, which
can be noted at once and calls everything else off. When the startup leads to supervision, each slot
of each service has been filled once, the one-shot services have completed, and exactly the instances
of the other services are live. -/
theorem startup_completes (supervisor : Supervisor) :
    (∀ mail history moment startup board,
      supervisor.Run mail history ⟨moment, .starting startup, board⟩ →
      startup.isAborting = false →
      (∃ service ∈ supervisor.topology.services, ∃ stage,
        startup.stages.get? service.name = some stage ∧ stage.isOver = false) →
      (∃ service ∈ supervisor.topology.services, ∃ stage,
        startup.stages.get? service.name = some stage ∧ stage.isOver = false ∧
          (∃ due happening, stage.Prompt service.name due happening) ∧
          ∀ due happening now, stage.Prompt service.name due happening →
            moment ≤ now → due ≤ now →
            ∃ move, supervisor.step? now ⟨moment, .starting startup, board⟩ happening =
              some move) ∨
      ∃ name, Loose supervisor startup name ∧ ∀ now, moment ≤ now →
        ∃ move noted, supervisor.step? now ⟨moment, .starting startup, board⟩ (.joined name) =
            some move ∧
          move.next = ⟨now, .starting noted, board⟩ ∧ noted.isAborting = true) ∧
    ∀ mail history state, supervisor.Run mail history state →
      ∀ earlier turn later control, history = earlier ++ turn :: later →
        turn.happening = .settled → turn.after.phase = .supervising control →
        (∀ service ∈ supervisor.topology.services,
          Filled earlier service service.replicas ∧
            (service.role.isOneShot = true → Completed earlier service)) ∧
        turn.after.board.running =
          (instances earlier).filter fun live => supervisor.isEndless live.slot := by
  constructor
  · rintro mail history moment startup board run calm ⟨service, member, stage, standing, ongoing⟩
    have fits : StartupFits supervisor history startup board := run.invariant.phase
    have declared := Topology.service?_eq_some_iff.2 ⟨member, rfl⟩
    rcases fits.exists_free calm declared standing ongoing with
      ⟨free, freeStage, freeDeclared, freeStanding, freeOngoing, isFree⟩ | ⟨name, loose⟩
    · refine .inl ⟨free, (Topology.service?_eq_some_iff.1 freeDeclared).1, freeStage, freeStanding,
        freeOngoing, freeStage.exists_prompt free.name freeOngoing, ?_⟩
      intro due happening now prompt later ripe
      exact exists_step?_of_prompt fits freeDeclared freeStanding isFree prompt later ripe
    · exact .inr ⟨name, loose, fun now later => exists_step?_of_loose loose later⟩
  · rintro mail history state run earlier turn later control rfl happened supervising
    rcases run.split rfl with ⟨before, past, made⟩
    rw [happened] at made
    rcases (Step.of_step? made).of_startedUp supervising with
      ⟨startup, starting, settled, sound, running⟩
    have invariant := past.invariant
    have fits := invariant.phase
    rw [starting] at fits
    constructor
    · intro service member
      have declared := Topology.service?_eq_some_iff.2 ⟨member, rfl⟩
      have up := StartupFits.allUp fits settled sound service declared
      have ended := fits.stageFits declared (StartupFits.final fits _ _ up rfl)
      exact ⟨ended.2.1, fun oneShot => invariant.founded.completed service declared oneShot up⟩
    · rw [running, (watchAll_board supervisor _ _ (StartupFits.board fits).unrouted).1]
      exact StartupFits.running_eq fits invariant.founded (past.housed starting) settled sound

theorem not_loose_of_isSound (sound : startup.isSound = true) (name : String) :
    ¬ Loose supervisor startup name := by
  rintro ⟨service, -, -, reached, standing⟩
  exact nomatch List.all_eq_true.1 sound _ (Dictionary.get?_eq_some_iff.1 standing)

/-- The startup is under way, nothing is called off, and a test is passed. -/
def State.isUnderway (test : Startup → Bool) (state : State) : Bool :=
  match state.phase with
  | .starting startup => !startup.isAborting && test startup
  | _ => false

theorem State.exists_of_isUnderway {test : Startup → Bool}
    (underway : state.isUnderway test = true) :
    ∃ startup moment board, state = ⟨moment, .starting startup, board⟩ ∧
      startup.isAborting = false ∧ test startup = true := by
  rcases state with ⟨moment, phase, board⟩
  cases phase with
  | starting startup =>
    rcases Bool.and_eq_true_iff.1 underway with ⟨calm, passed⟩
    exact ⟨startup, moment, board, rfl, by simpa using calm, passed⟩
  | _ => cases underway

/-- The control loop is waiting for reports in a phase. -/
def isSupervising : Phase → Bool
  | .supervising _ => true
  | .starting _ | .repairing _ _ | .stopping _ _ _ | .ended _ => false

/-- The startup is over in a turn, and supervision begins. -/
def beginsSupervision (turn : Turn) : Bool :=
  match turn.happening with
  | .settled => isSupervising turn.after.phase
  | _ => false

/-- The small stack goes on while its application waits, and ends with all its slots filled. -/
theorem small_startup_completes :
    (∃ history moment startup board,
      small.Run .monitored history ⟨moment, .starting startup, board⟩ ∧
      startup.isAborting = false ∧
      (∃ service ∈ small.topology.services, ∃ stage,
        startup.stages.get? service.name = some stage ∧ stage.isOver = false) ∧
      ∃ service ∈ small.topology.services, ∃ stage,
        startup.stages.get? service.name = some stage ∧ stage.isOver = false ∧
          (∃ due happening, stage.Prompt service.name due happening) ∧
          ∀ due happening now, stage.Prompt service.name due happening →
            moment ≤ now → due ≤ now →
            ∃ move, small.step? now ⟨moment, .starting startup, board⟩ happening = some move) ∧
    ∃ earlier turn state control, small.Run .monitored (earlier ++ [turn]) state ∧
      turn.happening = .settled ∧ turn.after.phase = .supervising control ∧
      (∀ service ∈ small.topology.services,
        Filled earlier service service.replicas ∧
          (service.role.isOneShot = true → Completed earlier service)) ∧
      turn.after.board.running =
        (instances earlier).filter fun live => small.isEndless live.slot := by
  constructor
  · rcases exists_run_of_replay? small .monitored (small.climb.take 6)
      (fun _ _ state => state.isUnderway fun startup =>
        startup.isSound && startup.isOngoing small.topology) (by decide +kernel) with
      ⟨earlier, turn, state, run, tested⟩
    rcases State.exists_of_isUnderway tested with ⟨startup, moment, board, rfl, calm, tested⟩
    rcases Bool.and_eq_true_iff.1 tested with ⟨sound, ongoing⟩
    have ongoing := Startup.isOngoing_iff.1 ongoing
    refine ⟨_, moment, startup, board, run, calm, ongoing, ?_⟩
    refine ((startup_completes small).1 _ _ _ _ _ run calm ongoing).resolve_right ?_
    rintro ⟨name, loose, -⟩
    exact not_loose_of_isSound sound name loose
  · rcases exists_run_of_replay? small .monitored (small.mend.take 16)
      (fun _ turn _ => beginsSupervision turn) (by decide +kernel) with
      ⟨earlier, turn, state, run, tested⟩
    unfold beginsSupervision at tested
    split at tested
    · rename_i happened
      cases supervising : turn.after.phase with
      | supervising control =>
        exact ⟨earlier, turn, state, control, run, happened, supervising,
          (startup_completes small).2 _ _ _ run _ _ [] _ rfl happened supervising⟩
      | _ =>
        rw [supervising] at tested
        cases tested
    · cases tested

/-! ## A service that has crashed -/

/-- The small stack, where the setup has more time at its gate than the clock can count. -/
def hopeful : Supervisor :=
  { small with
    topology :=
      { Topology.small with
        services :=
          [.plain "db" .store [],
            { Service.plain "setup" .initializer [⟨"db", .reachable⟩] with
              readinessTimeout := .ofSeconds 0xFFFFFFFFFFFFFFFF },
            .plain "app" .appServer [⟨"db", .reachable⟩, ⟨"setup", .completed⟩]]
        fits := by decide +kernel } }

/-- Its setup crashes, and its application waits for the setup. -/
def hopeful.stall : List (Duration × Happening) :=
  [(.zero, .resumed "db"),
    (.zero, .startEnded ⟨"db", 0⟩ none),
    (.ofSeconds 1, .resumed "setup"),
    (.ofSeconds 1, .resumed "app"),
    (.ofSeconds 2, .attemptEnded "app" none)]

/-- Before the crash of its setup is noted, nothing is called off, its application is not over, and
no service goes on that does not hang on another one. -/
theorem hopeful_stalls :
    ∃ history moment startup board,
      hopeful.Run .monitored history ⟨moment, .starting startup, board⟩ ∧
      startup.isAborting = false ∧
      (∃ service ∈ hopeful.topology.services, ∃ stage,
        startup.stages.get? service.name = some stage ∧ stage.isOver = false) ∧
      ∀ service ∈ hopeful.topology.services, ∀ stage,
        startup.stages.get? service.name = some stage → stage.isOver = false →
          ¬ startup.IsFree hopeful.topology stage := by
  rcases exists_run_of_replay? hopeful .monitored hopeful.stall
    (fun _ _ state => state.isUnderway fun startup =>
      startup.isOngoing hopeful.topology && startup.isStalled hopeful.topology)
    (by decide +kernel) with ⟨earlier, turn, state, run, tested⟩
  rcases State.exists_of_isUnderway tested with ⟨startup, moment, board, rfl, calm, tested⟩
  rcases Bool.and_eq_true_iff.1 tested with ⟨ongoing, stalled⟩
  exact ⟨_, moment, startup, board, run, calm, Startup.isOngoing_iff.1 ongoing,
    Startup.isStalled_iff.1 stalled⟩

end Supervisor

end Convoy
