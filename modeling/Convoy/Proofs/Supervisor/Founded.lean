import Convoy.Proofs.Supervisor.Startup

/-!
# The startup and its history

`Founded` says what a history owes to the services that it shows: a service that others have seen as
up has launched all its instances and has gone past all its dependencies. `StartupFits` is the
invariant of the startup phase from which this follows. It holds for every order in which the
starting services take their steps.
-/

namespace Convoy.Supervisor

open History

variable (supervisor : Supervisor)

/-- A service has rightly gone past all its dependencies, and has the given slot. -/
def Ready (history : List Turn) (slot : Slot) : Prop :=
  ∃ service, supervisor.topology.service? slot.service = some service ∧
    slot.index < service.replicas ∧
    ∀ dependency ∈ service.dependsOn, Cleared supervisor history service dependency

/-- The history bears out what it shows of the services. -/
structure Founded (history : List Turn) : Prop where
  up : ∀ name, WasUp supervisor history name →
    ∃ service, supervisor.topology.service? name = some service ∧ Staffed history service ∧
      ∀ dependency ∈ service.dependsOn, Cleared supervisor history service dependency
  completed : ∀ service, supervisor.topology.service? service.name = some service →
    service.role.isOneShot = true → Showed history service.name (.ended none) →
      Completed history service
  /-- A service comes to one end. -/
  outcome : ∀ name first second, Showed history name first → Showed history name second →
    first.hasEnded = true → second.hasEnded = true → first = second
  launched : ∀ slot ∈ launches history, Ready supervisor history slot

/-- The board of a startup lists live instances in the order of their launches. No slot has been
filled twice, and no traffic has been routed. -/
structure BoardFits (history : List Turn) (board : Board) : Prop where
  count : board.launches = (launches history).length
  running : board.running.Sublist (instances history)
  distinct : (launches history).Nodup
  unrouted : board.routing = .empty

/-- The history bears out the startup. -/
structure StartupFits (history : List Turn) (startup : Startup) (board : Board) : Prop where
  stage : ∀ service, supervisor.topology.service? service.name = some service →
    ∃ stage, startup.stages.get? service.name = some stage ∧
      StageFits supervisor history service stage
  shown : ∀ name stage oneShot, startup.stages.get? name = some stage →
    stage.status oneShot ≠ .pending → Showed history name stage
  told : ∀ name stage, startup.stages.get? name = some stage → stage.hasEnded = true →
    Showed history name stage
  final : ∀ name stage, Showed history name stage → stage.hasEnded = true →
    startup.stages.get? name = some stage
  joined : ∀ name ∈ startup.joined, ∃ stage, startup.stages.get? name = some stage ∧
    stage.hasEnded = true
  aborting : ∀ name reached, startup.stages.get? name = some (.cancelled reached) →
    startup.isAborting = true
  board : BoardFits history board

variable {supervisor} {history : List Turn} {startup : Startup} {board after : Board}
  {service : Service} {stage next : Stage} {now : Duration} {happening : Happening}
  {effects : List Effect}

theorem Ready.append {slot : Slot} (ready : Ready supervisor history slot) (later : List Turn) :
    Ready supervisor (history ++ later) slot := by
  rcases ready with ⟨service, declared, small, cleared⟩
  refine ⟨service, declared, small, ?_⟩
  intro dependency member
  exact (cleared dependency member).append later

/-! ## What one step does besides -/

/-- A service that is over takes no more steps. -/
theorem StageStep.ongoing
    (step : StageStep supervisor now startup board service stage happening next after effects) :
    stage.isOver = false := by
  cases step with
  | cancelled aborting ongoing => exact ongoing
  | crashed calling => exact Stage.isOver_of_isCalling calling
  | _ => rfl

/-- A service is called off only while the startup is being aborted. -/
theorem StageStep.aborting {reached : Status}
    (step : StageStep supervisor now startup board service stage happening (.cancelled reached)
      after effects) : startup.isAborting = true := by
  have attempts : ∀ visit dependency rest,
      (supervisor.attempt service visit dependency rest now).next ≠ .cancelled reached := by
    intro visit dependency rest
    rcases supervisor.attempt_cases service visit dependency rest now with
      ⟨-, -, equal⟩ | ⟨-, -, equal⟩ | ⟨-, equal⟩ <;> simp [equal]
  generalize result : Stage.cancelled reached = next at step
  cases step with
  | cancelled aborting ongoing => exact aborting
  | begun settled sound reachable found => exact absurd result.symm (attempts _ _ _)
  | retried ready => exact absurd result.symm (attempts _ _ _)
  | cleared =>
    have sound := isSetback_launch supervisor service 0 []
    rw [← result] at sound
    cases sound
  | @launched index launched line =>
    have sound := isSetback_launch supervisor service (index + 1)
      (launched ++ [board.nextInstance ⟨service.name, index⟩])
    rw [← result] at sound
    cases sound
  | @exitedWell current rest =>
    have sound := isSetback_drain service rest
    rw [← result] at sound
    cases sound
  | _ => cases result

/-- What a step of a starting service does to the board. -/
inductive BoardStep (supervisor : Supervisor) (history : List Turn) (turn : Turn)
    (service : Service) (board : Board) : Board → Prop where
  | same (still : turn.launched? = none) : BoardStep supervisor history turn service board board
  | entered {index : Nat} (launched : turn.launched? = some ⟨service.name, index⟩)
      (filled : Filled history service index) (small : index < service.replicas)
      (cleared : ∀ dependency ∈ service.dependsOn,
        Cleared supervisor history service dependency) :
      BoardStep supervisor history turn service board (board.enter ⟨service.name, index⟩)
  | forgotten {live : Instance} {code : Option Int}
      (exited : turn.happening = .exited live (.ok code))
      (oneShot : service.role.isOneShot = true)
      (own : live ∈ instancesOf service.name history) :
      BoardStep supervisor history turn service board (board.forget live.id)

theorem StageStep.boardStep
    (step : StageStep supervisor now startup board service stage happening next after effects)
    (fits : StageFits supervisor history service stage) (state : State) :
    BoardStep supervisor history ⟨now, happening, effects, state⟩ service board after := by
  cases step with
  | launched => exact .entered rfl fits.2.1 fits.2.2.1 fits.1.cleared
  | exitedBadly bad => exact .forgotten rfl fits.2.2.1 fits.current_mem
  | exitedWell => exact .forgotten rfl fits.2.2.1 fits.current_mem
  | _ => exact .same rfl

theorem BoardFits.still (fits : BoardFits history board) {turn : Turn}
    (still : turn.launched? = none) : BoardFits (history ++ [turn]) board := by
  refine ⟨?_, ?_, ?_, fits.unrouted⟩
  · rw [launches_concat_of_not_launched still]
    exact fits.count
  · rw [instances_concat_of_not_launched still]
    exact fits.running
  · rw [launches_concat_of_not_launched still]
    exact fits.distinct

theorem BoardFits.step (fits : BoardFits history board) {turn : Turn}
    (step : BoardStep supervisor history turn service board after) :
    BoardFits (history ++ [turn]) after := by
  cases step with
  | same still => exact fits.still still
  | @entered index launched filled small cleared =>
    have unfilled : (⟨service.name, index⟩ : Slot) ∉ launches history := by
      intro member
      rw [← map_slot_instances] at member
      rcases List.mem_map.1 member with ⟨live, liveMember, slot⟩
      have own : live ∈ instancesOf service.name history :=
        mem_instancesOf.2 ⟨liveMember, by rw [slot]⟩
      have place := List.mem_map_of_mem (f := Instance.slot) own
      rw [filled, slot] at place
      simp at place
    refine ⟨?_, ?_, ?_, fits.unrouted⟩
    · rw [launches_concat_of_launched launched, List.length_append]
      exact congrArg (· + 1) fits.count
    · rw [instances_concat_of_launched launched, ← fits.count]
      exact fits.running.append (List.Sublist.refl _)
    · rw [launches_concat_of_launched launched]
      exact List.nodup_append.2 ⟨fits.distinct, List.nodup_singleton _, by
        rintro slot member other new rfl
        cases List.mem_singleton.1 new
        exact unfilled member⟩
  | @forgotten live code exited =>
    have still : turn.launched? = none := by
      unfold Turn.launched?
      rw [exited]
    have kept := fits.still still
    exact ⟨kept.count, List.filter_sublist.trans kept.running, kept.distinct, kept.unrouted⟩

/-! ## The startup as a whole -/

theorem StartupFits.stageFits (fits : StartupFits supervisor history startup board)
    (declared : supervisor.topology.service? service.name = some service)
    (standing : startup.stages.get? service.name = some stage) :
    StageFits supervisor history service stage := by
  rcases fits.stage service declared with ⟨own, ownStanding, ownFits⟩
  rw [standing] at ownStanding
  cases ownStanding
  exact ownFits

/-- What a service finds about a dependency that has come far enough, and has not failed. -/
theorem StartupFits.provided (fits : StartupFits supervisor history startup board)
    {dependency : Dependency}
    (settled : (startup.statusOf supervisor.topology dependency.service).settles
      dependency.condition = true)
    (sound : startup.statusOf supervisor.topology dependency.service ≠ .failed) :
    Provided supervisor history dependency := by
  have up := Status.isUp_of_settles settled sound
  unfold Startup.statusOf at settled sound up
  split at up
  case h_2 => cases up
  case h_1 target stage declared standing =>
    rw [declared, standing] at settled sound
    have named := Topology.service?_name declared
    have notPending : stage.status target.role.isOneShot ≠ .pending := by
      intro pending
      rw [pending] at up
      cases up
    have shown := fits.shown _ _ _ standing notPending
    refine ⟨⟨target, declared, stage, shown, up⟩, ?_⟩
    intro other otherDeclared ends
    rw [declared] at otherDeclared
    cases otherDeclared
    rw [← named] at declared standing
    have ownFits := fits.stageFits declared standing
    have ended : stage = .ended none := by
      apply ownFits.eq_ended up
      rcases ends with completed | endless
      · left
        rw [completed] at settled
        exact Status.eq_completed_of_settles settled sound
      · right
        exact endless
    rw [← ended]
    exact shown

theorem Startup.get?_setStage (startup : Startup) (name other : String) (stage : Stage) :
    (startup.setStage name stage).stages.get? other =
      if other = name then some stage else startup.stages.get? other :=
  Dictionary.get?_insert _ _ _ _

/-- A service whose end has not been noted has no part in the failures. -/
theorem Startup.failures_setStage (startup : Startup) {name : String} (stage : Stage)
    (fresh : name ∉ startup.joined) :
    (startup.setStage name stage).failures = startup.failures := by
  apply List.filterMap_congr
  intro other member
  have different : other ≠ name := by
    rintro rfl
    exact fresh member
  rw [Startup.get?_setStage, if_neg different]

/-- At the beginning, every service waits for its dependencies. -/
theorem Startup.get?_ofTopology (topology : Topology) {name : String} {stage : Stage} :
    (Startup.ofTopology topology).stages.get? name = some stage ↔
      ∃ service ∈ topology.services, service.name = name ∧ stage = .awaiting service.dependsOn := by
  have distinct : ((topology.services.map fun service =>
      (service.name, Stage.awaiting service.dependsOn)).map (·.1)).Nodup := by
    rw [List.map_map]
    exact topology.names_nodup
  rw [Startup.ofTopology, Dictionary.get?_ofList_eq_some_iff distinct, List.mem_map]
  simp only [Prod.mk.injEq, eq_comm]

theorem StartupFits.start :
    StartupFits supervisor [] (.ofTopology supervisor.topology) .empty := by
  constructor
  · intro service declared
    have member := (Topology.service?_eq_some_iff.1 declared).1
    exact ⟨.awaiting service.dependsOn,
      (Startup.get?_ofTopology _).2 ⟨service, member, rfl, rfl⟩, ⟨[], rfl, by simp⟩, rfl⟩
  · intro name stage oneShot found notPending
    rcases (Startup.get?_ofTopology _).1 found with ⟨service, -, -, rfl⟩
    exact absurd rfl notPending
  · intro name stage found hasEnded
    rcases (Startup.get?_ofTopology _).1 found with ⟨service, -, -, rfl⟩
    cases hasEnded
  · rintro name stage ⟨turn, member, -⟩
    cases member
  · intro name member
    cases member
  · intro name reached found
    rcases (Startup.get?_ofTopology _).1 found with ⟨service, -, -, equal⟩
    cases equal
  · exact ⟨rfl, List.Sublist.refl _, List.nodup_nil, rfl⟩

/-- A service that ends no more is not among those whose end has been noted. -/
theorem StartupFits.not_joined (fits : StartupFits supervisor history startup board) {name : String}
    {stage : Stage} (standing : startup.stages.get? name = some stage)
    (ongoing : stage.isOver = false) : name ∉ startup.joined := by
  intro member
  rcases fits.joined name member with ⟨own, ownStanding, hasEnded⟩
  cases standing.symm.trans ownStanding
  exact nomatch ongoing.symm.trans (Stage.isOver_of_hasEnded hasEnded)

/-- A step of one service keeps the startup in agreement with the history. -/
theorem StartupFits.step
    (fits : StartupFits supervisor history startup board)
    (declared : supervisor.topology.service? service.name = some service)
    (standing : startup.stages.get? service.name = some stage)
    (step : StageStep supervisor now startup board service stage happening next after effects) :
    StartupFits supervisor
      (history ++ [⟨now, happening, effects,
        ⟨now, .starting (startup.setStage service.name next), after⟩⟩])
      (startup.setStage service.name next) after := by
  have ownFits := fits.stageFits declared standing
  have fresh := fits.not_joined standing step.ongoing
  have others : ∀ {name}, name ≠ service.name →
      (startup.setStage service.name next).stages.get? name = startup.stages.get? name := by
    intro name different
    rw [Startup.get?_setStage, if_neg different]
  have notOver : ∀ {name other}, startup.stages.get? name = some other → other.isOver = true →
      name ≠ service.name := by
    rintro name other own hasEnded rfl
    cases standing.symm.trans own
    exact nomatch step.ongoing.symm.trans hasEnded
  have member := (Topology.service?_eq_some_iff.1 declared).1
  constructor
  · intro other otherDeclared
    by_cases same : other.name = service.name
    · rw [same, declared] at otherDeclared
      cases otherDeclared
      refine ⟨next, by rw [Startup.get?_setStage, if_pos rfl], ?_⟩
      exact ownFits.step step member (fun dependency => fits.provided) fits.board.count _
    · rcases fits.stage other otherDeclared with ⟨stage, otherStanding, otherFits⟩
      refine ⟨stage, by rw [others same, otherStanding], ?_⟩
      apply otherFits.frame (step.dials_of_ne _ (Ne.symm same))
      intro slot launched
      rw [step.launched?_service _ launched]
      exact Ne.symm same
  · intro name stage oneShot found notPending
    exact showed_concat_iff.2 (Or.inr found)
  · intro name stage found hasEnded
    exact showed_concat_iff.2 (Or.inr found)
  · intro name stage showed hasEnded
    rcases showed_concat_iff.1 showed with before | shown
    · have ended := fits.final name stage before hasEnded
      rw [others (notOver ended (Stage.isOver_of_hasEnded hasEnded))]
      exact ended
    · exact shown
  · intro name noted
    rcases fits.joined name noted with ⟨own, ended, hasEnded⟩
    refine ⟨own, ?_, hasEnded⟩
    rw [others (notOver ended (Stage.isOver_of_hasEnded hasEnded))]
    exact ended
  · intro name reached found
    have aborting : startup.isAborting = true := by
      rw [Startup.get?_setStage] at found
      split at found
      · cases found
        exact step.aborting
      · exact fits.aborting name reached found
    unfold Startup.isAborting
    rw [Startup.failures_setStage startup next fresh]
    exact aborting
  · exact fits.board.step (step.boardStep ownFits _)

/-- A starting service launches an instance only when it has gone past all its dependencies. -/
theorem StartupFits.ready_of_launched
    (fits : StartupFits supervisor history startup board)
    (declared : supervisor.topology.service? service.name = some service)
    (standing : startup.stages.get? service.name = some stage)
    (step : StageStep supervisor now startup board service stage happening next after effects)
    {state : State} {slot : Slot}
    (launched : Turn.launched? ⟨now, happening, effects, state⟩ = some slot) :
    Ready supervisor history slot := by
  have ownFits := fits.stageFits declared standing
  cases step.boardStep ownFits state with
  | same still =>
    rw [still] at launched
    cases launched
  | entered entered filled small cleared =>
    rw [entered] at launched
    cases launched
    exact ⟨service, declared, small, cleared⟩
  | forgotten exited =>
    unfold Turn.launched? at launched
    rw [exited] at launched
    cases launched

/-- Noting the end of a service keeps the startup in agreement with the history. -/
theorem StartupFits.join
    (fits : StartupFits supervisor history startup board) {name : String}
    (standing : startup.stages.get? name = some stage) (hasEnded : stage.hasEnded = true)
    (now : Duration) :
    StartupFits supervisor
      (history ++ [⟨now, .joined name, [],
        ⟨now, .starting { startup with joined := startup.joined ++ [name] }, board⟩⟩])
      { startup with joined := startup.joined ++ [name] } board := by
  constructor
  · intro service declared
    rcases fits.stage service declared with ⟨stage, standing, stageFits⟩
    refine ⟨stage, standing, stageFits.frame rfl ?_⟩
    intro slot launched
    cases launched
  · intro other stage oneShot found notPending
    exact showed_concat_iff.2 (Or.inr found)
  · intro other stage found hasEnded
    exact showed_concat_iff.2 (Or.inr found)
  · intro other stage showed hasEnded
    rcases showed_concat_iff.1 showed with before | shown
    · exact fits.final other stage before hasEnded
    · exact shown
  · intro other noted
    rcases List.mem_append.1 noted with before | new
    · exact fits.joined other before
    · rw [List.mem_singleton.1 new]
      exact ⟨stage, standing, hasEnded⟩
  · intro other reached found
    have aborting := fits.aborting other reached found
    unfold Startup.isAborting Startup.failures at aborting ⊢
    rw [List.filterMap_append, List.any_append]
    simp [aborting]
  · exact fits.board.still rfl

/-! ## What is kept by all histories -/

theorem Founded.start : Founded supervisor [] := by
  constructor
  · rintro name ⟨service, declared, stage, ⟨turn, member, shown⟩, up⟩
    cases member
  · rintro service declared oneShot ⟨turn, member, shown⟩
    cases member
  · rintro name first second ⟨turn, member, shown⟩
    cases member
  · intro slot member
    cases member

/-- A turn that leaves the topology starting. -/
theorem Founded.concat_starting (founded : Founded supervisor history) {turn : Turn}
    (starting : turn.after.phase = .starting startup)
    (fits : StartupFits supervisor (history ++ [turn]) startup board)
    (ready : ∀ slot, turn.launched? = some slot → Ready supervisor history slot) :
    Founded supervisor (history ++ [turn]) := by
  have standing : ∀ name, turn.stage? name = startup.stages.get? name := by
    intro name
    unfold Turn.stage?
    rw [starting]
  have stageFits : ∀ {service stage}, supervisor.topology.service? service.name = some service →
      turn.stage? service.name = some stage →
        StageFits supervisor (history ++ [turn]) service stage := by
    intro service stage declared shown
    rw [standing] at shown
    exact fits.stageFits declared shown
  constructor
  · rintro name ⟨service, declared, stage, showed, up⟩
    have named := Topology.service?_name declared
    subst named
    rcases showed_concat_iff.1 showed with before | shown
    · rcases founded.up _ ⟨service, declared, stage, before, up⟩ with
        ⟨other, otherDeclared, staffed, cleared⟩
      exact ⟨other, otherDeclared, staffed.append _, fun dependency member =>
        (cleared dependency member).append _⟩
    · rcases (stageFits declared shown).of_isUp up with ⟨awaits, filled⟩
      exact ⟨service, declared, filled.staffed, awaits.cleared⟩
  · intro service declared oneShot showed
    rcases showed_concat_iff.1 showed with before | shown
    · exact (founded.completed service declared oneShot before).append _
    · rcases stageFits declared shown with ⟨-, filled, exited⟩
      exact filled.completed (exited oneShot)
  · intro name first second firstShowed secondShowed firstOver secondOver
    exact Option.some.inj ((fits.final name first firstShowed firstOver).symm.trans
      (fits.final name second secondShowed secondOver))
  · intro slot member
    cases launched : turn.launched? with
    | none =>
      rw [launches_concat_of_not_launched launched] at member
      exact Ready.append (founded.launched slot member) _
    | some filled =>
      rw [launches_concat_of_launched launched] at member
      rcases List.mem_append.1 member with before | new
      · exact Ready.append (founded.launched slot before) _
      · rw [List.mem_singleton.1 new]
        exact Ready.append (ready filled launched) _

/-- A turn that does not leave the topology starting, and that launches nothing for a new slot. -/
theorem Founded.concat (founded : Founded supervisor history) {turn : Turn}
    (hidden : ∀ name, turn.stage? name = none)
    (known : ∀ slot, turn.launched? = some slot → slot ∈ launches history) :
    Founded supervisor (history ++ [turn]) := by
  have former : ∀ {name stage}, Showed (history ++ [turn]) name stage →
      Showed history name stage := by
    intro name stage showed
    rcases showed_concat_iff.1 showed with before | shown
    · exact before
    · rw [hidden] at shown
      cases shown
  constructor
  · rintro name ⟨service, declared, stage, showed, up⟩
    rcases founded.up name ⟨service, declared, stage, former showed, up⟩ with
      ⟨other, otherDeclared, staffed, cleared⟩
    exact ⟨other, otherDeclared, staffed.append _, fun dependency member =>
      (cleared dependency member).append _⟩
  · intro service declared oneShot showed
    exact (founded.completed service declared oneShot (former showed)).append _
  · intro name first second firstShowed secondShowed
    exact founded.outcome name first second (former firstShowed) (former secondShowed)
  · intro slot member
    cases launched : turn.launched? with
    | none =>
      rw [launches_concat_of_not_launched launched] at member
      exact Ready.append (founded.launched slot member) _
    | some filled =>
      rw [launches_concat_of_launched launched] at member
      rcases List.mem_append.1 member with before | new
      · exact Ready.append (founded.launched slot before) _
      · rw [List.mem_singleton.1 new]
        exact Ready.append (founded.launched filled (known filled launched)) _

/-! ## The end of the startup -/

/-- All services have started, and those that run to an end have completed. -/
def AllUp (supervisor : Supervisor) (history : List Turn) : Prop :=
  ∀ service, supervisor.topology.service? service.name = some service →
    Showed history service.name (.ended none)

theorem AllUp.append (up : AllUp supervisor history) (later : List Turn) :
    AllUp supervisor (history ++ later) := by
  intro service declared
  exact (up service declared).append later

/-- If the startup is over and no failure has been noted, no service is left behind. -/
theorem StartupFits.allUp
    (fits : StartupFits supervisor history startup board)
    (settled : startup.isSettled = true) (sound : startup.failure? = none) :
    AllUp supervisor history := by
  have none : startup.failures = [] := by
    unfold Startup.failure? at sound
    exact List.head?_eq_none_iff.1 (Option.or_eq_none_iff.1 sound).2
  intro service declared
  rcases fits.stage service declared with ⟨stage, standing, -⟩
  have entry := Dictionary.get?_eq_some_iff.1 standing
  have finished := List.all_eq_true.1 settled _ entry
  rcases Bool.or_eq_true_iff.1 finished with cancelled | noted
  · cases stage with
    | cancelled reached =>
      have aborting := fits.aborting service.name reached standing
      unfold Startup.isAborting at aborting
      rw [none] at aborting
      cases aborting
    | _ => cases cancelled
  · have member : service.name ∈ startup.joined := by simpa using noted
    rcases fits.joined service.name member with ⟨own, standing, hasEnded⟩
    rcases Stage.eq_ended_or_exists_failure hasEnded with rfl | ⟨failure, told⟩
    · exact fits.told service.name _ standing hasEnded
    · have listed : failure ∈ startup.failures :=
        List.mem_filterMap.2 ⟨service.name, member, by rw [standing]; exact told⟩
      rw [none] at listed
      cases listed

end Convoy.Supervisor
