import Convoy.Proofs.Supervisor.Gating
import Convoy.Proofs.Supervisor.Order

/-!
# Failures while a topology starts

Every failure of a starting service leads back to a service that failed for a reason of its own. Such
a root is never called off, so that its failure is noted before the startup is over. What depends on
a service that has failed is not started.
-/

namespace Convoy

/-- The failure with which the surroundings answer in a turn, when an instance was to be launched or
its exit to be awaited. -/
def Turn.refusal? (turn : Turn) : Option Failure :=
  match turn.happening with
  | .startEnded _ failure => failure
  | .exited _ (.error failure) => some failure
  | _ => none

/-- The failure with which a topology is taken down. -/
def Phase.failure? : Phase → Option Failure
  | stopping _ _ failure => failure
  | ended failure => failure
  | _ => none

/-- The failure with which the startup ends in a turn. -/
def Turn.startupFailure? (turn : Turn) : Option Failure :=
  match turn.happening with
  | .settled => turn.after.phase.failure?
  | _ => none

theorem Turn.startupFailure?_eq_some_iff {turn : Turn} {failure : Failure} :
    turn.startupFailure? = some failure ↔
      turn.happening = .settled ∧ turn.after.phase.failure? = some failure := by
  unfold startupFailure?
  cases turn.happening <;> simp

namespace History

/-- The surroundings fail for reasons of their own: only the supervisor itself says that a dependency
has failed. -/
def Candid (history : List Turn) : Prop :=
  ∀ turn ∈ history, ∀ reason ∈ turn.refusal?, Startup.isDependencyFailure reason = false

instance (history : List Turn) : Decidable (Candid history) :=
  inferInstanceAs (Decidable (∀ turn ∈ history, ∀ reason ∈ turn.refusal?,
    Startup.isDependencyFailure reason = false))

/-- The task that starts a service has crashed. -/
inductive Crash (supervisor : Supervisor) (history : List Turn) (service : Service) : Prop where
  /-- A call that it had made did not return. -/
  | call {turn : Turn} (member : turn ∈ history) (happened : turn.happening = .crashed service.name)
  /-- The clock does not reach the deadline of a gate. -/
  | deadline {dependency : Dependency} {gate : Gate} {begun : Turn}
      (listed : dependency ∈ service.dependsOn)
      (found : supervisor.gateFor? service dependency.service = some gate)
      (began : begun ∈ history) (resumed : begun.happening = .resumed service.name)
      (beyond : ¬ (begun.moment + gate.timeout).IsInstant)
  /-- The clock does not reach the end of the interval of an attempt that was refused. -/
  | interval {dependency : Dependency} {gate : Gate} {asked ended : Turn} {reason : String}
      (listed : dependency ∈ service.dependsOn)
      (found : supervisor.gateFor? service dependency.service = some gate)
      (dialled : asked ∈ history) (dials : asked.dials service.name ≠ [])
      (member : ended ∈ history)
      (refused : ended.happening = .attemptEnded service.name (some reason))
      (beyond : ¬ (asked.moment + gate.pollInterval).IsInstant)

/-- The failures of a service that are its own. -/
inductive OwnFailure (supervisor : Supervisor) (history : List Turn) (service : Service) :
    Failure → Prop where
  /-- The gate of a dependency has run out of time. -/
  | gate {dependency : Dependency} {gate : Gate} {attempts : Nat} {begun late : Turn}
      (listed : dependency ∈ service.dependsOn)
      (found : supervisor.gateFor? service dependency.service = some gate)
      (began : begun ∈ history) (resumed : begun.happening = .resumed service.name)
      (ended : late ∈ history) (expired : begun.moment + gate.timeout ≤ late.moment) :
      OwnFailure supervisor history service (gate.timeoutError attempts : Failure)
  /-- An instance could not be launched. -/
  | start {turn : Turn} {index : Nat} {reason : Failure} (member : turn ∈ history)
      (happened : turn.happening = .startEnded ⟨service.name, index⟩ (some reason)) :
      OwnFailure supervisor history service
        (reason.within ("Failed to start " ++ (Slot.mk service.name index).text))
  /-- The exit of an instance could not be awaited. -/
  | wait {turn : Turn} {live : Instance} {reason : Failure} (member : turn ∈ history)
      (own : live.slot.service = service.name)
      (happened : turn.happening = .exited live (.error reason)) :
      OwnFailure supervisor history service reason
  /-- An instance of a one-shot service has exited with another status than zero. -/
  | oneShot {turn : Turn} {live : Instance} {code : Option Int} (member : turn ∈ history)
      (own : live.slot.service = service.name) (bad : code ≠ some 0)
      (happened : turn.happening = .exited live (.ok code)) :
      OwnFailure supervisor history service
        (SupervisorError.oneShotFailed service.name code : Failure)
  | crash (crash : Crash supervisor history service) :
      OwnFailure supervisor history service (supervisor.crashFailure service)

variable {supervisor : Supervisor} {history : List Turn} {service : Service} {failure : Failure}

theorem Crash.append (crash : Crash supervisor history service) (later : List Turn) :
    Crash supervisor (history ++ later) service := by
  have lift : ∀ {turn : Turn}, turn ∈ history → turn ∈ history ++ later :=
    fun member => List.mem_append_left later member
  cases crash with
  | call member happened => exact .call (lift member) happened
  | deadline listed found began resumed beyond =>
    exact .deadline listed found (lift began) resumed beyond
  | interval listed found dialled dials member refused beyond =>
    exact .interval listed found (lift dialled) dials (lift member) refused beyond

theorem OwnFailure.append (own : OwnFailure supervisor history service failure)
    (later : List Turn) : OwnFailure supervisor (history ++ later) service failure := by
  have lift : ∀ {turn : Turn}, turn ∈ history → turn ∈ history ++ later :=
    fun member => List.mem_append_left later member
  cases own with
  | gate listed found began resumed ended expired =>
    exact .gate listed found (lift began) resumed (lift ended) expired
  | start member happened => exact .start (lift member) happened
  | wait member own happened => exact .wait (lift member) own happened
  | oneShot member own bad happened => exact .oneShot (lift member) own bad happened
  | crash crash => exact .crash (crash.append later)

/-- A failure of its own is not that of a dependency. -/
theorem OwnFailure.not_dependency (own : OwnFailure supervisor history service failure)
    (candid : Candid history) : Startup.isDependencyFailure failure = false := by
  cases own with
  | gate => rfl
  | @start turn index reason member happened =>
    have refused : turn.refusal? = some reason := by
      unfold Turn.refusal?
      rw [happened]
    exact candid turn member reason refused
  | @wait turn live reason member own happened =>
    have refused : turn.refusal? = some failure := by
      unfold Turn.refusal?
      rw [happened]
    exact candid turn member failure refused
  | oneShot => rfl
  | crash => rfl

/-- The latest attempt to connect was asked for in some turn. -/
theorem exists_of_latestDial? {name : String} {dial : Dial}
    (latest : latestDial? name history = some dial) :
    ∃ turn ∈ history, turn.dials name ≠ [] ∧ turn.moment = dial.asked := by
  obtain ⟨turn, member, dialled⟩ := List.mem_flatMap.1 (List.mem_of_getLast? latest)
  refine ⟨turn, member, List.ne_nil_of_mem dialled, ?_⟩
  obtain ⟨effect, -, same⟩ := List.mem_filterMap.1 dialled
  split at same
  · split at same
    · cases same
      rfl
    · cases same
  · cases same

end History

namespace Supervisor

open History Effect

variable {supervisor : Supervisor} {mail : Mail} {history : List Turn} {state : State}
  {startup : Startup} {board after : Board} {service : Service} {stage next : Stage}
  {now : Duration} {happening : Happening} {effects : List Effect} {failure : Failure}

/-! ## How a starting service fails -/

/-- A service that fails at an attempt has no clock for the deadline, or no time left. -/
theorem attempt_failed {visit : Visit} {dependency : Dependency} {rest : List Dependency}
    (told : (supervisor.attempt service visit dependency rest now).next.failure? = some failure) :
    (¬ visit.deadline.IsInstant ∧ failure = supervisor.crashFailure service) ∨
      (visit.deadline ≤ now ∧ failure = (visit.gate.timeoutError visit.attempts : Failure)) := by
  rcases supervisor.attempt_cases service visit dependency rest now with
    ⟨-, -, equal⟩ | ⟨-, beyond, equal⟩ | ⟨late, equal⟩
  · rw [equal] at told
    cases told
  · rw [equal] at told
    cases told
    exact .inl ⟨beyond, rfl⟩
  · rw [equal] at told
    cases told
    exact .inr ⟨late, rfl⟩

/-- A service fails because a dependency has failed, or for a reason of its own. -/
theorem StageStep.failed
    (step : StageStep supervisor now startup board service stage happening next after effects)
    (told : next.failure? = some failure)
    (fits : StageFits supervisor history service stage) (state : State) :
    (∃ dependency ∈ service.dependsOn,
      startup.statusOf supervisor.topology dependency.service = .failed ∧
        failure = (SupervisorError.dependencyFailed service.name dependency.service : Failure)) ∨
    OwnFailure supervisor (history ++ [⟨now, happening, effects, state⟩]) service failure := by
  have latest : ⟨now, happening, effects, state⟩ ∈
      history ++ [(⟨now, happening, effects, state⟩ : Turn)] :=
    List.mem_append_right history (List.mem_singleton_self _)
  cases step with
  | @dependencyFailed dependency rest failed =>
    left
    cases told
    exact ⟨dependency, fits.1.listed, failed, rfl⟩
  | @begun dependency rest gate line settled sound reachable found =>
    right
    rcases attempt_failed told with ⟨beyond, rfl⟩ | ⟨late, rfl⟩
    · exact .crash (.deadline fits.1.listed found latest rfl beyond)
    · exact .gate fits.1.listed found latest rfl latest late
  | overran beyond =>
    right
    rcases fits with ⟨awaits, -, before, since, rfl, dialling⟩
    rcases exists_of_latestDial? dialling.dialled with ⟨asked, member, dials, moment⟩
    cases told
    refine .crash (.interval awaits.listed dialling.gate ?_ dials latest rfl ?_)
    · exact List.mem_append_left _ (List.mem_append_right before member)
    · rw [moment]
      exact beyond
  | crashed calling =>
    right
    cases told
    exact .crash (.call latest rfl)
  | @retried visit due dependency rest ready =>
    right
    rcases fits with ⟨awaits, -, before, since, rfl, waits⟩
    rcases waits.begun with ⟨first, further, rfl, resumed, moment⟩
    have began : first ∈ before ++ first :: further :=
      List.mem_append_right before List.mem_cons_self
    rcases attempt_failed told with ⟨beyond, rfl⟩ | ⟨late, rfl⟩
    · refine .crash
        (.deadline awaits.listed waits.gate (List.mem_append_left _ began) resumed ?_)
      rw [moment]
      exact beyond
    · refine .gate awaits.listed waits.gate (List.mem_append_left _ began) resumed latest ?_
      rw [moment]
      exact late
  | launchFailed =>
    right
    cases told
    exact .start latest rfl
  | @waitFailed current rest reason =>
    right
    cases told
    exact .wait latest (mem_instancesOf.1 fits.current_mem).2 rfl
  | @exitedBadly current rest code bad =>
    right
    cases told
    exact .oneShot latest (mem_instancesOf.1 fits.current_mem).2 bad rfl
  | cleared =>
    exact nomatch (isSetback_launch supervisor service 0 []).symm.trans
      (Stage.isSetback_of_failure? told)
  | @launched index launched line =>
    exact nomatch (isSetback_launch supervisor service (index + 1) _).symm.trans
      (Stage.isSetback_of_failure? told)
  | @exitedWell current rest =>
    exact nomatch (isSetback_drain service rest).symm.trans (Stage.isSetback_of_failure? told)
  | _ => cases told

/-! ## Roots -/

/-- Each failure of a starting service is its own or that of a dependency, and leads back to a service
that failed for a reason of its own. -/
structure Blamed (supervisor : Supervisor) (history : List Turn) (startup : Startup) : Prop where
  own : ∀ name stage failure, startup.stages.get? name = some stage →
    stage.failure? = some failure → Startup.isDependencyFailure failure = true ∨
      ∃ service, supervisor.topology.service? name = some service ∧
        OwnFailure supervisor history service failure
  root : ∀ name stage failure, startup.stages.get? name = some stage →
    stage.failure? = some failure →
      ∃ root final cause service, startup.stages.get? root = some final ∧
        final.failure? = some cause ∧ supervisor.topology.service? root = some service ∧
        OwnFailure supervisor history service cause

/-- A dependency whose status is that of a failure has ended with one. -/
theorem StartupFits.ended_of_failed (fits : StartupFits supervisor history startup board)
    (declared : supervisor.topology.service? service.name = some service)
    {dependency : Dependency} (listed : dependency ∈ service.dependsOn)
    (failed : startup.statusOf supervisor.topology dependency.service = .failed) :
    ∃ failure, startup.stages.get? dependency.service = some (.ended (some failure)) := by
  have member := (Topology.service?_eq_some_iff.1 declared).1
  rcases Topology.dependency_fits member listed with ⟨-, target, found, -⟩
  have named := Topology.service?_name found
  rcases fits.stage target (named ▸ found) with ⟨stage, standing, stageFits⟩
  rw [named] at standing
  unfold Startup.statusOf at failed
  rw [found, standing] at failed
  cases stage with
  | ended outcome =>
    cases outcome with
    | none =>
      dsimp only [Stage.status] at failed
      split at failed <;> cases failed
    | some failure => exact ⟨failure, standing⟩
  | cancelled reached => exact absurd failed stageFits.not_failed
  | crashed reached failure => exact absurd failed stageFits.1.not_failed
  | _ => cases failed

theorem Blamed.append (blamed : Blamed supervisor history startup) (later : List Turn) :
    Blamed supervisor (history ++ later) startup := by
  constructor
  · intro name stage failure standing told
    refine (blamed.own name stage failure standing told).imp_right ?_
    rintro ⟨service, declared, own⟩
    exact ⟨service, declared, own.append later⟩
  · intro name stage failure standing told
    rcases blamed.root name stage failure standing told with
      ⟨root, final, cause, service, ended, causes, declared, own⟩
    exact ⟨root, final, cause, service, ended, causes, declared, own.append later⟩

theorem Blamed.step (blamed : Blamed supervisor history startup)
    (fits : StartupFits supervisor history startup board)
    (declared : supervisor.topology.service? service.name = some service)
    (standing : startup.stages.get? service.name = some stage)
    (step : StageStep supervisor now startup board service stage happening next after effects)
    (state : State) :
    Blamed supervisor (history ++ [⟨now, happening, effects, state⟩])
      (startup.setStage service.name next) := by
  have ownFits := fits.stageFits declared standing
  have later := blamed.append [⟨now, happening, effects, state⟩]
  -- Whatever has ended before is not the service that takes the step.
  have kept : ∀ {name final cause}, startup.stages.get? name = some final →
      final.failure? = some cause →
      (startup.setStage service.name next).stages.get? name = some final := by
    intro name final cause ended told
    rw [Startup.get?_setStage, if_neg]
    · exact ended
    · rintro rfl
      cases standing.symm.trans ended
      exact nomatch step.ongoing.symm.trans
        (Stage.isOver_of_hasEnded (Stage.hasEnded_of_failure? told))
  constructor
  · intro name final failure ended told
    rw [Startup.get?_setStage] at ended
    split at ended
    · rename_i same
      subst same
      cases ended
      rcases step.failed told ownFits state with ⟨dependency, listed, failed, rfl⟩ | own
      · exact Or.inl rfl
      · exact Or.inr ⟨service, declared, own⟩
    · exact later.own name final failure ended told
  · intro name final failure ended told
    rw [Startup.get?_setStage] at ended
    split at ended
    · rename_i same
      subst same
      cases ended
      rcases step.failed told ownFits state with ⟨dependency, listed, failed, rfl⟩ | own
      · rcases fits.ended_of_failed declared listed failed with ⟨failure, ended⟩
        rcases later.root _ _ failure ended rfl with
          ⟨root, final, cause, service, rootEnded, causes, rest⟩
        exact ⟨root, final, cause, service, kept rootEnded causes, causes, rest⟩
      · refine ⟨service.name, _, failure, service, ?_, told, declared, own⟩
        rw [Startup.get?_setStage, if_pos rfl]
    · rcases later.root name final failure ended told with
        ⟨root, final, cause, service, rootEnded, causes, rest⟩
      exact ⟨root, final, cause, service, kept rootEnded causes, causes, rest⟩

theorem Blamed.start (supervisor : Supervisor) :
    Blamed supervisor [] (.ofTopology supervisor.topology) := by
  have silent : ∀ {name stage failure},
      (Startup.ofTopology supervisor.topology).stages.get? name = some stage →
        stage.failure? ≠ some failure := by
    intro name stage failure standing told
    rcases (Startup.get?_ofTopology _).1 standing with ⟨service, -, -, rfl⟩
    cases told
  constructor
  · intro name stage failure standing told
    exact absurd told (silent standing)
  · intro name stage failure standing told
    exact absurd told (silent standing)

theorem Run.blamed (run : supervisor.Run mail history state)
    (starting : state.phase = .starting startup) : Blamed supervisor history startup := by
  induction run generalizing startup with
  | start =>
    cases starting
    exact .start supervisor
  | exchange mailbox allowed before induction => cases starting
  | @step history state moment happening move before made induction =>
    have step := Step.of_step? made
    have former := before.invariant.phase
    generalize move.next = next at step starting ⊢
    generalize move.effects = effects at step ⊢
    cases step with
    | stage declared standing step =>
      cases starting
      exact (induction rfl).step former declared standing step _
    | joined standing hasEnded fresh =>
      cases starting
      rcases (induction rfl).append _ with ⟨own, root⟩
      exact ⟨own, root⟩
    | startupFailed settled failed down => exact absurd starting (down.ne_of_up rfl)
    | shutdown heeds down => exact absurd starting (down.ne_of_up rfl)
    | handled taken proceeds => exact absurd starting proceeds.ne_starting
    | repaired begun proceeds => exact absurd starting proceeds.ne_starting
    | stopped down => exact absurd starting (down.ne_of_up rfl)
    | _ => cases starting

/-! ## The failure of a startup -/

theorem Startup.mem_failures {failure : Failure} :
    failure ∈ startup.failures ↔
      ∃ name ∈ startup.joined, ∃ stage, startup.stages.get? name = some stage ∧
        stage.failure? = some failure := by
  simp only [Startup.failures, List.mem_filterMap, Option.bind_eq_some_iff]

/-- In a startup that is over, the failure of every service that has failed has been noted. -/
theorem Startup.mem_failures_of_isSettled (settled : startup.isSettled = true) {name : String}
    (standing : startup.stages.get? name = some stage) (told : stage.failure? = some failure) :
    failure ∈ startup.failures := by
  have entry := Dictionary.get?_eq_some_iff.1 standing
  rcases Bool.or_eq_true_iff.1 (List.all_eq_true.1 settled _ entry) with cancelled | noted
  · cases stage with
    | cancelled reached => cases told
    | _ => cases cancelled
  · exact Startup.mem_failures.2 ⟨name, by simpa using noted, stage, standing, told⟩

/-- The failure of the whole startup is a service's own. -/
theorem StartupFits.own_of_failure? (fits : StartupFits supervisor history startup board)
    (blamed : Blamed supervisor history startup) (candid : Candid history)
    (settled : startup.isSettled = true) (failed : startup.failure? = some failure) :
    Startup.isDependencyFailure failure = false ∧
      ∃ service, supervisor.topology.service? service.name = some service ∧
        (∃ stage, Showed history service.name stage ∧ stage.failure? = some failure) ∧
        OwnFailure supervisor history service failure := by
  unfold Startup.failure? at failed
  cases preferred : startup.failures.find? (!Startup.isDependencyFailure ·) with
  | some found =>
    rw [preferred] at failed
    cases failed
    have other : Startup.isDependencyFailure failure = false := by
      simpa using List.find?_some preferred
    refine ⟨other, ?_⟩
    rcases Startup.mem_failures.1 (List.mem_of_find?_eq_some preferred) with
      ⟨name, -, stage, standing, told⟩
    rcases blamed.own name stage failure standing told with dependent | ⟨service, declared, own⟩
    · rw [other] at dependent
      cases dependent
    · have named := Topology.service?_name declared
      subst named
      exact ⟨service, declared,
        ⟨stage, fits.told service.name stage standing (Stage.hasEnded_of_failure? told), told⟩, own⟩
  | none =>
    -- A dependency failure has a root, which has been noted and would have been preferred.
    rw [preferred, Option.none_or] at failed
    rcases Startup.mem_failures.1 (List.mem_of_mem_head? failed) with
      ⟨name, -, stage, standing, told⟩
    rcases blamed.root name stage failure standing told with
      ⟨root, final, cause, service, rootEnded, causes, -, own⟩
    have noted := Startup.mem_failures_of_isSettled settled rootEnded causes
    have dependent := List.find?_eq_none.1 preferred cause noted
    rw [own.not_dependency candid] at dependent
    exact absurd rfl dependent

/-- When the startup is over, the topology is taken down with the failure of the startup. -/
theorem Step.of_settled {next : State}
    (step : Step supervisor now state .settled next effects)
    (failed : next.phase.failure? = some failure) :
    ∃ startup, state.phase = .starting startup ∧ startup.isSettled = true ∧
      startup.failure? = some failure := by
  cases step with
  | stage declared standing step => cases step
  | startedUp settled sound => cases failed
  | startupFailed settled found down =>
    refine ⟨_, rfl, settled, ?_⟩
    rcases down.result.2.2 with ⟨current, rest, rfl⟩ | rfl
    · rw [found]
      exact failed
    · rw [found]
      exact failed
  | monitored seen => cases failed
  | monitoredMeanwhile seen => cases failed

/-! ## What depends on a failed service -/

/-- What a service hinges on has ended well when the service has gone past its dependencies. -/
theorem Founded.showed_of_hingesOn (founded : Founded supervisor history)
    {name : String} {target : Service} (hinges : supervisor.topology.HingesOn name target)
    (declared : supervisor.topology.service? name = some service)
    (targetDeclared : supervisor.topology.service? target.name = some target)
    (cleared : ∀ dependency ∈ service.dependsOn, Cleared supervisor history service dependency) :
    Showed history target.name (.ended none) := by
  rcases hinges with ⟨middle, path, last, lastDeclared, dependency, listed, named, kind⟩
  have passed : ∀ dependency ∈ last.dependsOn, Cleared supervisor history last dependency := by
    rcases Relation.reflTransGen_iff_eq_or_transGen.1 path with same | requires
    · rw [same, declared] at lastDeclared
      cases lastDeclared
      exact cleared
    · rcases founded.exists_staffed_of_requires declared cleared requires with
        ⟨other, otherDeclared, -, passed⟩
      rw [lastDeclared] at otherDeclared
      cases otherDeclared
      exact passed
  rw [← named] at targetDeclared ⊢
  exact (passed dependency listed).provided.final target targetDeclared kind

/-! ## The failures of a run -/

/-- The failures of a startup are contained. -/
structure FailuresContained (supervisor : Supervisor) (history : List Turn) : Prop where
  /-- If the startup as a whole fails, it does so with a service's own failure. -/
  root : ∀ earlier turn later, history = earlier ++ turn :: later →
    ∀ failure, turn.startupFailure? = some failure → Candid earlier →
      Startup.isDependencyFailure failure = false ∧
        ∃ service, supervisor.topology.service? service.name = some service ∧
          (∃ stage, Showed earlier service.name stage ∧ stage.failure? = some failure) ∧
          OwnFailure supervisor earlier service failure
  /-- If a service fails, no instance of a service that hinges on it is ever asked for. -/
  dependents : ∀ target, supervisor.topology.service? target.name = some target →
    ∀ stage failure, Showed history target.name stage → stage.failure? = some failure →
      ∀ turn ∈ history, ∀ slot ∈ starts turn.effects,
        ¬supervisor.topology.HingesOn slot.service target

/-- In every run the failures of the startup are contained. -/
theorem failures_contained (run : supervisor.Run mail history state) :
    FailuresContained supervisor history := by
  constructor
  · rintro earlier turn later rfl failure told candid
    rcases Turn.startupFailure?_eq_some_iff.1 told with ⟨happened, failed⟩
    rcases run.split rfl with ⟨before, past, made⟩
    have step := Step.of_step? made
    rw [happened] at step
    rcases step.of_settled failed with ⟨startup, starting, settled, found⟩
    have fits := past.invariant.phase
    rw [starting] at fits
    exact StartupFits.own_of_failure? fits (past.blamed starting) candid settled found
  · intro target targetDeclared stage failure showed told turn member slot asked hinges
    rcases List.append_of_mem member with ⟨earlier, later, rfl⟩
    rcases run.split rfl with ⟨before, past, made⟩
    have invariant := past.invariant
    rcases invariant.ready (.of_step? made) asked with ⟨service, declared, cleared⟩
    have ended := invariant.founded.showed_of_hingesOn hinges declared targetDeclared cleared
    cases run.invariant.founded.outcome target.name _ stage (ended.append (turn :: later)) showed
      rfl (Stage.hasEnded_of_failure? told)
    cases told

/-- The small stack fails with the failure of its database, although the other services are noted
before it. -/
theorem small_failures_contained :
    ∃ earlier turn state, small.Run .monitored (earlier ++ [turn]) state ∧
      turn.startupFailure? = some (small.obstacle.within "Failed to start db[0]") ∧
      Candid earlier ∧ FailuresContained small (earlier ++ [turn]) := by
  rcases exists_run_of_replay? small .monitored small.fail
    (fun earlier turn _ => decide (Candid earlier) && decide
      (turn.startupFailure? = some (small.obstacle.within "Failed to start db[0]")))
    (by decide +kernel) with ⟨earlier, turn, state, run, tested⟩
  rcases Bool.and_eq_true_iff.1 tested with ⟨candid, failed⟩
  exact ⟨earlier, turn, state, run, of_decide_eq_true failed, of_decide_eq_true candid,
    failures_contained run⟩

/-- The database of the small stack is not launched, which is told in the words that the supervisor
has for the dependents of a service that has failed. -/
def small.echo : List (Duration × Happening) :=
  [(.zero, .resumed "db"),
    (.ofSeconds 1, .startEnded ⟨"db", 0⟩
      (some (SupervisorError.dependencyFailed "db" "disk" : Failure))),
    (.ofSeconds 1, .resumed "setup"),
    (.ofSeconds 1, .resumed "app"),
    (.ofSeconds 1, .joined "db"),
    (.ofSeconds 1, .joined "setup"),
    (.ofSeconds 1, .joined "app"),
    (.ofSeconds 1, .settled)]

/-- Where the surroundings are not candid, a startup can end with the failure of a dependency. -/
theorem small_echoes_dependencyFailed :
    ∃ earlier turn state failure, small.Run .monitored (earlier ++ [turn]) state ∧
      turn.startupFailure? = some failure ∧
      failure.cause = .supervisor (.dependencyFailed "db" "disk") := by
  rcases exists_run_of_replay? small .monitored small.echo
    (fun _ turn _ => turn.startupFailure?.any fun failure : Failure =>
      decide (failure.cause = Cause.supervisor (.dependencyFailed "db" "disk")))
    (by decide +kernel) with
    ⟨earlier, turn, state, run, tested⟩
  rcases (Option.any_eq_true _ _).1 tested with ⟨failure, failed, cause⟩
  exact ⟨earlier, turn, state, failure, run, failed, of_decide_eq_true cause⟩

end Supervisor

end Convoy
