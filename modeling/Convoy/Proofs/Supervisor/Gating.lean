import Convoy.Proofs.Supervisor.Invariant
import Convoy.Proofs.Supervisor.Requests

/-!
# Instances start behind their gates

Whenever an instance is asked for, the dependencies of its service have come as far as the service
declares. This covers first launches in every order of the starting services, and restarts.
-/

namespace Convoy.Supervisor

open History Effect

variable {supervisor : Supervisor} {mail : Mail} {history : List Turn} {state : State}

/-! ## Who asks for an instance -/

/-- An instance is asked for by its service while that starts, or by the control loop when the
instance that it replaces has been stopped. -/
theorem Step.starts_cases
    {now : Duration} {next : State} {happening : Happening} {effects : List Effect}
    (invariant : Invariant supervisor history state)
    (step : Step supervisor now state happening next effects)
    {slot : Slot} (asked : slot ∈ starts effects) :
    (∃ startup service stage further after,
      state.phase = .starting startup ∧
        supervisor.topology.service? service.name = some service ∧
        startup.stages.get? service.name = some stage ∧
        StageStep supervisor now startup state.board service stage happening further after effects ∧
        ((stage = .awaiting [] ∧ slot = ⟨service.name, 0⟩) ∨
          ∃ index launched, stage = .launching index launched ∧
            slot = ⟨service.name, index + 1⟩)) ∨
    ∃ control repair failure,
      state.phase = .repairing control repair ∧ repair.stage = .stopping ∧
        happening = .stopEnded repair.old failure ∧ slot = repair.old.slot := by
  have absent : starts effects = [] → False := by
    intro none
    rw [none] at asked
    cases asked
  have former := invariant.phase
  cases step with
  | stage declared standing step =>
    left
    exact ⟨_, _, _, _, _, rfl, declared, standing, step, step.starts asked⟩
  | joined standing fresh => cases asked
  | startedUp settled sound =>
    refine (absent ?_).elim
    rw [starts_line]
    exact (watchAll_silent _ _ _).starts
  | startupFailed settled failed down => exact (absent down.asks.1).elim
  | shutdown heeds down => exact (absent down.asks.1).elim
  | handled taken proceeds =>
    refine (absent ?_).elim
    rw [starts_append, (former.2.applied taken).2.asks.1, proceeds.asks.1]
    rfl
  | monitored seen => cases asked
  | @relaunched moment control board repair failure stopping =>
    right
    refine ⟨control, repair, failure, rfl, stopping, rfl, ?_⟩
    rw [(relaunch_asks _ _ _ _ _).1] at asked
    exact List.mem_singleton.1 asked
  | repaired starting proceeds =>
    refine (absent ?_).elim
    rw [starts_append, (former.2.finished supervisor now _).asks.1, proceeds.asks.1]
    rfl
  | monitoredMeanwhile seen => cases asked
  | stopped down =>
    refine (absent ?_).elim
    rw [starts_append, (stopEffects_silent _ _).starts, down.asks.1]
    rfl

/-- When an instance is asked for, its service has rightly gone past all its dependencies. -/
theorem Invariant.ready
    {now : Duration} {next : State} {happening : Happening} {effects : List Effect}
    (invariant : Invariant supervisor history state)
    (step : Step supervisor now state happening next effects)
    {slot : Slot} (asked : slot ∈ starts effects) :
    ∃ service, supervisor.topology.service? slot.service = some service ∧
      ∀ dependency ∈ service.dependsOn, Cleared supervisor history service dependency := by
  have former := invariant.phase
  rcases step.starts_cases invariant asked with
    ⟨startup, service, stage, further, after, starting, declared, standing, -, asking⟩ |
    ⟨control, repair, failure, repairing, -, -, rfl⟩
  · rw [starting] at former
    have fits := StartupFits.stageFits former declared standing
    rcases asking with ⟨rfl, rfl⟩ | ⟨index, launched, rfl, rfl⟩
    · exact ⟨service, declared, fits.1.cleared⟩
    · exact ⟨service, declared, fits.1.cleared⟩
  · rw [repairing] at former
    have launched := slot_mem_launches (invariant.running repair.old former.2.replaced)
    rcases invariant.founded.launched repair.old.slot launched with
      ⟨service, declared, -, cleared⟩
    exact ⟨service, declared, cleared⟩

/-! ## What has happened before -/

/-- After all instances of a dependency had been launched, a service has begun to wait at its gate,
and then an attempt to connect has succeeded. If the attempt kept to its budget, it was in time. -/
def GatePassed (supervisor : Supervisor) (history : List Turn) (service target : Service) : Prop :=
  ∃ endpoint before begun between connected rest dial,
    target.endpoint = some endpoint ∧
    history = before ++ begun :: (between ++ connected :: rest) ∧
    Staffed before target ∧
    begun.happening = .resumed service.name ∧
    connected.happening = .attemptEnded service.name none ∧
    latestDial? service.name (begun :: between) = some dial ∧
    dial.target = ⟨supervisor.options.hostOverride.getD endpoint.host, endpoint.port⟩ ∧
    (connected.moment ≤ dial.asked + dial.budget →
      connected.moment ≤ begun.moment + service.readinessTimeout)

/-- A successful attempt was made at the right address, after the instances had been launched. -/
theorem gatePassed_of_connected
    (run : supervisor.Run mail history state)
    {service : Service} (member : service ∈ supervisor.topology.services)
    {dependency : Dependency} (listed : dependency ∈ service.dependsOn)
    (reachable : dependency.condition = .reachable) {target : Service}
    (declared : supervisor.topology.service? dependency.service = some target)
    (connected : Connected supervisor history service dependency) :
    GatePassed supervisor history service target := by
  rcases connected with ⟨visit, before, since, turn, later, rfl, dialling, happened⟩
  rcases dialling.begun with ⟨begun, between, rfl, resumed, moment⟩
  rw [List.append_assoc] at run
  rcases run.exists_prefix with ⟨reached, earlier⟩
  rcases earlier.invariant.founded.up _ dialling.provided.up with
    ⟨other, otherDeclared, staffed, -⟩
  rw [declared] at otherDeclared
  cases otherDeclared
  rcases supervisor.exists_gateFor? member listed reachable with
    ⟨other, endpoint, gate, otherDeclared, atEndpoint, found, address, timeout⟩
  rw [declared] at otherDeclared
  cases otherDeclared
  rw [dialling.gate] at found
  cases found
  refine ⟨endpoint, before, begun, between, turn, later, visit.dial, atEndpoint, by simp, staffed,
    resumed, happened, dialling.dialled, address, ?_⟩
  intro kept
  have deadline := Nat.le_trans kept (visit.dial_le_deadline dialling.inTime)
  rw [moment, ← timeout]
  exact deadline

/-- Every dependency that has to be reachable has a gate. Whenever an instance is asked for, its
service has passed the gates of these dependencies, each after all instances of the dependency had
been launched, and the other dependencies have completed. -/
theorem instances_start_behind_gates (supervisor : Supervisor) :
    (∀ service ∈ supervisor.topology.services, ∀ dependency ∈ service.dependsOn,
      dependency.condition = .reachable →
        ∃ gate, supervisor.gateFor? service dependency.service = some gate) ∧
    ∀ mail history state, supervisor.Run mail history state →
      ∀ earlier turn later, history = earlier ++ turn :: later →
        ∀ slot ∈ starts turn.effects,
          ∃ service, supervisor.topology.service? slot.service = some service ∧
            ∀ dependency ∈ service.dependsOn,
              ∃ target, supervisor.topology.service? dependency.service = some target ∧
                (dependency.condition = .reachable →
                  GatePassed supervisor earlier service target) ∧
                (dependency.condition = .completed → Completed earlier target) := by
  constructor
  · intro service member dependency listed reachable
    rcases supervisor.exists_gateFor? member listed reachable with
      ⟨target, endpoint, gate, -, -, found, -⟩
    exact ⟨gate, found⟩
  · rintro mail history state run earlier turn later rfl slot asked
    rcases run.split rfl with ⟨before, past, made⟩
    have invariant := past.invariant
    rcases invariant.ready (.of_step? made) asked with ⟨service, declared, cleared⟩
    refine ⟨service, declared, ?_⟩
    intro dependency listed
    have member := (Topology.service?_eq_some_iff.1 declared).1
    rcases Topology.dependency_fits member listed with ⟨-, target, found, -, oneShot⟩
    refine ⟨target, found, ?_, ?_⟩
    · intro reachable
      exact gatePassed_of_connected past member listed reachable found
        ((cleared dependency listed).connected reachable)
    · intro completed
      have ended := (cleared dependency listed).provided.final target found (Or.inl completed)
      have named := Topology.service?_name found
      rw [← named] at found ended
      exact invariant.founded.completed target found (oneShot completed) ended

/-- The application of the small stack starts behind the gate of the database, and after the setup
has completed. -/
theorem small_starts_behind_gates :
    ∃ earlier turn state, small.Run .monitored (earlier ++ [turn]) state ∧
      ⟨"app", 0⟩ ∈ starts turn.effects ∧
        ∃ service, small.topology.service? "app" = some service ∧
          ∀ dependency ∈ service.dependsOn,
            ∃ target, small.topology.service? dependency.service = some target ∧
              (dependency.condition = .reachable → GatePassed small earlier service target) ∧
              (dependency.condition = .completed → Completed earlier target) := by
  rcases exists_run_of_replay? small .monitored small.climb
    (fun _ turn _ => decide (⟨"app", 0⟩ ∈ starts turn.effects)) (by decide +kernel) with
    ⟨earlier, turn, state, run, asked⟩
  refine ⟨earlier, turn, state, run, of_decide_eq_true asked, ?_⟩
  exact (instances_start_behind_gates small).2 .monitored (earlier ++ [turn]) state run earlier turn
    [] rfl ⟨"app", 0⟩ (of_decide_eq_true asked)

end Convoy.Supervisor
