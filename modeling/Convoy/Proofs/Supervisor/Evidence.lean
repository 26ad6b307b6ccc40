import Convoy.Proofs.Supervisor.Run
import Convoy.Proofs.Topology

/-!
# What a history tells about dependencies

While a topology is brought up, the services know of each other only the latest status. What a
status stands for is in the history: launches, exits and connections. This module names these facts.
All of them are kept when the history grows.
-/

namespace Convoy

namespace Status

/-- Whether a status lets the dependents of a service go on. -/
def isUp : Status → Bool
  | running => true
  | completed => true
  | _ => false

theorem isUp_of_settles {condition : Condition} {status : Status}
    (settled : status.settles condition = true) (sound : status ≠ .failed) :
    status.isUp = true := by
  cases condition <;> cases status <;> simp_all [settles, isUp]

theorem eq_completed_of_settles {status : Status}
    (settled : status.settles .completed = true) (sound : status ≠ .failed) :
    status = .completed := by
  cases status <;> simp_all [settles]

end Status

/-- The attempt that is under way at a gate. -/
def Visit.dial (visit : Visit) : Dial :=
  ⟨visit.started, visit.gate.target, visit.gate.budget visit.deadline visit.started⟩

/-- An attempt that is made before the deadline and keeps to its budget ends by the deadline. -/
theorem Visit.dial_le_deadline (visit : Visit) (inTime : visit.started < visit.deadline) :
    visit.dial.asked + visit.dial.budget ≤ visit.deadline := by
  have before : visit.started.nanos < visit.deadline.nanos := inTime
  show (visit.started + visit.gate.budget visit.deadline visit.started).nanos ≤
    visit.deadline.nanos
  simp only [Gate.budget, Duration.nanos_add, Duration.nanos_min, Duration.nanos_sub]
  omega

namespace Supervisor

/-! ## Gates -/

/-- A dependency that has to be reachable has a gate: at the endpoint of its service, or at the
same port of the host that takes the place of all others. -/
theorem exists_gateFor?
    (supervisor : Supervisor) {service : Service} (member : service ∈ supervisor.topology.services)
    {dependency : Dependency} (listed : dependency ∈ service.dependsOn)
    (reachable : dependency.condition = .reachable) :
    ∃ target endpoint gate,
      supervisor.topology.service? dependency.service = some target ∧
        target.endpoint = some endpoint ∧
        supervisor.gateFor? service dependency.service = some gate ∧
        gate.target = ⟨supervisor.options.hostOverride.getD endpoint.host, endpoint.port⟩ ∧
        gate.timeout = service.readinessTimeout := by
  rcases Topology.dependency_fits member listed with ⟨-, target, declared, hasEndpoint, -⟩
  rcases hasEndpoint reachable with ⟨endpoint, atEndpoint⟩
  have gated : supervisor.topology.gate? service dependency =
      some ⟨dependency.service, .ofTarget endpoint service.readinessTimeout⟩ := by
    simp [Topology.gate?, reachable, declared, atEndpoint]
  have present : ∃ found, (supervisor.topology.gates service).find?
      (·.dependency == dependency.service) = some found := by
    rw [← Option.isSome_iff_exists, List.find?_isSome]
    exact ⟨_, List.mem_filterMap.2 ⟨dependency, listed, gated⟩, by simp⟩
  rcases present with ⟨found, isFound⟩
  -- The first entry of this name need not be the given one, but it leads to the same service.
  rcases List.mem_filterMap.1 (List.mem_of_find?_eq_some isFound) with ⟨other, -, otherGate⟩
  have named : found.dependency = dependency.service := by simpa using List.find?_some isFound
  have gate : found.gate = .ofTarget endpoint service.readinessTimeout := by
    unfold Topology.gate? at otherGate
    split at otherGate
    · cases otherGate
    · obtain ⟨otherTarget, otherDeclared, rest⟩ := Option.bind_eq_some_iff.1 otherGate
      rcases Option.bind_eq_some_iff.1 rest with ⟨otherEndpoint, otherAt, made⟩
      cases made
      rw [show other.service = dependency.service from named, declared] at otherDeclared
      cases otherDeclared
      rw [atEndpoint] at otherAt
      cases otherAt
      rfl
  refine ⟨target, endpoint, supervisor.adapted found.gate, declared, atEndpoint, ?_, ?_⟩
  · simp [gateFor?, isFound]
  · rw [gate]
    cases override : supervisor.options.hostOverride <;>
      simp [adapted, override, Gate.withInterval, Gate.withHost, Gate.ofTarget]

end Supervisor

namespace History

/-- All instances of a service have been launched. -/
def Staffed (history : List Turn) (service : Service) : Prop :=
  ∀ index < service.replicas, ⟨service.name, index⟩ ∈ launches history

/-- The exit of an instance has been noticed, and its status was zero. -/
def ExitedWell (history : List Turn) (live : Instance) : Prop :=
  ∃ turn ∈ history, turn.happening = .exited live (.ok (some 0))

/-- All instances of a service have exited with status zero. -/
def Completed (history : List Turn) (service : Service) : Prop :=
  ∀ index < service.replicas, ∃ id, ExitedWell history ⟨⟨service.name, index⟩, id⟩

variable (supervisor : Supervisor)

/-- The other services have seen that a service is up. -/
def WasUp (history : List Turn) (name : String) : Prop :=
  ∃ service, supervisor.topology.service? name = some service ∧
    ∃ stage, Showed history name stage ∧ (stage.status service.role.isOneShot).isUp = true

/-- A dependency has come far enough. Unless it is a one-shot service that is only to be reached, it
has come to its end, and cannot fail any more. -/
structure Provided (history : List Turn) (dependency : Dependency) : Prop where
  up : WasUp supervisor history dependency.service
  final : ∀ target, supervisor.topology.service? dependency.service = some target →
    dependency.condition = .completed ∨ target.role.isOneShot = false →
      Showed history dependency.service (.ended none)

/-- A service waits at the gate of a dependency, and has done so since a part of the history. -/
structure AtGate (service : Service) (dependency : Dependency) (visit : Visit)
    (before since : List Turn) : Prop where
  provided : Provided supervisor before dependency
  gate : supervisor.gateFor? service dependency.service = some visit.gate
  begun : ∃ first rest, since = first :: rest ∧ first.happening = .resumed service.name ∧
    first.moment = visit.begun

/-- An attempt at the gate is under way. -/
structure Dialling (service : Service) (dependency : Dependency) (visit : Visit)
    (before since : List Turn) : Prop
    extends AtGate supervisor service dependency visit before since where
  dialled : latestDial? service.name since = some visit.dial
  inTime : visit.started < visit.deadline

/-- A service has waited at the gate of a dependency, and an attempt has succeeded. -/
def Connected (history : List Turn) (service : Service) (dependency : Dependency) : Prop :=
  ∃ visit before since turn later, history = before ++ since ++ turn :: later ∧
    Dialling supervisor service dependency visit before since ∧
    turn.happening = .attemptEnded service.name none

/-- A service has gone past a dependency, rightly. -/
structure Cleared (history : List Turn) (service : Service) (dependency : Dependency) : Prop where
  provided : Provided supervisor history dependency
  connected : dependency.condition = .reachable → Connected supervisor history service dependency

variable {supervisor} {history : List Turn}

/-! ## Growing histories -/

theorem launches_append (history later : List Turn) :
    launches (history ++ later) = launches history ++ launches later :=
  List.filterMap_append

theorem Staffed.append {service : Service} (staffed : Staffed history service)
    (later : List Turn) : Staffed (history ++ later) service := by
  intro index small
  rw [launches_append]
  exact List.mem_append_left _ (staffed index small)

theorem ExitedWell.append {live : Instance} (exited : ExitedWell history live)
    (later : List Turn) : ExitedWell (history ++ later) live := by
  rcases exited with ⟨turn, member, happened⟩
  exact ⟨turn, List.mem_append_left _ member, happened⟩

theorem Completed.append {service : Service} (completed : Completed history service)
    (later : List Turn) : Completed (history ++ later) service := by
  intro index small
  rcases completed index small with ⟨id, exited⟩
  exact ⟨id, exited.append later⟩

theorem WasUp.append {name : String} (up : WasUp supervisor history name)
    (later : List Turn) : WasUp supervisor (history ++ later) name := by
  rcases up with ⟨service, declared, stage, showed, isUp⟩
  exact ⟨service, declared, stage, showed.append later, isUp⟩

theorem Provided.append {dependency : Dependency}
    (provided : Provided supervisor history dependency) (later : List Turn) :
    Provided supervisor (history ++ later) dependency :=
  ⟨provided.up.append later, fun target declared ends =>
    (provided.final target declared ends).append later⟩

theorem AtGate.append
    {service : Service} {dependency : Dependency} {visit : Visit} {before since : List Turn}
    (waits : AtGate supervisor service dependency visit before since) (later : List Turn) :
    AtGate supervisor service dependency visit before (since ++ later) := by
  rcases waits.begun with ⟨first, rest, rfl, resumed, moment⟩
  exact ⟨waits.provided, waits.gate, first, rest ++ later, rfl, resumed, moment⟩

theorem latestDial?_append_of_none {service : String} (later : List Turn)
    (none : ∀ turn ∈ later, turn.dials service = []) :
    latestDial? service (history ++ later) = latestDial? service history := by
  have silent : later.flatMap (Turn.dials service) = [] :=
    List.flatMap_eq_nil_iff.2 none
  simp [latestDial?, List.flatMap_append, silent]

theorem latestDial?_concat_of_dials {service : String} {turn : Turn} {dial : Dial}
    (dials : turn.dials service = [dial]) :
    latestDial? service (history ++ [turn]) = some dial := by
  simp [latestDial?, List.flatMap_append, dials]

theorem Dialling.concat
    {service : Service} {dependency : Dependency} {visit : Visit} {before since : List Turn}
    (dialling : Dialling supervisor service dependency visit before since) {turn : Turn}
    (silent : turn.dials service.name = []) :
    Dialling supervisor service dependency visit before (since ++ [turn]) where
  toAtGate := dialling.toAtGate.append [turn]
  dialled := by
    rw [latestDial?_append_of_none [turn] (by simpa using silent)]
    exact dialling.dialled
  inTime := dialling.inTime

theorem Connected.append {service : Service} {dependency : Dependency}
    (connected : Connected supervisor history service dependency) (later : List Turn) :
    Connected supervisor (history ++ later) service dependency := by
  rcases connected with ⟨visit, before, since, turn, rest, rfl, dialling, happened⟩
  exact ⟨visit, before, since, turn, rest ++ later, by simp, dialling, happened⟩

theorem Cleared.append {service : Service} {dependency : Dependency}
    (cleared : Cleared supervisor history service dependency) (later : List Turn) :
    Cleared supervisor (history ++ later) service dependency :=
  ⟨cleared.provided.append later, fun reachable => (cleared.connected reachable).append later⟩

end History

end Convoy
