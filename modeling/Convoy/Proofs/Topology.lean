import Convoy.Topology
import Mathlib.Data.List.Nodup
import Mathlib.Logic.Relation

/-!
# Topologies fit together

What the parts of a topology promise to whoever runs it: names tell its services apart, and each
dependency leads to another service that can be waited for in the way the dependency asks.
-/

namespace Convoy

namespace Blueprint

/-- A blueprint passes exactly if each of its five checks does. -/
theorem check_eq_ok_iff (blueprint : Blueprint) :
    blueprint.check = .ok () ↔
      duplicate? [] blueprint.services = none ∧
        blueprint.services.findSome? blueprint.serviceError? = none ∧
        blueprint.sharedDataset? = none ∧
        blueprint.edge.check = .ok () ∧
        blueprint.unplaced = [] := by
  unfold check
  cases duplicate? [] blueprint.services with
  | some name => simp
  | none =>
    cases blueprint.services.findSome? blueprint.serviceError? with
    | some cause => simp
    | none =>
      cases blueprint.sharedDataset? with
      | some entry => simp
      | none =>
        cases blueprint.edge.check with
        | error cause => simp [bind, Except.bind]
        | ok result =>
          cases blueprint.unplaced with
          | nil => simp [bind, Except.bind, pure, Except.pure]
          | cons first rest => simp [bind, Except.bind, throw, throwThe, MonadExceptOf.throw]

/-- No duplicate is found exactly if the names differ from each other and from those seen. -/
theorem duplicate?_eq_none_iff {seen : List String} {services : List Service} :
    duplicate? seen services = none ↔
      (services.map (·.name)).Nodup ∧ ∀ service ∈ services, service.name ∉ seen := by
  induction services generalizing seen with
  | nil => simp [duplicate?]
  | cons service rest induction =>
    unfold duplicate?
    by_cases known : service.name ∈ seen
    · simp [known]
    · rw [if_neg (by simpa using known), induction, List.map_cons, List.nodup_cons,
        List.forall_mem_cons]
      simp only [List.mem_append, List.mem_singleton, List.mem_map, not_or, not_exists, not_and]
      constructor
      · rintro ⟨distinct, fresh⟩
        exact ⟨⟨fun other member => (fresh other member).2, distinct⟩, known,
          fun other member => (fresh other member).1⟩
      · rintro ⟨⟨different, distinct⟩, -, fresh⟩
        exact ⟨distinct, fun other member => ⟨fresh other member, different other member⟩⟩

/-- If names differ, a name finds the one service that has it. -/
theorem service?_eq_some_iff_mem
    {blueprint : Blueprint} (distinct : (blueprint.services.map (·.name)).Nodup)
    {name : String} {service : Service} :
    blueprint.service? name = some service ↔
      service ∈ blueprint.services ∧ service.name = name := by
  constructor
  · intro found
    exact ⟨List.mem_of_find?_eq_some found, by simpa using List.find?_some found⟩
  · rintro ⟨member, named⟩
    cases found : blueprint.service? name with
    | none => exact absurd (by simpa using named) (List.find?_eq_none.1 found service member)
    | some other =>
      have otherMember := List.mem_of_find?_eq_some found
      have otherNamed : other.name = name := by simpa using List.find?_some found
      rw [List.inj_on_of_nodup_map distinct otherMember member (otherNamed.trans named.symm)]

/-- A dependency is without an error exactly if it leads to another service, which can be waited for
as the dependency asks. -/
theorem dependencyError?_eq_none_iff
    {blueprint : Blueprint} {service : Service} {dependency : Dependency} :
    blueprint.dependencyError? service dependency = none ↔
      dependency.service ≠ service.name ∧
        ∃ target, blueprint.service? dependency.service = some target ∧
          (dependency.condition = .reachable → ∃ endpoint, target.endpoint = some endpoint) ∧
          (dependency.condition = .completed → target.role.isOneShot = true) := by
  unfold dependencyError?
  by_cases self : dependency.service = service.name
  · simp [self]
  · rw [if_neg (by simpa using self)]
    cases found : blueprint.service? dependency.service with
    | none => simp
    | some target =>
      cases condition : dependency.condition with
      | reachable => simp [self, Option.ne_none_iff_exists']
      | completed => simp [self]

/-- Nothing is wrong with the dependencies of a service with which nothing is wrong. -/
theorem dependencyError?_of_serviceError?
    {blueprint : Blueprint} {service : Service} (fine : blueprint.serviceError? service = none)
    {dependency : Dependency} (listed : dependency ∈ service.dependsOn) :
    blueprint.dependencyError? service dependency = none := by
  unfold serviceError? at fine
  exact List.findSome?_eq_none_iff.1 (Option.or_eq_none_iff.1 fine).1 dependency listed

end Blueprint

namespace Topology

variable (topology : Topology)

theorem names_nodup : (topology.services.map (·.name)).Nodup :=
  (Blueprint.duplicate?_eq_none_iff.1
    ((Blueprint.check_eq_ok_iff _).1 topology.fits).1).1

variable {topology}

/-- A name finds the one service that has it. -/
theorem service?_eq_some_iff {name : String} {service : Service} :
    topology.service? name = some service ↔ service ∈ topology.services ∧ service.name = name :=
  Blueprint.service?_eq_some_iff_mem topology.names_nodup

theorem service?_name {name : String} {service : Service}
    (found : topology.service? name = some service) : service.name = name :=
  (service?_eq_some_iff.1 found).2

/-- Nothing is wrong with the services of a topology. -/
theorem serviceError?_eq_none {service : Service} (member : service ∈ topology.services) :
    topology.serviceError? service = none :=
  List.findSome?_eq_none_iff.1 ((Blueprint.check_eq_ok_iff _).1 topology.fits).2.1 service member

/-- A dependency leads to another service, which can be waited for as the dependency asks. -/
theorem dependency_fits
    {service : Service} (member : service ∈ topology.services)
    {dependency : Dependency} (listed : dependency ∈ service.dependsOn) :
    dependency.service ≠ service.name ∧
      ∃ target, topology.service? dependency.service = some target ∧
        (dependency.condition = .reachable → ∃ endpoint, target.endpoint = some endpoint) ∧
        (dependency.condition = .completed → target.role.isOneShot = true) :=
  Blueprint.dependencyError?_eq_none_iff.1
    (Blueprint.dependencyError?_of_serviceError? (serviceError?_eq_none member) listed)

/-! ## Gates -/

variable {service : Service}

/-- The gate of a dependency of a service. -/
theorem gate?_eq_some_iff {dependency : Dependency} {gate : DependencyGate} :
    topology.gate? service dependency = some gate ↔
      dependency.condition = .reachable ∧ ∃ target endpoint,
        topology.service? dependency.service = some target ∧ target.endpoint = some endpoint ∧
          gate = ⟨dependency.service, .ofTarget endpoint service.readinessTimeout⟩ := by
  unfold gate?
  cases dependency.condition with
  | completed => simp
  | reachable => simp [Option.bind_eq_some_iff, eq_comm (a := gate)]

/-- A service of a topology has a gate for each dependency that it has to reach. -/
theorem gates_eq_nil_iff (declared : service ∈ topology.services) :
    topology.gates service = [] ↔
      ∀ dependency ∈ service.dependsOn, dependency.condition ≠ .reachable := by
  unfold gates
  rw [List.filterMap_eq_nil_iff]
  refine forall₂_congr fun dependency listed => ?_
  constructor
  · intro none_ reachable
    obtain ⟨-, target, found, reaches, -⟩ := dependency_fits declared listed
    obtain ⟨endpoint, listens⟩ := reaches reachable
    cases none_.symm.trans
      (gate?_eq_some_iff.2 ⟨reachable, target, endpoint, found, listens, rfl⟩)
  · intro other
    refine Option.eq_none_iff_forall_ne_some.2 fun gate some_ => ?_
    exact other (gate?_eq_some_iff.1 some_).1

/-- All gates of a service give up after the time that the service is willing to wait, and lead to
endpoints of the topology. -/
theorem of_mem_gates {gate : DependencyGate} (member : gate ∈ topology.gates service) :
    gate.gate.timeout = service.readinessTimeout ∧
      ∃ target ∈ topology.services, target.endpoint = some gate.gate.target := by
  obtain ⟨dependency, -, gives⟩ := List.mem_filterMap.1 member
  obtain ⟨-, target, endpoint, found, listens, rfl⟩ := gate?_eq_some_iff.1 gives
  exact ⟨rfl, target, (service?_eq_some_iff.1 found).1, listens⟩

/-! ## Dependencies of dependencies -/

variable (topology)

/-- The first service lists the second as a dependency. -/
def DependsOn (name other : String) : Prop :=
  ∃ service, topology.service? name = some service ∧
    ∃ dependency ∈ service.dependsOn, dependency.service = other

/-- The first service depends on the second, directly or through others. -/
def Requires : String → String → Prop := Relation.TransGen topology.DependsOn

/-- A service cannot start if another one fails: there is a path of dependencies to that one, and at
the end of it is a service that waits until it has completed, or that waits for a service that only
ends when it is stopped. -/
def HingesOn (name : String) (target : Service) : Prop :=
  ∃ middle, Relation.ReflTransGen topology.DependsOn name middle ∧
    ∃ service, topology.service? middle = some service ∧
      ∃ dependency ∈ service.dependsOn, dependency.service = target.name ∧
        (dependency.condition = .completed ∨ target.role.isOneShot = false)

end Topology

end Convoy
