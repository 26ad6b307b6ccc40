import Convoy.Plan
import Convoy.Proofs.Waves.Depth

/-!
# Plans show the waves

A plan lists the gates of each service and the services that wait for it. Both are about the same
dependencies, so each side can be read off the other, and who waits for a service is always in a
later wave.
-/

namespace Convoy

namespace PlannedService

variable {topology : Topology} {service : Service} {name : String}

/-- A planned service has a gate for each of its dependencies. -/
theorem exists_gate_iff :
    (∃ gate ∈ (ofService topology service).gates, gate.dependency = name) ↔
      ∃ dependency ∈ service.dependsOn, dependency.service = name := by
  simp only [ofService, List.mem_map, PlannedGate.ofDependency, exists_exists_and_eq_and]

/-- The gates of a planned service are its dependencies, one for one and in order. -/
theorem map_gates (topology : Topology) (service : Service) :
    (ofService topology service).gates.map (fun gate => (gate.dependency, gate.condition)) =
      service.dependsOn.map fun dependency => (dependency.service, dependency.condition) := by
  rw [ofService, List.map_map]
  rfl

theorem mem_dependents_iff :
    name ∈ (ofService topology service).dependents ↔
      ∃ other ∈ topology.services, other.name = name ∧
        ∃ dependency ∈ other.dependsOn, dependency.service = service.name := by
  simp only [ofService, Topology.dependents, List.mem_map, List.mem_filter, List.any_eq_true,
    beq_iff_eq]
  constructor
  · rintro ⟨other, ⟨member, depends⟩, named⟩
    exact ⟨other, member, named, depends⟩
  · rintro ⟨other, member, named, depends⟩
    exact ⟨other, ⟨member, depends⟩, named⟩

end PlannedService

namespace Plan

variable {topology : Topology}

/-- What is in a wave of a plan is what a service in this wave looks like. -/
theorem exists_wave_iff {index : Nat} {planned : PlannedService} :
    (∃ wave, (ofTopology topology).waves[index]? = some wave ∧ planned ∈ wave) ↔
      ∃ service, topology.InWave index service ∧
        PlannedService.ofService topology service = planned := by
  simp only [ofTopology, List.getElem?_map, Option.map_eq_some_iff]
  constructor
  · rintro ⟨_, ⟨wave, isWave, rfl⟩, member⟩
    obtain ⟨service, listed, shown⟩ := List.mem_map.1 member
    exact ⟨service, ⟨wave, isWave, listed⟩, shown⟩
  · rintro ⟨service, ⟨wave, isWave, listed⟩, rfl⟩
    exact ⟨_, ⟨wave, isWave, rfl⟩, List.mem_map_of_mem listed⟩

theorem mem_waves_iff {planned : PlannedService} :
    planned ∈ (ofTopology topology).waves.flatten ↔
      ∃ service ∈ topology.services, PlannedService.ofService topology service = planned := by
  have flattened : (ofTopology topology).waves.flatten =
      topology.sequence.map (PlannedService.ofService topology) := List.map_flatten.symm
  rw [flattened, List.mem_map]
  simp only [topology.sequence_perm.mem_iff]

/-- A plan shows the waves of a topology, and who waits for whom from both sides. -/
structure Mirrors (topology : Topology) (plan : Plan) : Prop where
  waves : plan.waves.map (·.map (·.name)) = topology.waves.map (·.map (·.name))
  /-- A planned service has the gates that the service of its name depends on. -/
  gates : ∀ planned ∈ plan.waves.flatten, ∃ service ∈ topology.services,
    service.name = planned.name ∧
      planned.gates.map (fun gate => (gate.dependency, gate.condition)) =
        service.dependsOn.map fun dependency => (dependency.service, dependency.condition)
  /-- A service is among the dependents of another exactly if it has a gate for that one. -/
  mem_dependents_iff : ∀ planned ∈ plan.waves.flatten, ∀ name,
    name ∈ planned.dependents ↔
      ∃ other ∈ plan.waves.flatten, other.name = name ∧
        ∃ gate ∈ other.gates, gate.dependency = planned.name
  ordered : ∀ planned ∈ plan.waves.flatten,
    planned.dependents.Sublist (topology.services.map (·.name))
  once : ∀ planned ∈ plan.waves.flatten, planned.dependents.Nodup
  later : ∀ (index : Nat) wave, plan.waves[index]? = some wave → ∀ planned ∈ wave,
    ∀ (after : Nat) others, plan.waves[after]? = some others → ∀ other ∈ others,
      other.name ∈ planned.dependents → index < after

/-- Dependents are in a later wave. -/
theorem lt_of_mem_dependents {index after : Nat} {service other : Service}
    (placedAt : topology.InWave index service) (otherAt : topology.InWave after other)
    (depends : other.name ∈ (PlannedService.ofService topology service).dependents) :
    index < after := by
  obtain ⟨lister, member, named, dependency, listed, target⟩ :=
    PlannedService.mem_dependents_iff.1 depends
  obtain rfl := List.inj_on_of_nodup_map topology.names_nodup member otherAt.mem named
  obtain ⟨earlier, before, found, foundAt, foundNamed⟩ := otherAt.dependency listed
  obtain rfl := List.inj_on_of_nodup_map topology.names_nodup foundAt.mem placedAt.mem
    (foundNamed.trans target)
  exact topology.inWave_unique placedAt foundAt ▸ before

theorem ofTopology_mirrors (topology : Topology) : (ofTopology topology).Mirrors topology := by
  have ordered : ∀ service, (PlannedService.ofService topology service).dependents.Sublist
      (topology.services.map (·.name)) :=
    fun service => List.filter_sublist.map _
  constructor
  case waves =>
    rw [ofTopology, List.map_map]
    refine List.map_congr_left fun wave _ => ?_
    exact List.map_map
  case gates =>
    intro planned member
    obtain ⟨service, declared, rfl⟩ := mem_waves_iff.1 member
    exact ⟨service, declared, rfl, PlannedService.map_gates topology service⟩
  case mem_dependents_iff =>
    intro planned member name
    obtain ⟨service, -, rfl⟩ := mem_waves_iff.1 member
    rw [PlannedService.mem_dependents_iff]
    constructor
    · rintro ⟨other, listed, named, depends⟩
      exact ⟨_, mem_waves_iff.2 ⟨other, listed, rfl⟩, named,
        PlannedService.exists_gate_iff.2 depends⟩
    · rintro ⟨planned, shown, named, waits⟩
      obtain ⟨other, listed, rfl⟩ := mem_waves_iff.1 shown
      exact ⟨other, listed, named, PlannedService.exists_gate_iff.1 waits⟩
  case ordered =>
    intro planned member
    obtain ⟨service, -, rfl⟩ := mem_waves_iff.1 member
    exact ordered service
  case once =>
    intro planned member
    obtain ⟨service, -, rfl⟩ := mem_waves_iff.1 member
    exact topology.names_nodup.sublist (ordered service)
  case later =>
    intro index wave isWave planned member after others isOther other otherMember depends
    obtain ⟨service, placedAt, rfl⟩ := exists_wave_iff.1 ⟨wave, isWave, member⟩
    obtain ⟨dependent, dependentAt, rfl⟩ := exists_wave_iff.1 ⟨others, isOther, otherMember⟩
    exact lt_of_mem_dependents placedAt dependentAt depends

end Plan

namespace Topology

/-- The waves of a topology are its services by the length of their longest chains of dependencies,
and its plan shows them with their dependents. Of blueprints that pass the other checks, those with
a cycle are refused, and the error names the services from which a cycle can be reached. -/
theorem waves_are_depths :
    (∀ topology : Topology,
      topology.Layered topology.waves ∧ (Plan.ofTopology topology).Mirrors topology) ∧
    ∀ blueprint : Blueprint, blueprint.PartsFit → blueprint.CyclesReported :=
  ⟨fun topology => ⟨topology.layered, Plan.ofTopology_mirrors topology⟩,
    fun _ fit => fit.cyclesReported⟩

/-- A service at port 80 of its own name that has to reach others. -/
def tangled.server (name : String) (others : List String) : Service where
  name := name
  role := .worker
  image := name
  command := ["run"]
  endpoint := some ⟨name, 80⟩
  environment := .empty
  secrets := .empty
  dependsOn := others.map (⟨·, .reachable⟩)
  probes := .none
  volumes := []
  replicas := 1
  readinessTimeout := .ofSeconds 30

/-- An application and its cache that wait for each other, with a gateway to the application. -/
def tangled : Blueprint where
  name := "stack"
  services := [tangled.server "gateway" ["app"], tangled.server "database" [],
    tangled.server "app" ["database", "cache"], tangled.server "cache" ["app"]]
  volumes := .empty
  secrets := .empty
  edge := .standard

theorem tangled_refused :
    tangled.PartsFit ∧ ∃ names, ofBlueprint tangled = .error (.cycle names) ∧
      "gateway" ∈ names ∧ "database" ∉ names := by
  have fit : tangled.PartsFit :=
    ⟨by decide +kernel, by decide +kernel, by decide +kernel, by decide +kernel⟩
  obtain ⟨reported_iff, -, mem_iff⟩ := waves_are_depths.2 tangled fit
  have gateway : Service.Lists tangled.services "gateway" "app" :=
    ⟨tangled.server "gateway" ["app"], by simp [tangled], rfl, ⟨"app", .reachable⟩,
      List.mem_singleton_self _, rfl⟩
  have app : Service.Lists tangled.services "app" "cache" :=
    ⟨tangled.server "app" ["database", "cache"], by simp [tangled], rfl, ⟨"cache", .reachable⟩,
      List.mem_cons_of_mem _ (List.mem_singleton_self _), rfl⟩
  have cache : Service.Lists tangled.services "cache" "app" :=
    ⟨tangled.server "cache" ["app"], by simp [tangled], rfl, ⟨"app", .reachable⟩,
      List.mem_singleton_self _, rfl⟩
  have cycle : Relation.TransGen (Service.Lists tangled.services) "app" "app" :=
    .head app (.single cache)
  obtain ⟨names, refused⟩ := reported_iff.2 ⟨"app", cycle⟩
  refine ⟨fit, names, refused, ?_, ?_⟩
  · exact (mem_iff names refused "gateway").2 ⟨by decide, "app", .single gateway, cycle⟩
  · intro listed
    obtain ⟨-, reaches⟩ := (mem_iff names refused "database").1 listed
    obtain ⟨other, ⟨service, member, named, dependency, depends, -⟩, -⟩ := reaches.next
    have independent : ∀ service ∈ tangled.services, service.name = "database" →
        service.dependsOn = [] := by decide
    rw [independent service member named] at depends
    cases depends

end Topology

end Convoy
