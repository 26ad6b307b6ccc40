import Convoy.Proofs.Plan
import Mathlib.Data.List.Forall2

/-!
# Gates in a plan

A plan shows a gate for each dependency of a service. It looks for the gate by the name of the
dependency alone. A service that depends on another one in both ways has one gate on it, and both
dependencies are shown with this gate, so that the plan nowhere says that the service also waits for
the other one to end.
-/

namespace Convoy

namespace Topology

variable {topology : Topology} {service : Service} {name : String}

/-- The gate that is found under a name is that of the dependency that has to be reachable. -/
theorem find?_gates_eq_some_iff {gate : DependencyGate} :
    (topology.gates service).find? (·.dependency == name) = some gate ↔
      ⟨name, .reachable⟩ ∈ service.dependsOn ∧
        topology.gate? service ⟨name, .reachable⟩ = some gate := by
  have origin : ∀ other, (topology.gates service).find? (·.dependency == name) = some other →
      ⟨name, .reachable⟩ ∈ service.dependsOn ∧
        topology.gate? service ⟨name, .reachable⟩ = some other := by
    intro other found
    have named : other.dependency = name := by simpa using List.find?_some found
    obtain ⟨⟨target, condition⟩, listed, gives⟩ :=
      List.mem_filterMap.1 (List.mem_of_find?_eq_some found)
    obtain ⟨rfl, _, _, -, -, rfl⟩ := gate?_eq_some_iff.1 gives
    obtain rfl : target = name := named
    exact ⟨listed, gives⟩
  constructor
  · exact origin gate
  · rintro ⟨listed, gives⟩
    cases found : (topology.gates service).find? (·.dependency == name) with
    | some other =>
      rw [← gives, (origin other found).2]
    | none =>
      obtain ⟨-, _, _, -, -, rfl⟩ := gate?_eq_some_iff.1 gives
      have absent := List.find?_eq_none.1 found _ (List.mem_filterMap.2 ⟨_, listed, gives⟩)
      exact absurd (beq_self_eq_true name) absent

end Topology

namespace PlannedGate

/-- A gate in a plan shows an entry of a service, with an address to reach in time exactly if
something is said to be awaited there. -/
structure Shows (topology : Topology) (service : Service) (entry : Dependency) (awaited : Prop)
    (gate : PlannedGate) : Prop where
  dependency : gate.dependency = entry.service
  condition : gate.condition = entry.condition
  limited : awaited → ∃ target endpoint,
    topology.service? entry.service = some target ∧ target.endpoint = some endpoint ∧
      gate.target = some endpoint.target ∧
      gate.timeoutSecs = some (service.readinessTimeout.nanos / 1000000000)
  unlimited : ¬ awaited → gate.target = none ∧ gate.timeoutSecs = none

/-- A gate in a plan describes its own entry: there is an address if the entry asks for one. -/
def Describes (topology : Topology) (service : Service) (entry : Dependency) (gate : PlannedGate) :
    Prop :=
  gate.Shows topology service entry (entry.condition = .reachable)

variable {topology : Topology} {service : Service}

/-- An entry is shown with an address if the service has to reach the dependency, whatever the entry
itself asks for. -/
theorem shows_ofDependency (declared : service ∈ topology.services) (entry : Dependency) :
    (ofDependency (topology.gates service) entry).Shows topology service entry
      (⟨entry.service, .reachable⟩ ∈ service.dependsOn) := by
  constructor
  case dependency => rfl
  case condition => rfl
  case limited =>
    intro listed
    obtain ⟨-, target, found, reaches, -⟩ := Topology.dependency_fits declared listed
    obtain ⟨endpoint, listens⟩ := reaches rfl
    have gives : topology.gate? service ⟨entry.service, .reachable⟩ =
        some ⟨entry.service, .ofTarget endpoint service.readinessTimeout⟩ :=
      Topology.gate?_eq_some_iff.2 ⟨rfl, target, endpoint, found, listens, rfl⟩
    have shown := Topology.find?_gates_eq_some_iff.2 ⟨listed, gives⟩
    refine ⟨target, endpoint, found, listens, ?_⟩
    simp only [ofDependency, shown]
    exact ⟨rfl, rfl⟩
  case unlimited =>
    intro unlisted
    have nothing : (topology.gates service).find? (·.dependency == entry.service) = none :=
      Option.eq_none_iff_forall_ne_some.2 fun gate found =>
        unlisted (Topology.find?_gates_eq_some_iff.1 found).1
    simp only [ofDependency, nothing]
    exact ⟨rfl, rfl⟩

/-- What a gate shows tells whether something is awaited. -/
theorem Shows.awaited_of_shows {gate : PlannedGate} {entry : Dependency} {awaited other : Prop}
    (shows_ : gate.Shows topology service entry awaited)
    (otherShows : gate.Shows topology service entry other) (waits : awaited) : other := by
  by_contra idle
  obtain ⟨_, _, -, -, addressed, -⟩ := shows_.limited waits
  cases addressed.symm.trans (otherShows.unlimited idle).1

theorem describes_ofDependency_iff (declared : service ∈ topology.services) (entry : Dependency) :
    (ofDependency (topology.gates service) entry).Describes topology service entry ↔
      (⟨entry.service, .reachable⟩ ∈ service.dependsOn ↔ entry.condition = .reachable) := by
  have shows_ := shows_ofDependency declared entry
  constructor
  · exact fun own => ⟨shows_.awaited_of_shows own, own.awaited_of_shows shows_⟩
  · intro same
    rwa [Describes, ← same]

end PlannedGate

namespace Plan

variable {topology : Topology} {service : Service}

/-- A plan has each service of its topology once, with a gate for each of its entries in order. A
gate has an address and a time if the service has to reach the dependency in question. All of them
describe their own entries exactly if the service depends on no other one in both ways. -/
theorem gates_own_iff (declared : service ∈ topology.services) :
    ∃ planned ∈ (ofTopology topology).waves.flatten, planned.name = service.name ∧
      (∀ other ∈ (ofTopology topology).waves.flatten, other.name = service.name →
        other = planned) ∧
      List.Forall₂
        (fun entry gate => gate.Shows topology service entry
          (⟨entry.service, .reachable⟩ ∈ service.dependsOn))
        service.dependsOn planned.gates ∧
      (List.Forall₂ (fun entry gate => gate.Describes topology service entry)
          service.dependsOn planned.gates ↔
        ∀ name, ⟨name, .completed⟩ ∈ service.dependsOn →
          ⟨name, .reachable⟩ ∉ service.dependsOn) := by
  refine ⟨_, mem_waves_iff.2 ⟨service, declared, rfl⟩, rfl, ?_, ?_, ?_⟩
  · intro other member named
    obtain ⟨namesake, listed, rfl⟩ := mem_waves_iff.1 member
    rw [List.inj_on_of_nodup_map topology.names_nodup listed declared named]
  · rw [PlannedService.ofService, List.forall₂_map_right_iff, List.forall₂_same]
    exact fun entry _ => PlannedGate.shows_ofDependency declared entry
  · rw [PlannedService.ofService, List.forall₂_map_right_iff, List.forall₂_same]
    simp only [PlannedGate.describes_ofDependency_iff declared]
    constructor
    · intro own name completed reachable
      cases (own _ completed).1 reachable
    · rintro apart ⟨name, condition⟩ listed
      cases condition with
      | reachable => exact iff_of_true listed rfl
      | completed => exact iff_of_false (apart name listed) Condition.noConfusion

/-! ## Two ways to depend on one service -/

/-- An application with some entries. -/
def trio.app (entries : List Dependency) : Service where
  name := "app"
  role := .worker
  image := "app"
  command := ["run"]
  endpoint := none
  environment := .empty
  secrets := .empty
  dependsOn := entries
  probes := .none
  volumes := []
  replicas := 1
  readinessTimeout := .ofMillis 90500

/-- The application with its setup, which can be reached while it runs, and a database. -/
def trio (entries : List Dependency) : Blueprint where
  name := "stack"
  services :=
    [{ trio.app [] with
       name := "setup"
       role := .initializer
       endpoint := some ⟨"setup", 80⟩ },
     { trio.app [] with
       name := "database"
       role := .store
       endpoint := some ⟨"::1", 5432⟩ },
     trio.app entries]
  volumes := .empty
  secrets := .empty
  edge := .standard

def separate.entries : List Dependency :=
  [⟨"setup", .completed⟩, ⟨"database", .reachable⟩, ⟨"database", .reachable⟩]

/-- The application waits for its setup to end and for its database to be reachable. -/
def separate : Topology := ⟨trio separate.entries, by decide +kernel⟩

theorem separate_described :
    ∃ planned ∈ (ofTopology separate).waves.flatten, planned.name = "app" ∧
      List.Forall₂
        (fun entry gate => gate.Describes separate (trio.app separate.entries) entry)
        separate.entries planned.gates := by
  have declared : trio.app separate.entries ∈ separate.services := by simp [separate, trio]
  obtain ⟨planned, member, named, -, -, own⟩ := gates_own_iff declared
  refine ⟨planned, member, named, own.2 fun name completed => ?_⟩
  obtain rfl : name = "setup" := by simpa [trio.app, separate.entries] using completed
  decide

def twofold.entries : List Dependency := [⟨"setup", .completed⟩, ⟨"setup", .reachable⟩]

/-- The application waits for its setup in both ways. -/
def twofold : Topology := ⟨trio twofold.entries, by decide +kernel⟩

theorem twofold_misdescribed :
    ∃ planned ∈ (ofTopology twofold).waves.flatten, planned.name = "app" ∧
      ¬ List.Forall₂
        (fun entry gate => gate.Describes twofold (trio.app twofold.entries) entry)
        twofold.entries planned.gates := by
  have declared : trio.app twofold.entries ∈ twofold.services := by simp [twofold, trio]
  refine ⟨_, mem_waves_iff.2 ⟨_, declared, rfl⟩, rfl, fun own => ?_⟩
  have first := (List.forall₂_cons.1 own).1
  have same := (PlannedGate.describes_ofDependency_iff declared _).1 first
  cases same.1 (by decide)

end Plan

end Convoy
