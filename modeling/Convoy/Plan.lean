import Convoy.Topology
import Convoy.Tree

/-!
# Plans

What will start when, and what each service waits for, without starting anything.
-/

namespace Convoy

/-- What a service waits for, as a plan shows it. -/
structure PlannedGate where
  dependency : String
  condition : Condition
  target : Option String
  timeoutSecs : Option Nat
  deriving DecidableEq

/-- A service as a plan shows it. -/
structure PlannedService where
  name : String
  role : Role
  replicas : Nat
  oneShot : Bool
  gates : List PlannedGate
  /-- The services that wait for this one. -/
  dependents : List String
  deriving DecidableEq

/-- The waves in which a stack starts. -/
structure Plan where
  name : String
  waves : List (List PlannedService)
  deriving DecidableEq

namespace PlannedGate

/-- Shows a dependency with the first gate on that service. -/
def ofDependency (gates : List DependencyGate) (dependency : Dependency) : PlannedGate :=
  let gate := gates.find? (·.dependency == dependency.service)
  { dependency := dependency.service
    condition := dependency.condition
    target := gate.map (·.gate.target.target)
    timeoutSecs := gate.map (·.gate.timeout.seconds) }

def toTree (gate : PlannedGate) : Tree :=
  .record ([("dependency", .text gate.dependency), ("condition", .text gate.condition.name)] ++
    Tree.optional "target" gate.target .text ++
    Tree.optional "timeout_secs" gate.timeoutSecs .number)

end PlannedGate

namespace PlannedService

/-- Shows a service of a topology. -/
def ofService (topology : Topology) (service : Service) : PlannedService where
  name := service.name
  role := service.role
  replicas := service.replicas
  oneShot := service.role.isOneShot
  gates := service.dependsOn.map (PlannedGate.ofDependency (topology.gates service))
  dependents := (topology.dependents service.name).map (·.name)

def toTree (service : PlannedService) : Tree :=
  .record ([("name", .text service.name), ("role", .text service.role.name),
    ("replicas", .number service.replicas), ("one_shot", .boolean service.oneShot),
    ("gates", .list (service.gates.map (·.toTree)))] ++
    Tree.someTexts "dependents" service.dependents)

end PlannedService

namespace Plan

/-- The plan of a topology. -/
def ofTopology (topology : Topology) : Plan where
  name := topology.name
  waves := topology.waves.map fun wave => wave.map (PlannedService.ofService topology)

def toTree (plan : Plan) : Tree :=
  .record [("name", .text plan.name),
    ("waves", .list (plan.waves.map fun wave => .list (wave.map (·.toTree))))]

end Plan

end Convoy
