import Convoy.Edge
import Convoy.Gate
import Convoy.Secret
import Convoy.Service

/-!
# Topologies

A blueprint is what somebody wrote down about a stack; a topology is a blueprint whose parts fit
together. The order in which services start comes as waves: a service is in the first wave in which
everything it depends on has been placed.
-/

namespace Convoy

/-- A description of a stack whose parts need not fit together. -/
structure Blueprint where
  name : String
  services : List Service
  volumes : Dictionary Volume
  secrets : SecretRegistry
  edge : EdgeSettings
  deriving DecidableEq

namespace Blueprint

/-- A blueprint from lists; of two volumes or secrets with one name the later counts. -/
def ofParts (name : String) (services : List Service) (volumes : List Volume)
    (secrets : List SecretSpec) (edge : EdgeSettings) : Blueprint where
  name := name
  services := services
  volumes := Dictionary.ofList (volumes.map fun volume => (volume.name, volume))
  secrets := SecretRegistry.ofList secrets
  edge := edge

def service? (blueprint : Blueprint) (name : String) : Option Service :=
  blueprint.services.find? (·.name == name)

/-- Whether everything that a service depends on has been placed. -/
def isReady (placed : List String) (service : Service) : Bool :=
  service.dependsOn.all fun dependency => placed.contains dependency.service

/-- The services that the next wave takes. -/
def readyAmong (placed : List String) (waiting : List Service) : List Service :=
  waiting.filter (isReady placed)

/-- The services that the next wave leaves. -/
def delayedAmong (placed : List String) (waiting : List Service) : List Service :=
  waiting.filter (!isReady placed ·)

/-- A wave that takes a service leaves fewer of them. -/
theorem length_delayedAmong_lt
    {placed : List String} {waiting : List Service}
    (nonempty : readyAmong placed waiting ≠ []) :
    (delayedAmong placed waiting).length < waiting.length := by
  have split : (readyAmong placed waiting).length + (delayedAmong placed waiting).length =
      waiting.length := by
    rw [← List.length_append]
    exact (List.filter_append_perm (isReady placed) waiting).length_eq
  have positive := List.length_pos_iff.2 nonempty
  omega

/-- Places the services that are ready, wave after wave, until none is. -/
def wavesFrom (placed : List String) (waiting : List Service) : List (List Service) :=
  if _none : readyAmong placed waiting = [] then []
  else
    readyAmong placed waiting ::
      wavesFrom (placed ++ (readyAmong placed waiting).map (·.name)) (delayedAmong placed waiting)
termination_by waiting.length
decreasing_by exact length_delayedAmong_lt _none

/-- The services in the order in which they can start, grouped into waves. Inside a wave they keep
the order of their declaration. -/
def waves (blueprint : Blueprint) : List (List Service) :=
  wavesFrom [] blueprint.services

/-- The waves one after another. -/
def sequence (blueprint : Blueprint) : List Service :=
  blueprint.waves.flatten

/-- The name of the first service that takes the name of an earlier one. -/
def duplicate? (seen : List String) : List Service → Option String
  | [] => none
  | service :: rest =>
    if seen.contains service.name then some service.name
    else duplicate? (seen ++ [service.name]) rest

/-- What is wrong with one dependency of a service, if anything. -/
def dependencyError? (blueprint : Blueprint) (service : Service) (dependency : Dependency) :
    Option TopologyError :=
  if dependency.service == service.name then some (.selfDependency service.name)
  else
    match blueprint.service? dependency.service with
    | none => some (.unknownDependency service.name dependency.service)
    | some target =>
      match dependency.condition with
      | .reachable =>
        if target.endpoint.isNone then
          some (.unreachableDependency service.name dependency.service)
        else none
      | .completed =>
        if target.role.isOneShot then none
        else some (.notOneShot service.name dependency.service)

/-- What is wrong with one service, if anything: its dependencies, its mounts, its secrets, and for
a proxy its probes, in this order. -/
def serviceError? (blueprint : Blueprint) (service : Service) : Option TopologyError :=
  (service.dependsOn.findSome? (blueprint.dependencyError? service)).or <|
    (service.volumes.findSome? fun mount =>
      if blueprint.volumes.contains mount.volume then none
      else some (.unknownVolume service.name mount.volume)).or <|
    (service.secrets.values.findSome? fun secret =>
      if blueprint.secrets.contains secret then none
      else some (.unknownSecret service.name secret)).or <|
    if service.role == .edgeProxy then
      match blueprint.edge.checkProbes service.name service.probes with
      | .error cause => some cause
      | .ok () => none
    else none

/-- The volumes of each set of data, by its name. -/
def datasets (blueprint : Blueprint) : Dictionary (List String) :=
  blueprint.volumes.values.foldl
    (fun grouped volume =>
      grouped.insert volume.dataset ((grouped.get? volume.dataset).getD [] ++ [volume.name]))
    .empty

/-- The first set of data that more than one volume holds. -/
def sharedDataset? (blueprint : Blueprint) : Option (String × List String) :=
  blueprint.datasets.entries.find? fun entry => 1 < entry.2.length

/-- The names of the services that no wave holds. -/
def unplaced (blueprint : Blueprint) : List String :=
  let placed := blueprint.sequence.map (·.name)
  (blueprint.services.map (·.name)).filter (!placed.contains ·)

/-- Whether the parts fit together, or the first reason why not. -/
def check (blueprint : Blueprint) : Except TopologyError Unit :=
  match duplicate? [] blueprint.services with
  | some name => .error (.duplicateService name)
  | none =>
    match blueprint.services.findSome? blueprint.serviceError? with
    | some cause => .error cause
    | none =>
      match blueprint.sharedDataset? with
      | some (dataset, volumes) => .error (.datasetBoundTwice dataset volumes)
      | none => do
        blueprint.edge.check
        match blueprint.unplaced with
        | [] => return
        | services => throw (.cycle services)

end Blueprint

/-- A blueprint whose parts fit together. -/
structure Topology extends Blueprint where
  fits : toBlueprint.check = .ok ()

/-- What a service waits for before it starts, for one dependency. -/
structure DependencyGate where
  dependency : String
  gate : Gate
  deriving DecidableEq

namespace Topology

/-- Checks a blueprint. -/
def ofBlueprint (blueprint : Blueprint) : Except TopologyError Topology :=
  match checked : blueprint.check with
  | .error cause => .error cause
  | .ok () => .ok ⟨blueprint, checked⟩

/-- The services that depend on a service, in the order of their declaration. -/
def dependents (topology : Topology) (name : String) : List Service :=
  topology.services.filter fun service => service.dependsOn.any (·.service == name)

/-- The names of the services that use a secret. -/
def secretUsers (topology : Topology) (secret : String) : List String :=
  (topology.services.filter fun service => service.secrets.values.contains secret).map (·.name)

/-- The gate of a dependency, if it has to be reachable and has an address. -/
def gate? (topology : Topology) (service : Service) (dependency : Dependency) :
    Option DependencyGate :=
  match dependency.condition with
  | .completed => none
  | .reachable => do
    let target ← topology.service? dependency.service
    let endpoint ← target.endpoint
    return ⟨dependency.service, .ofTarget endpoint service.readinessTimeout⟩

/-- The gates that a service has to pass, in the order of its dependencies. -/
def gates (topology : Topology) (service : Service) : List DependencyGate :=
  service.dependsOn.filterMap (topology.gate? service)

end Topology

end Convoy
