import Convoy.Topology
import Convoy.Tree
import Convoy.Yaml.Writer

/-!
# Compose documents

A topology as a document for a container runtime. Values of secrets are never written: a secret
becomes a reference to its variable, with its known default only for evaluation. Services wait for
their gates by a wrapper around their command.
-/

namespace Convoy.Compose

/-- What a dependency has to reach. -/
inductive Readiness where
  | healthy
  | started
  | completedSuccessfully
  deriving DecidableEq

namespace Readiness

def name : Readiness → String
  | healthy => "service_healthy"
  | started => "service_started"
  | completedSuccessfully => "service_completed_successfully"

end Readiness

/-- How the runtime finds out whether a container is healthy. -/
structure Healthcheck where
  /-- What a shell runs. -/
  command : String
  interval : Duration
  timeout : Duration
  retries : Nat
  startPeriod : Duration
  deriving DecidableEq

/-- Whether a container that has ended is started again. -/
inductive Restart where
  | never
  | unlessStopped
  deriving DecidableEq

namespace Restart

def name : Restart → String
  | never => "no"
  | unlessStopped => "unless-stopped"

end Restart

/-- One service of a document. -/
structure Container where
  image : String
  entrypoint : List String
  command : List String
  environment : Dictionary String
  dependsOn : Dictionary Readiness
  ports : List String
  volumes : List String
  healthcheck : Option Healthcheck
  restart : Restart
  replicas : Nat
  deriving DecidableEq

/-- A whole document; each volume has the set of data that it holds. -/
structure Document where
  name : String
  services : List (String × Container)
  volumes : Dictionary String
  deriving DecidableEq

/-! ## From a topology -/

/-- Writes every dollar sign twice, so that none begins a reference. -/
def escapeChars : List Char → List Char
  | [] => []
  | character :: rest =>
    if character == '$' then '$' :: '$' :: escapeChars rest else character :: escapeChars rest

def escape (text : String) : String := String.ofList (escapeChars text.toList)

/-- A reference to a variable that has a default. -/
def withDefault (variable_ fallback : String) : String :=
  "$\x7b" ++ variable_ ++ ":-" ++ escape fallback ++ "\x7d"

/-- A reference to a variable that has to be set. -/
def mandatory (variable_ : String) : String :=
  "$\x7b" ++ variable_ ++ ":?" ++ variable_ ++ " must be set\x7d"

/-- How a secret is referred to. -/
def reference (profile : Profile) (spec : SecretSpec) : String :=
  match profile, spec.insecureDefault with
  | .evaluation, some fallback => withDefault spec.env fallback
  | _, _ => mandatory spec.env

/-- The command line that waits for gates before the command of a service runs. -/
def entrypoint (gates : List DependencyGate) : List String :=
  if gates.isEmpty then []
  else
    let limit := gates.foldl (fun longest gate => max longest gate.gate.timeout) Duration.zero
    ["stackgate", "wait-for"] ++ gates.map (·.gate.target.target) ++
      ["--timeout", limit.human, "--"]

/-- The variables of a service. -/
def environment (topology : Topology) (profile : Profile) (service : Service) : Dictionary String :=
  let literals := service.environment.map fun _ value => escape value
  service.secrets.entries.foldl
    (fun assignments binding =>
      match topology.secrets.get? binding.2 with
      | some spec => assignments.insert binding.1 (reference profile spec)
      | none => assignments)
    literals

/-- The probe that decides whether a container is healthy: readiness decides about traffic and so
counts before liveness. -/
def healthProbe? (service : Service) : Option Probe :=
  service.probes.readiness.or service.probes.liveness

/-- What a dependency has to reach. -/
def readiness (topology : Topology) (dependency : Dependency) : Readiness :=
  match dependency.condition with
  | .completed => .completedSuccessfully
  | .reachable =>
    if (topology.service? dependency.service).any fun target => (healthProbe? target).isSome then
      .healthy
    else .started

/-- The shell command of a probe. -/
def checkCommand : ProbeHandler → String
  | .httpGet path port scheme =>
    "wget -q -O /dev/null" ++ (if scheme == .https then " --no-check-certificate" else "") ++ " " ++
      scheme.name ++ "://127.0.0.1:" ++ toString port.toNat ++ escape path ++ " || exit 1"
  | .tcpSocket port => "nc -z 127.0.0.1 " ++ toString port.toNat ++ " || exit 1"

/-- How long failures do not count: as long as a startup probe takes, or until the first probe. -/
def startPeriod (service : Service) (probe : Probe) : Duration :=
  match service.probes.startup with
  | some startup => startup.initialDelay + startup.period.scale startup.failureThreshold
  | none => probe.initialDelay

/-- What cannot be represented on the way to a start period, if anything cannot. -/
def startOverflow? (service : Service) : Option Overflow :=
  match service.probes.startup with
  | some startup =>
    if ¬ (startup.period.scale startup.failureThreshold).Fits then some .product
    else if ¬ (startup.initialDelay + startup.period.scale startup.failureThreshold).Fits then
      some .sum
    else none
  | none => none

def healthcheck? (service : Service) : Option Healthcheck :=
  (healthProbe? service).map fun probe =>
    { command := checkCommand probe.handler
      interval := probe.period
      timeout := probe.timeout
      retries := probe.failureThreshold
      startPeriod := startPeriod service probe }

/-- What cannot be represented in the healthcheck of a service, if it has one. -/
def overflow? (service : Service) : Option Overflow :=
  (healthProbe? service).bind fun _ => startOverflow? service

/-- A mount in the short form. -/
def mountText (mount : Mount) : String :=
  mount.volume ++ ":" ++ mount.path ++ if mount.readOnly then ":ro" else ""

def portText (port : UInt16) : String :=
  toString port.toNat ++ ":" ++ toString port.toNat

/-- The container of a service. The wrapper drops the command of an image, so a service that waits
for something has to declare one. A start period that cannot be represented is a crash. -/
def container (topology : Topology) (profile : Profile) (service : Service) :
    Except Failure Container :=
  let gates := topology.gates service
  if !gates.isEmpty && service.command.isEmpty then
    let names := ", ".intercalate (gates.map (·.dependency))
    .error (.ofText (s!"Service '{service.name}' waits for {names} " ++
      "but declares no command to run afterwards"))
  else
    match overflow? service with
    | some what => .error (.ofCause (.overflow what))
    | none =>
      .ok
        { image := service.image
          entrypoint := entrypoint gates
          command := service.command.map escape
          environment := environment topology profile service
          dependsOn := .ofList (service.dependsOn.map fun dependency =>
            (dependency.service, readiness topology dependency))
          ports :=
            if service.role == .edgeProxy then topology.edge.publishedPorts.map portText else []
          volumes := service.volumes.map mountText
          healthcheck := healthcheck? service
          restart := if service.role.isOneShot then .never else .unlessStopped
          replicas := service.replicas }

/-- The document of a topology. Every service comes after those it depends on. -/
def ofTopology (topology : Topology) (profile : Profile) : Except Failure Document := do
  let services ← topology.sequence.mapM fun service => do
    return (service.name, ← container topology profile service)
  return {
    name := topology.name
    services := services
    volumes := topology.volumes.map fun _ volume => volume.dataset }

/-! ## To a text -/

namespace Healthcheck

def toTree (check : Healthcheck) : Tree :=
  .record ([("test", .texts ["CMD-SHELL", check.command]),
    ("interval", .text check.interval.human), ("timeout", .text check.timeout.human),
    ("retries", .number check.retries)] ++
    if check.startPeriod == .zero then [] else [("start_period", .text check.startPeriod.human)])

end Healthcheck

/-- A field for a dictionary that is left out if the dictionary is empty. -/
def table {α : Type} (name : String) (values : Dictionary α) (encode : α → Tree) :
    List (String × Tree) :=
  if values.isEmpty then []
  else [(name, .record (values.entries.map fun entry => (entry.1, encode entry.2)))]

namespace Container

def toTree (container : Container) : Tree :=
  .record ([("image", .text container.image)] ++
    Tree.someTexts "entrypoint" container.entrypoint ++
    Tree.someTexts "command" container.command ++
    table "environment" container.environment .text ++
    table "depends_on" container.dependsOn
      (fun readiness => .record [("condition", .text readiness.name)]) ++
    Tree.someTexts "ports" container.ports ++
    Tree.someTexts "volumes" container.volumes ++
    Tree.optional "healthcheck" container.healthcheck (·.toTree) ++
    [("restart", .text container.restart.name)] ++
    if 1 < container.replicas then
      [("deploy", .record [("replicas", .number container.replicas)])]
    else [])

end Container

namespace Document

def toTree (document : Document) : Tree :=
  .record ([("name", .text document.name),
    ("services", .record (document.services.map fun service => (service.1, service.2.toTree)))] ++
    table "volumes" document.volumes (fun dataset =>
      .record [("labels", .record [("stackgate.dataset", .text dataset)])]))

/-- The text of a document. -/
def text (document : Document) : String := Yaml.Writer.document document.toTree

end Document

end Convoy.Compose
