import Convoy.Manifest
import Convoy.Naming
import Convoy.Topology

/-!
# From a manifest to a topology

The values of a manifest are checked one after another, so that the first that is wrong decides the
message. A manifest whose values are in order describes a blueprint.
-/

namespace Convoy

namespace ManifestProbe

/-- A check of one value under the name of its field. -/
def named (field : String) (outcome : Except ValueError Unit) : Except Failure Unit :=
  outcome.mapError fun error => .ofCause (.value field error)

/-- The handler of a probe must be one, and must make sense. -/
def checkHandler (probe : ManifestProbe) : Except ValueError Unit :=
  match probe.http, probe.tcp with
  | some _, some _ => .error .bothHandlers
  | none, none => .error .noHandler
  | some target, none =>
    if target.path.toList.head? != some '/' then .error (.relativePath target.path)
    else if target.port == 0 then .error .zeroPort
    else .ok ()
  | none, some port => if port == 0 then .error .zeroPort else .ok ()

/-- The values of a probe must be within their limits. -/
def check (field : String) (probe : ManifestProbe) : Except Failure Unit := do
  named field probe.checkHandler
  named (field ++ ".initial_delay_secs") (Naming.within 0 600 probe.initialDelaySecs)
  named (field ++ ".period_secs") (Naming.within 1 300 probe.periodSecs)
  named (field ++ ".timeout_secs") (Naming.within 1 60 probe.timeoutSecs)
  named (field ++ ".failure_threshold") (Naming.within 1 120 probe.failureThreshold)
  named (field ++ ".success_threshold") (Naming.within 1 120 probe.successThreshold)

end ManifestProbe

namespace ManifestService

open ManifestProbe (named)

def checkRole (service : ManifestService) : Except Failure Unit :=
  if (Role.read? service.role).isSome then .ok ()
  else .error (ConfigError.invalidValue (service.name ++ ".role") service.role)

def checkImage (service : ManifestService) : Except Failure Unit :=
  if Text.trim service.image == "" then
    .error (.ofCause (.value (service.name ++ ".image") .empty))
  else .ok ()

def checkEndpoint (service : ManifestService) : Except Failure Unit :=
  match service.endpoint with
  | some endpoint =>
    if endpoint.host == "" || endpoint.port == 0 then
      .error (ConfigError.invalidValue (service.name ++ ".endpoint") endpoint.plain)
    else .ok ()
  | none => .ok ()

/-- The values of a service must make sense by themselves. -/
def check (service : ManifestService) : Except Failure Unit := do
  named "services[].name" (Naming.serviceName service.name)
  service.checkRole
  service.checkImage
  service.checkEndpoint
  for name in service.environment.keys ++ service.secrets.keys do
    named (service.name ++ ".environment") (Naming.variableName name)
  named (service.name ++ ".replicas") (Naming.within 1 64 service.replicas)
  for seconds in service.readinessTimeoutSecs do
    named (service.name ++ ".readiness_timeout_secs") (Naming.within 1 3600 seconds)
  for kind in ProbeKind.all do
    for probe in service.probes.get kind do
      probe.check (service.name ++ ".probes." ++ kind.name)

/-- The service that is meant. A proxy without probes gets those that follow from its settings. -/
def toService (edge : EdgeSettings) (usualTimeout : Nat) (service : ManifestService) (role : Role) :
    Service where
  name := service.name
  role := role
  image := service.image
  command := service.command
  endpoint := service.endpoint
  environment := service.environment
  secrets := service.secrets
  dependsOn := service.dependsOn.map (·.toDependency)
  probes :=
    if role == .edgeProxy && service.probes == .replicate none then edge.probes
    else service.probes.map (·.map (·.toProbe))
  volumes := service.volumes
  replicas := service.replicas
  readinessTimeout := .ofSeconds (service.readinessTimeoutSecs.getD usualTimeout)

end ManifestService

namespace Manifest

open ManifestProbe (named)

/-- The values of a manifest must make sense by themselves. -/
def check (manifest : Manifest) : Except Failure Unit := do
  named "name" (Naming.serviceName manifest.name)
  named "readiness_timeout_secs" (Naming.within 1 3600 manifest.readinessTimeoutSecs)
  for entry in manifest.secrets.entries do
    named ("secrets." ++ entry.1 ++ ".env") (Naming.variableName entry.2.env)
  for service in manifest.services do
    service.check

/-- The variables that override a setting of the proxy, each with the setting it overrides. -/
def overrides : List (String × (EdgeSettings → Bool → EdgeSettings)) :=
  [("USE_TLS", fun settings value => { settings with tls := value }),
    ("GENERATE_TLS_CERTIFICATE",
      fun settings value => { settings with generateCertificate := value }),
    ("NGINX_METRICS_ENABLED", fun settings value => { settings with metrics := value })]

/-- Overrides settings of the proxy by the variables that are set. -/
def applyFlags (environment : Environment) (settings : EdgeSettings) :
    Except Failure EdgeSettings :=
  overrides.foldlM
    (fun current override =>
      match environment override.1 with
      | none => .ok current
      | some text =>
        match Naming.flag text with
        | .ok value => .ok (override.2 current value)
        | .error error => .error (.ofCause (.value override.1 error)))
    settings

/-- The manifest with its proxy settings overridden. -/
def withFlags (manifest : Manifest) (environment : Environment) : Except Failure Manifest := do
  return { manifest with edge := ← applyFlags environment manifest.edge }

/-- The services that are meant. -/
def toServices (manifest : Manifest) : Except Failure (List Service) :=
  manifest.services.mapM fun service =>
    match Role.read? service.role with
    | some role => .ok (service.toService manifest.edge manifest.readinessTimeoutSecs role)
    | none => .error (ConfigError.invalidValue (service.name ++ ".role") service.role)

/-- The topology that a manifest describes, if its values make sense and its parts fit together. -/
def toTopology (manifest : Manifest) : Except Failure Topology := do
  manifest.check
  let blueprint : Blueprint :=
    { name := manifest.name
      services := ← manifest.toServices
      volumes := manifest.volumes.map fun name dataset => ⟨name, dataset⟩
      secrets := manifest.secrets.map fun name secret => ⟨name, secret.env, secret.insecureDefault⟩
      edge := manifest.edge }
  (Topology.ofBlueprint blueprint).mapError fun error => .ofCause (.topology error)

end Manifest

end Convoy
