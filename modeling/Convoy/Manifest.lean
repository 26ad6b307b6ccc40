import Convoy.Edge
import Convoy.Service

/-!
# Manifests

A manifest is a stack as its file describes it, field by field, before any of the values has been
checked. Whatever the file leaves out has its usual value.
-/

namespace Convoy

/-- What an HTTP probe asks for. -/
structure HttpTarget where
  path : String
  port : UInt16
  scheme : Scheme
  deriving DecidableEq

/-- A probe as it is written: it should have exactly one of the two handlers. -/
structure ManifestProbe where
  http : Option HttpTarget
  tcp : Option UInt16
  initialDelaySecs : Nat
  periodSecs : Nat
  timeoutSecs : Nat
  failureThreshold : Nat
  successThreshold : Nat
  deriving DecidableEq

namespace ManifestProbe

/-- A probe that leaves everything out. -/
def standard : ManifestProbe where
  http := none
  tcp := none
  initialDelaySecs := 0
  periodSecs := 10
  timeoutSecs := 1
  failureThreshold := 3
  successThreshold := 1

/-- The probe that is meant. An HTTP handler counts before a TCP handler. -/
def toProbe (probe : ManifestProbe) : Probe where
  handler :=
    match probe.http with
    | some target => .httpGet target.path target.port target.scheme
    | none => .tcpSocket (probe.tcp.getD 0)
  initialDelay := .ofSeconds probe.initialDelaySecs
  period := .ofSeconds probe.periodSecs
  timeout := .ofSeconds probe.timeoutSecs
  failureThreshold := probe.failureThreshold
  successThreshold := probe.successThreshold

end ManifestProbe

/-- A dependency as it is written: a name alone, or a name and a condition. -/
inductive ManifestDependency where
  | name (service : String)
  | detailed (service : String) (condition : Condition)
  deriving DecidableEq

namespace ManifestDependency

/-- The dependency that is meant; a name alone asks for a service that can be reached. -/
def toDependency : ManifestDependency → Dependency
  | name service => ⟨service, .reachable⟩
  | detailed service condition => ⟨service, condition⟩

end ManifestDependency

/-- A service as it is written. -/
structure ManifestService where
  name : String
  role : String
  image : String
  command : List String
  endpoint : Option Address
  environment : Dictionary String
  secrets : Dictionary String
  dependsOn : List ManifestDependency
  probes : PerKind (Option ManifestProbe)
  volumes : List Mount
  replicas : Nat
  readinessTimeoutSecs : Option Nat
  deriving DecidableEq

namespace ManifestService

/-- A service that leaves out what can be left out. -/
def ofRole (name role image : String) : ManifestService where
  name := name
  role := role
  image := image
  command := []
  endpoint := none
  environment := .empty
  secrets := .empty
  dependsOn := []
  probes := .replicate none
  volumes := []
  replicas := 1
  readinessTimeoutSecs := none

end ManifestService

/-- A secret as it is written, under its name. -/
structure ManifestSecret where
  env : String
  insecureDefault : Option String
  deriving DecidableEq

/-- A stack as it is written. -/
structure Manifest where
  name : String
  readinessTimeoutSecs : Nat
  secrets : Dictionary ManifestSecret
  /-- For each volume the set of data that it holds. -/
  volumes : Dictionary String
  edge : EdgeSettings
  services : List ManifestService
  deriving DecidableEq

end Convoy
