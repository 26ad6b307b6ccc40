import Convoy.Topology

/-!
# What services are launched with

The environment of a service holds its literal variables and the values of the secrets it refers to.
-/

namespace Convoy

namespace Service

/-- The variables of a service; a secret wins over a literal value of the same name. -/
def environmentWith (service : Service) (secrets : ResolvedSecrets) :
    Except SecretError (Dictionary String) := do
  let bound ← secrets.bind service.secrets
  return service.environment.union bound

end Service

namespace Topology

/-- The variables of every service, by its name. -/
def environments (topology : Topology) (secrets : ResolvedSecrets) :
    Except Failure (Dictionary (Dictionary String)) := do
  let pairs ← topology.services.mapM fun service =>
    match service.environmentWith secrets with
    | .ok assignments => .ok (service.name, assignments)
    | .error error =>
      .error ((error : Failure).within s!"Failed to bind secrets for {service.name}")
  return .ofList pairs

/-- The values of the secrets of a topology for a profile. -/
def resolveSecrets (topology : Topology) (profile : Profile) (environment : Environment) :
    Except Failure ResolvedSecrets :=
  (topology.secrets.resolve profile environment).mapError fun error =>
    (Failure.ofCause (.secret error)).within
      s!"Secrets do not resolve for the {profile.name} profile"

end Topology

/-- What a check tells about one secret; its value is not shown. -/
structure SecretReport where
  name : String
  env : String
  source : SecretSource
  fingerprint : String
  /-- The services that use the secret. -/
  services : List String
  deriving DecidableEq

namespace Topology

/-- The reports on all resolved secrets, by name. -/
def secretReports (topology : Topology) (secrets : ResolvedSecrets) : List SecretReport :=
  topology.secrets.values.filterMap fun spec =>
    (secrets.get? spec.name).map fun secret =>
      { name := spec.name
        env := spec.env
        source := secret.source
        fingerprint := secret.fingerprint
        services := topology.secretUsers spec.name }

end Topology

end Convoy
