import Convoy.Manifest.Check
import Convoy.Proofs.Acceptance
import Convoy.Proofs.Outcome

/-!
# What a manifest promises

The values of a manifest that describes a topology have passed the checks on single values. Each
check is inverted here, and the services of the topology are traced back to the ones that were
written down.
-/

namespace Convoy

open Outcome

namespace ManifestProbe

/-- The values of a probe make sense by themselves. -/
structure Checked (probe : ManifestProbe) : Prop where
  handler :
    (∃ target, probe.http = some target ∧ probe.tcp = none ∧
        target.path.toList.head? = some '/' ∧ target.port ≠ 0) ∨
      ∃ port, probe.http = none ∧ probe.tcp = some port ∧ port ≠ 0
  initialDelay : probe.initialDelaySecs ≤ 600
  period : 1 ≤ probe.periodSecs ∧ probe.periodSecs ≤ 300
  timeout : 1 ≤ probe.timeoutSecs ∧ probe.timeoutSecs ≤ 60
  failureThreshold : 1 ≤ probe.failureThreshold ∧ probe.failureThreshold ≤ 120
  successThreshold : 1 ≤ probe.successThreshold ∧ probe.successThreshold ≤ 120

theorem named_eq_ok_iff {field : String} {outcome : Except ValueError Unit} :
    named field outcome = .ok () ↔ outcome = .ok () :=
  mapError_eq_ok_iff

theorem within_eq_ok_iff {least greatest value : Nat} :
    Naming.within least greatest value = .ok () ↔ least ≤ value ∧ value ≤ greatest := by
  simp only [Naming.within, Bool.or_eq_true, decide_eq_true_eq]
  split
  · simp only [reduceCtorEq, false_iff]
    omega
  · simp only [true_iff]
    omega

theorem checkHandler_eq_ok_iff {probe : ManifestProbe} :
    probe.checkHandler = .ok () ↔
      (∃ target, probe.http = some target ∧ probe.tcp = none ∧
          target.path.toList.head? = some '/' ∧ target.port ≠ 0) ∨
        ∃ port, probe.http = none ∧ probe.tcp = some port ∧ port ≠ 0 := by
  unfold checkHandler
  cases probe.http with
  | none => cases probe.tcp <;> simp
  | some target =>
    cases probe.tcp with
    | some port => simp
    | none =>
      by_cases path : target.path.toList.head? = some '/'
      · simp [path]
      · simp [path]

theorem check_eq_ok_iff {field : String} {probe : ManifestProbe} :
    probe.check field = .ok () ↔ probe.Checked := by
  unfold check
  simp only [check_bind_eq_ok_iff, named_eq_ok_iff, checkHandler_eq_ok_iff, within_eq_ok_iff]
  constructor
  · rintro ⟨handler, ⟨-, initialDelay⟩, period, timeout, failureThreshold, successThreshold⟩
    exact ⟨handler, initialDelay, period, timeout, failureThreshold, successThreshold⟩
  · rintro ⟨handler, initialDelay, period, timeout, failureThreshold, successThreshold⟩
    exact ⟨handler, ⟨Nat.zero_le _, initialDelay⟩, period, timeout, failureThreshold,
      successThreshold⟩

end ManifestProbe

namespace ManifestService

/-- The values of a service make sense by themselves. -/
structure Checked (service : ManifestService) : Prop where
  name : Naming.serviceName service.name = .ok ()
  role : ∃ role, Role.read? service.role = some role
  image : Text.trim service.image ≠ ""
  endpoint : ∀ endpoint, service.endpoint = some endpoint →
    endpoint.host ≠ "" ∧ endpoint.port ≠ 0
  names : ∀ variable_ ∈ service.environment.keys ++ service.secrets.keys,
    Naming.variableName variable_ = .ok ()
  replicas : 1 ≤ service.replicas ∧ service.replicas ≤ 64
  readinessTimeout : ∀ seconds, service.readinessTimeoutSecs = some seconds →
    1 ≤ seconds ∧ seconds ≤ 3600
  probes : ∀ kind ∈ ProbeKind.all, ∀ probe, service.probes.get kind = some probe → probe.Checked

theorem checkRole_eq_ok_iff {service : ManifestService} :
    service.checkRole = .ok () ↔ ∃ role, Role.read? service.role = some role := by
  unfold checkRole
  cases Role.read? service.role <;> simp

theorem checkImage_eq_ok_iff {service : ManifestService} :
    service.checkImage = .ok () ↔ Text.trim service.image ≠ "" := by
  unfold checkImage
  split <;> simp_all

theorem checkEndpoint_eq_ok_iff {service : ManifestService} :
    service.checkEndpoint = .ok () ↔ ∀ endpoint, service.endpoint = some endpoint →
      endpoint.host ≠ "" ∧ endpoint.port ≠ 0 := by
  unfold checkEndpoint
  cases service.endpoint with
  | none => simp
  | some endpoint => by_cases host : endpoint.host = "" <;> simp [host]

theorem check_eq_ok_iff {service : ManifestService} :
    service.check = .ok () ↔ service.Checked := by
  unfold check
  simp only [check_bind_eq_ok_iff, forIn_list_eq_ok_iff, forIn_option_eq_ok_iff,
    ManifestProbe.named_eq_ok_iff, ManifestProbe.within_eq_ok_iff,
    ManifestProbe.check_eq_ok_iff, checkRole_eq_ok_iff, checkImage_eq_ok_iff,
    checkEndpoint_eq_ok_iff]
  constructor
  · rintro ⟨name, role, image, endpoint, names, replicas, readinessTimeout, probes, -⟩
    exact ⟨name, role, image, endpoint, names, replicas, readinessTimeout, probes⟩
  · rintro ⟨name, role, image, endpoint, names, replicas, readinessTimeout, probes⟩
    exact ⟨name, role, image, endpoint, names, replicas, readinessTimeout, probes, rfl⟩

end ManifestService

namespace Manifest

/-- The values of a manifest make sense by themselves. -/
structure Checked (manifest : Manifest) : Prop where
  name : Naming.serviceName manifest.name = .ok ()
  readinessTimeout : 1 ≤ manifest.readinessTimeoutSecs ∧ manifest.readinessTimeoutSecs ≤ 3600
  secrets : ∀ name secret, manifest.secrets.get? name = some secret →
    Naming.variableName secret.env = .ok ()
  services : ∀ service ∈ manifest.services, service.Checked

variable {manifest : Manifest}

theorem check_eq_ok_iff : manifest.check = .ok () ↔ manifest.Checked := by
  unfold check
  simp only [check_bind_eq_ok_iff, forIn_list_eq_ok_iff, ManifestProbe.named_eq_ok_iff,
    ManifestProbe.within_eq_ok_iff, ManifestService.check_eq_ok_iff]
  constructor
  · rintro ⟨name, readinessTimeout, secrets, services, -⟩
    exact ⟨name, readinessTimeout, fun name secret declared =>
      secrets (name, secret) (Dictionary.get?_eq_some_iff.1 declared), services⟩
  · rintro ⟨name, readinessTimeout, secrets, services⟩
    exact ⟨name, readinessTimeout, fun ⟨name, secret⟩ declared =>
      secrets name secret (Dictionary.get?_eq_some_iff.2 declared), services, rfl⟩

variable {topology : Topology}

theorem checked_of_toTopology (described : manifest.toTopology = .ok topology) :
    manifest.Checked :=
  check_eq_ok_iff.1 (check_bind_eq_ok_iff.1 described).1

/-- The blueprint that a manifest describes. -/
theorem toBlueprint_of_toTopology (described : manifest.toTopology = .ok topology) :
    ∃ services, manifest.toServices = .ok services ∧
      topology.toBlueprint =
        { name := manifest.name
          services := services
          volumes := manifest.volumes.map fun name dataset => ⟨name, dataset⟩
          secrets :=
            manifest.secrets.map fun name secret => ⟨name, secret.env, secret.insecureDefault⟩
          edge := manifest.edge } := by
  obtain ⟨services, meant, built⟩ := bind_eq_ok_iff.1 (check_bind_eq_ok_iff.1 described).2
  exact ⟨services, meant, Topology.toBlueprint_of_ofBlueprint (mapError_eq_ok_iff.1 built)⟩

/-- The services that are meant are those of the written ones. -/
theorem mem_of_toServices {services : List Service} (meant : manifest.toServices = .ok services)
    {service : Service} :
    service ∈ services ↔
      ∃ written ∈ manifest.services, ∃ role, Role.read? written.role = some role ∧
        written.toService manifest.edge manifest.readinessTimeoutSecs role = service := by
  rw [mem_iff_of_mapM_eq_ok meant]
  refine exists_congr fun written => and_congr_right fun _ => ?_
  cases Role.read? written.role <;> simp

/-- The services of a topology are those that are meant by the written ones. -/
theorem mem_services_of_toTopology (described : manifest.toTopology = .ok topology)
    {service : Service} :
    service ∈ topology.services ↔
      ∃ written ∈ manifest.services, ∃ role, Role.read? written.role = some role ∧
        written.toService manifest.edge manifest.readinessTimeoutSecs role = service := by
  obtain ⟨services, meant, built⟩ := toBlueprint_of_toTopology described
  rw [built, mem_of_toServices meant]

/-- An endpoint that comes from a manifest has a host and a port. -/
theorem endpoint_of_toTopology (described : manifest.toTopology = .ok topology)
    {service : Service} (declared : service ∈ topology.services)
    {endpoint : Address} (listens : service.endpoint = some endpoint) :
    endpoint.host ≠ "" ∧ endpoint.port ≠ 0 := by
  obtain ⟨written, member, role, -, rfl⟩ := (mem_services_of_toTopology described).1 declared
  exact ((checked_of_toTopology described).services written member).endpoint endpoint listens

/-- A time limit that comes from a manifest is between a second and an hour. -/
theorem readinessTimeout_of_toTopology (described : manifest.toTopology = .ok topology)
    {service : Service} (declared : service ∈ topology.services) :
    ∃ seconds, 1 ≤ seconds ∧ seconds ≤ 3600 ∧ service.readinessTimeout = .ofSeconds seconds := by
  obtain ⟨written, member, role, -, rfl⟩ := (mem_services_of_toTopology described).1 declared
  have checked := checked_of_toTopology described
  cases given : written.readinessTimeoutSecs with
  | none =>
    exact ⟨_, checked.readinessTimeout.1, checked.readinessTimeout.2, by
      simp [ManifestService.toService, given]⟩
  | some seconds =>
    have bounds := (checked.services written member).readinessTimeout seconds given
    exact ⟨seconds, bounds.1, bounds.2, by simp [ManifestService.toService, given]⟩

end Manifest

end Convoy
