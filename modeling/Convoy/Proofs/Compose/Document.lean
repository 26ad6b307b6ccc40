import Convoy.Compose
import Convoy.Proofs.Acceptance
import Convoy.Proofs.Outcome

/-!
# The containers of a document

A topology that has a document has a container in it for each of its services, by the service's name
and made from this service alone.
-/

namespace Convoy.Compose

open Outcome

variable {topology : Topology} {profile : Profile} {document : Document} {service : Service}

/-! ## Start periods -/

/-- A service whose start period can be represented, if a container shows it. -/
def Timely (service : Service) : Prop :=
  ∀ probe startup, healthProbe? service = some probe → service.probes.startup = some startup →
    (startPeriod service probe).Fits

/-- The product of a start period is no longer than the whole of it. -/
theorem startOverflow?_eq_none_iff {startup : Probe}
    (asked : service.probes.startup = some startup) :
    startOverflow? service = none ↔
      (startup.initialDelay + startup.period.scale startup.failureThreshold).Fits := by
  have product (whole : (startup.initialDelay +
      startup.period.scale startup.failureThreshold).Fits) :
      (startup.period.scale startup.failureThreshold).Fits :=
    Nat.lt_of_le_of_lt (Nat.le_add_left _ _) whole
  simp only [startOverflow?, asked]
  split_ifs with short whole
  · exact iff_of_true rfl whole
  · exact iff_of_false nofun whole
  · exact iff_of_false nofun fun whole => short (product whole)

theorem overflow?_eq_none_iff : overflow? service = none ↔ Timely service := by
  unfold overflow? Timely
  cases healthProbe? service with
  | none => simp
  | some probe =>
    cases asked : service.probes.startup with
    | none => simp [startOverflow?, asked]
    | some startup => simp [startOverflow?_eq_none_iff asked, startPeriod, asked]

instance (service : Service) : Decidable (Timely service) :=
  decidable_of_iff _ overflow?_eq_none_iff

/-! ## Containers -/

/-- A service has a container unless it waits for something and has no command to run afterwards, or
its start period cannot be represented. -/
theorem exists_container_iff :
    (∃ made, container topology profile service = .ok made) ↔
      (topology.gates service ≠ [] → service.command ≠ []) ∧ Timely service := by
  rw [← overflow?_eq_none_iff]
  simp only [container]
  by_cases idle : (!(topology.gates service).isEmpty && service.command.isEmpty) = true
  · rw [if_pos idle]
    simp_all
  · rw [if_neg idle]
    cases overflow? service <;> simp_all

/-- The topologies that have a document. -/
theorem exists_ofTopology_iff :
    (∃ document, ofTopology topology profile = .ok document) ↔
      ∀ service ∈ topology.services,
        (topology.gates service ≠ [] → service.command ≠ []) ∧ Timely service := by
  have steps : (∃ document, ofTopology topology profile = .ok document) ↔
      ∀ service ∈ topology.sequence, ∃ made, container topology profile service = .ok made := by
    unfold ofTopology
    simp only [exists_bind_eq_ok_iff, pure_eq_ok_iff, exists_eq', and_true, exists_mapM_eq_ok_iff]
  simp only [steps, topology.sequence_perm.mem_iff, exists_container_iff]

/-- The containers come in the sequence of the services. -/
theorem names_of_ofTopology (rendered : ofTopology topology profile = .ok document) :
    document.services.map (·.1) = topology.sequence.map (·.name) := by
  obtain ⟨services, each, same⟩ := bind_eq_ok_iff.1 rendered
  obtain rfl := pure_eq_ok_iff.1 same
  refine map_eq_of_mapM_eq_ok each fun other _ pair given => ?_
  obtain ⟨made, -, same⟩ := bind_eq_ok_iff.1 given
  cases same
  rfl

theorem nodup_of_ofTopology (rendered : ofTopology topology profile = .ok document) :
    (document.services.map (·.1)).Nodup := by
  rw [names_of_ofTopology rendered]
  exact (topology.sequence_perm.map _).nodup_iff.2 topology.names_nodup

/-- The containers are those of the services. -/
theorem mem_services_iff
    (rendered : ofTopology topology profile = .ok document) {name : String} {made : Container} :
    (name, made) ∈ document.services ↔
      ∃ service ∈ topology.services, service.name = name ∧
        container topology profile service = .ok made := by
  obtain ⟨services, each, same⟩ := bind_eq_ok_iff.1 rendered
  obtain rfl := pure_eq_ok_iff.1 same
  rw [mem_iff_of_mapM_eq_ok each]
  simp only [bind_eq_ok_iff, pure_eq_ok_iff, topology.sequence_perm.mem_iff, Prod.mk.injEq]
  constructor
  · rintro ⟨service, declared, _, given, rfl, rfl⟩
    exact ⟨service, declared, rfl, given⟩
  · rintro ⟨service, declared, rfl, given⟩
    exact ⟨service, declared, made, given, rfl, rfl⟩

/-- Each service is rendered, and found by its name. -/
theorem exists_container
    (rendered : ofTopology topology profile = .ok document)
    (declared : service ∈ topology.services) :
    ∃ made, container topology profile service = .ok made ∧
      document.services.lookup service.name = some made := by
  obtain ⟨made, given⟩ :=
    exists_container_iff.2 (exists_ofTopology_iff.1 ⟨_, rendered⟩ service declared)
  have member := (mem_services_iff rendered).2 ⟨service, declared, rfl, given⟩
  exact ⟨made, given, (Dictionary.lookup_eq_some_iff_mem (nodup_of_ofTopology rendered)).2 member⟩

theorem volumes_of_ofTopology (rendered : ofTopology topology profile = .ok document) :
    document.volumes = topology.volumes.map fun _ volume => volume.dataset := by
  obtain ⟨services, -, same⟩ := bind_eq_ok_iff.1 rendered
  obtain rfl := pure_eq_ok_iff.1 same
  rfl

/-- The container of a service, if there is one. -/
theorem eq_of_container
    {made : Container} (given : container topology profile service = .ok made) :
    made =
      { image := service.image
        entrypoint := entrypoint (topology.gates service)
        command := service.command.map escape
        environment := environment topology profile service
        dependsOn := .ofList (service.dependsOn.map fun dependency =>
          (dependency.service, readiness topology dependency))
        ports :=
          if service.role == .edgeProxy then topology.edge.publishedPorts.map portText else []
        volumes := service.volumes.map mountText
        healthcheck := healthcheck? service
        restart := if service.role.isOneShot then .never else .unlessStopped
        replicas := service.replicas } := by
  simp only [container] at given
  split at given
  · cases given
  · split at given
    · cases given
    · exact (Except.ok.inj given).symm

/-- A container has the variables, and the entrypoint, of its service. -/
theorem fields_of_container
    {made : Container} (given : container topology profile service = .ok made) :
    made.environment = environment topology profile service ∧
      made.entrypoint = entrypoint (topology.gates service) := by
  obtain rfl := eq_of_container given
  exact ⟨rfl, rfl⟩

/-- What a container takes over from its service, its variables and its entrypoint apart. -/
structure Shows (topology : Topology) (service : Service) (made : Container) : Prop where
  command : made.command = service.command.map escape
  dependsOn : made.dependsOn = .ofList (service.dependsOn.map fun dependency =>
    (dependency.service, readiness topology dependency))
  volumes : made.volumes = service.volumes.map mountText
  healthcheck : made.healthcheck = healthcheck? service
  restart : made.restart = if service.role.isOneShot then .never else .unlessStopped

theorem shows_of_container
    {made : Container} (given : container topology profile service = .ok made) :
    Shows topology service made := by
  obtain rfl := eq_of_container given
  exact ⟨rfl, rfl, rfl, rfl, rfl⟩

/-! ## Variables of a container -/

/-- What the binding of a variable to a secret becomes in a container. -/
def binding? (topology : Topology) (profile : Profile) (binding : String × String) :
    Option (String × String) :=
  (topology.secrets.get? binding.2).map fun spec => (binding.1, reference profile spec)

/-- The variables of a container are the literal ones, overridden by the bindings. -/
theorem environment_eq_foldl (topology : Topology) (profile : Profile) (service : Service) :
    environment topology profile service =
      (service.secrets.entries.filterMap (binding? topology profile)).foldl
        (fun assignments pair => assignments.insert pair.1 pair.2)
        (service.environment.map fun _ value => escape value) := by
  rw [List.foldl_filterMap]
  refine congrArg (List.foldl · _ _) (funext₂ fun assignments binding => ?_)
  cases found : topology.secrets.get? binding.2 <;> simp [binding?, found]

theorem nodup_bindings (topology : Topology) (profile : Profile) (secrets : Dictionary String) :
    ((secrets.entries.filterMap (binding? topology profile)).map (·.1)).Nodup := by
  rw [List.nodup_iff_pairwise_ne, List.pairwise_map, List.pairwise_filterMap]
  refine secrets.ordered.imp fun before first firstBound second secondBound => ?_
  obtain ⟨_, -, rfl⟩ := Option.map_eq_some_iff.1 firstBound
  obtain ⟨_, -, rfl⟩ := Option.map_eq_some_iff.1 secondBound
  exact String.ne_of_lt before

/-- A variable has the reference to the secret that it is bound to, or else its literal value. -/
theorem get?_environment (topology : Topology) (profile : Profile) (service : Service)
    (variable_ : String) :
    (environment topology profile service).get? variable_ =
      ((service.secrets.get? variable_).bind fun secret =>
        (topology.secrets.get? secret).map (reference profile)).or
          ((service.environment.get? variable_).map escape) := by
  have distinct := nodup_bindings topology profile service.secrets
  rw [← List.nodup_reverse, ← List.map_reverse] at distinct
  rw [environment_eq_foldl, Dictionary.get?_foldl_insert, Dictionary.get?_map]
  refine congrArg (Option.or · _) (Option.ext fun text => ?_)
  rw [Dictionary.lookup_eq_some_iff_mem distinct, List.mem_reverse, List.mem_filterMap,
    Option.bind_eq_some_iff]
  simp only [Option.map_eq_some_iff, binding?, Prod.exists, Prod.mk.injEq,
    ← Dictionary.get?_eq_some_iff]
  constructor
  · rintro ⟨_, secret, bound, spec, declared, rfl, rfl⟩
    exact ⟨secret, bound, spec, declared, rfl⟩
  · rintro ⟨secret, bound, spec, declared, rfl⟩
    exact ⟨variable_, secret, bound, spec, declared, rfl, rfl⟩

/-- A variable that is bound to a secret refers to it, whether or not there is a literal value. -/
theorem get?_environment_of_secret
    {variable_ secret : String} {spec : SecretSpec}
    (bound : service.secrets.get? variable_ = some secret)
    (declared : topology.secrets.get? secret = some spec) :
    (environment topology profile service).get? variable_ = some (reference profile spec) := by
  rw [get?_environment, bound, Option.bind_some, declared, Option.map_some, Option.some_or]

end Convoy.Compose
