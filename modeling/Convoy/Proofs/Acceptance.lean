import Convoy.Proofs.Dictionary
import Convoy.Proofs.Waves
import Mathlib.Data.List.Count

/-!
# Which blueprints are accepted

What it means that services, volumes, secrets and proxy settings fit together, said without the
checks, and that the checks accept exactly this. Each check is inverted on its own; a check that
comes late finds what those before it have made sure of.
-/

namespace Convoy

/-! ## The rules -/

/-- Of the volumes with its name, this one is the last in a list. -/
def Volume.Counts (volumes : List Volume) (volume : Volume) : Prop :=
  ∃ before after, volumes = before ++ volume :: after ∧ ∀ later ∈ after, later.name ≠ volume.name

/-- Every HTTP probe of a set asks under a scheme and at a port. -/
def ProbeSet.AskAt (probes : ProbeSet) (address : Scheme × UInt16) : Prop :=
  ∀ kind probe, probes.get kind = some probe →
    ∀ path port scheme, probe.handler = .httpGet path port scheme → (scheme, port) = address

/-- Settings of a proxy that do not contradict themselves. -/
structure EdgeSettings.Sound (settings : EdgeSettings) : Prop where
  certificate : settings.generateCertificate = true → settings.tls = true
  http : settings.httpPort ≠ 0
  https : settings.httpsPort ≠ 0
  metrics : settings.metricsPort ≠ 0
  distinct : settings.publishedPorts.Nodup
  upstream : settings.upstream.port ≠ 0

/-- The parts of a stack fit together. -/
structure WellFormed (services : List Service) (volumes : List Volume) (secrets : List SecretSpec)
    (edge : EdgeSettings) : Prop where
  distinct : (services.map (·.name)).Nodup
  outward : ∀ service ∈ services, ∀ dependency ∈ service.dependsOn,
    dependency.service ≠ service.name
  declared : ∀ service ∈ services, ∀ dependency ∈ service.dependsOn,
    ∃ target ∈ services, target.name = dependency.service
  reachable : ∀ service ∈ services, ∀ dependency ∈ service.dependsOn,
    dependency.condition = .reachable → ∀ target ∈ services, target.name = dependency.service →
      ∃ endpoint, target.endpoint = some endpoint
  completed : ∀ service ∈ services, ∀ dependency ∈ service.dependsOn,
    dependency.condition = .completed → ∀ target ∈ services, target.name = dependency.service →
      target.role.isOneShot = true
  mounted : ∀ service ∈ services, ∀ mount ∈ service.volumes,
    ∃ volume ∈ volumes, volume.name = mount.volume
  referenced : ∀ service ∈ services, ∀ reference secret,
    service.secrets.get? reference = some secret → ∃ spec ∈ secrets, spec.name = secret
  datasets : ∀ first second, Volume.Counts volumes first → Volume.Counts volumes second →
    first.dataset = second.dataset → first = second
  probes : ∀ service ∈ services, service.role = .edgeProxy →
    service.probes.AskAt edge.advertised
  edge : edge.Sound
  acyclic : ∀ name, ¬ Relation.TransGen (Service.Lists services) name name

/-! ## Dictionaries from lists -/

namespace Dictionary

variable {α : Type}

theorem get?_ofList_concat (pairs : List (String × α)) (last : String × α) (key : String) :
    (ofList (pairs ++ [last])).get? key =
      if key = last.1 then some last.2 else (ofList pairs).get? key := by
  rw [get?_ofList, get?_ofList, List.reverse_append, List.reverse_singleton,
    List.singleton_append, lookup_cons_ite]

/-- A dictionary from pairs has their keys. -/
theorem contains_ofList (pairs : List (String × α)) (key : String) :
    (ofList pairs).contains key = true ↔ key ∈ pairs.map (·.1) := by
  induction pairs using List.reverseRecOn with
  | nil => simp [contains, ofList]
  | append_singleton pairs last induction =>
    rw [contains, get?_ofList_concat]
    by_cases same : key = last.1
    · simp [same]
    · rw [if_neg same, ← contains, induction]
      simp [same]

theorem mem_values_iff {dictionary : Dictionary α} {value : α} :
    value ∈ dictionary.values ↔ ∃ key, dictionary.get? key = some value := by
  simp only [values, List.mem_map, get?_eq_some_iff, Prod.exists, exists_eq_right]

end Dictionary

theorem Volume.counts_concat_iff {volumes : List Volume} {last volume : Volume} :
    Volume.Counts (volumes ++ [last]) volume ↔
      volume = last ∨ (Volume.Counts volumes volume ∧ volume.name ≠ last.name) := by
  constructor
  · rintro ⟨before, after, split, latest⟩
    rcases List.eq_nil_or_concat after with rfl | ⟨front, final, rfl⟩
    · left
      exact (List.singleton_inj.1 (List.append_inj' split rfl).2).symm
    · rw [List.concat_eq_append] at split latest
      rw [← List.cons_append, ← List.append_assoc] at split
      rcases List.append_inj' split rfl with ⟨rfl, equal⟩
      cases equal
      right
      refine ⟨⟨before, front, rfl, fun later member => ?_⟩, ?_⟩
      · exact latest later (List.mem_append_left _ member)
      · exact (latest last (by simp)).symm
  · rintro (rfl | ⟨⟨before, after, rfl, latest⟩, different⟩)
    · exact ⟨volumes, [], rfl, by simp⟩
    · refine ⟨before, after ++ [last], by simp, fun later member => ?_⟩
      rcases List.mem_append.1 member with old | new
      · exact latest later old
      · rw [List.mem_singleton.1 new]
        exact different.symm

/-- A dictionary of volumes by name has the volumes that count. -/
theorem Volume.get?_ofList_iff {volumes : List Volume} {name : String} {volume : Volume} :
    (Dictionary.ofList (volumes.map fun volume => (volume.name, volume))).get? name =
        some volume ↔
      Volume.Counts volumes volume ∧ volume.name = name := by
  induction volumes using List.reverseRecOn with
  | nil => simp [Counts, Dictionary.ofList]
  | append_singleton volumes last induction =>
    rw [List.map_append, List.map_singleton, Dictionary.get?_ofList_concat, counts_concat_iff]
    by_cases same : name = last.name
    · subst same
      rw [if_pos rfl, Option.some.injEq]
      constructor
      · rintro rfl
        exact ⟨Or.inl rfl, rfl⟩
      · rintro ⟨rfl | ⟨-, different⟩, named⟩
        · rfl
        · exact absurd named different
    · rw [if_neg same, induction]
      constructor
      · rintro ⟨counts, rfl⟩
        exact ⟨Or.inr ⟨counts, same⟩, rfl⟩
      · rintro ⟨rfl | ⟨counts, -⟩, rfl⟩
        · exact absurd rfl same
        · exact ⟨counts, rfl⟩

theorem Volume.mem_values_ofList_iff {volumes : List Volume} {volume : Volume} :
    volume ∈ (Dictionary.ofList (volumes.map fun volume => (volume.name, volume))).values ↔
      Volume.Counts volumes volume := by
  simp [Dictionary.mem_values_iff, get?_ofList_iff]

/-- Volumes that count have different names. -/
theorem Volume.nodup_values_ofList (volumes : List Volume) :
    (Dictionary.ofList (volumes.map fun volume => (volume.name, volume))).values.Nodup := by
  have names : (Dictionary.ofList (volumes.map fun volume => (volume.name, volume))).values.map
      (·.name) =
        (Dictionary.ofList (volumes.map fun volume => (volume.name, volume))).keys := by
    rw [Dictionary.values, Dictionary.keys, List.map_map]
    apply List.map_congr_left
    rintro ⟨name, volume⟩ member
    exact (get?_ofList_iff.1 (Dictionary.get?_eq_some_iff.2 member)).2
  apply List.Nodup.of_map (·.name)
  rw [names]
  exact Dictionary.nodup_keys _

/-! ## Sets of data -/

/-- Volumes grouped by their sets of data. -/
theorem Blueprint.getD_get?_foldl_group (volumes : List Volume)
    (grouped : Dictionary (List String)) (dataset : String) :
    ((volumes.foldl
        (fun grouped volume =>
          grouped.insert volume.dataset ((grouped.get? volume.dataset).getD [] ++ [volume.name]))
        grouped).get? dataset).getD [] =
      (grouped.get? dataset).getD [] ++
        (volumes.filter (·.dataset = dataset)).map (·.name) := by
  induction volumes generalizing grouped with
  | nil => simp
  | cons volume rest induction =>
    rw [List.foldl_cons, induction, Dictionary.get?_insert]
    by_cases same : dataset = volume.dataset
    · subst same
      simp
    · simp [same, Ne.symm same]

/-- No set of data is found twice exactly if volumes with one set of data are one volume. -/
theorem Blueprint.sharedDataset?_eq_none_iff {blueprint : Blueprint} :
    blueprint.sharedDataset? = none ↔ (blueprint.volumes.values.map (·.dataset)).Nodup := by
  have group : ∀ dataset, (blueprint.datasets.get? dataset).getD [] =
      (blueprint.volumes.values.filter (·.dataset = dataset)).map (·.name) := by
    intro dataset
    rw [datasets, getD_get?_foldl_group]
    simp
  rw [List.nodup_iff_count_le_one, sharedDataset?, List.find?_eq_none]
  have count : ∀ dataset, (blueprint.volumes.values.map (·.dataset)).count dataset =
      ((blueprint.datasets.get? dataset).getD []).length := by
    intro dataset
    rw [group, List.length_map, List.count, List.countP_map, List.countP_eq_length_filter]
    congr
  constructor
  · intro single dataset
    rw [count]
    cases found : blueprint.datasets.get? dataset with
    | none => simp
    | some names => simpa using single _ (Dictionary.get?_eq_some_iff.1 found)
  · rintro single ⟨dataset, names⟩ member
    have found := Dictionary.get?_eq_some_iff.2 member
    have bound := single dataset
    rw [count, found] at bound
    simpa using bound

/-! ## The proxy -/

theorem ProbeSet.mem_toList_iff {probes : ProbeSet} {kind : ProbeKind} {probe : Probe} :
    (kind, probe) ∈ probes.toList ↔ probes.get kind = some probe := by
  have every : kind ∈ ProbeKind.all := by cases kind <;> decide
  simp only [toList, List.mem_filterMap, Option.map_eq_some_iff, Prod.mk.injEq]
  constructor
  · rintro ⟨_, -, _, found, rfl, rfl⟩
    exact found
  · intro found
    exact ⟨kind, every, probe, found, rfl, rfl⟩

namespace EdgeSettings

theorem repeated?_eq_none_iff {ports : List UInt16} : repeated? ports = none ↔ ports.Nodup := by
  induction ports with
  | nil => simp [repeated?]
  | cons port rest induction =>
    rw [repeated?, List.nodup_cons]
    by_cases again : port ∈ rest
    · simp [again]
    · simp [again, induction]

/-- Settings pass exactly if each of the four checks does. -/
theorem check_eq_ok_iff {settings : EdgeSettings} :
    settings.check = .ok () ↔ settings.Sound := by
  have zero : [settings.httpPort, settings.httpsPort, settings.metricsPort].contains 0 = false ↔
      settings.httpPort ≠ 0 ∧ settings.httpsPort ≠ 0 ∧ settings.metricsPort ≠ 0 := by
    rw [← Bool.not_eq_true, List.contains_iff_mem]
    simp only [List.mem_cons, List.not_mem_nil, or_false, not_or, ne_comm]
  constructor
  · intro passes
    unfold check at passes
    split at passes
    · cases passes
    rename_i certificate
    split at passes
    · cases passes
    rename_i ports
    split at passes
    · cases passes
    rename_i distinct
    split at passes
    · cases passes
    rename_i upstream
    rcases zero.1 (by simpa using ports) with ⟨http, https, metrics⟩
    exact ⟨by simpa using certificate, http, https, metrics, repeated?_eq_none_iff.1 distinct,
      by simpa using upstream⟩
  · rintro ⟨certificate, http, https, metrics, distinct, upstream⟩
    unfold check
    rw [if_neg (by simpa using certificate), zero.2 ⟨http, https, metrics⟩,
      repeated?_eq_none_iff.2 distinct]
    simp [upstream]

/-- A probe does not disagree exactly if it asks as advertised, in case it asks by HTTP. -/
theorem mismatch?_eq_none_iff {advertised : Scheme × UInt16} {probe : Probe} :
    mismatch? advertised probe = none ↔
      ∀ path port scheme, probe.handler = .httpGet path port scheme →
        (scheme, port) = advertised := by
  unfold mismatch?
  cases probe.handler with
  | httpGet path port scheme => simp +contextual
  | tcpSocket port => simp

/-- The probes of a proxy pass exactly if they ask under the advertised scheme and port. -/
theorem checkProbes_eq_ok_iff {settings : EdgeSettings} (service : String) {probes : ProbeSet} :
    settings.checkProbes service probes = .ok () ↔ probes.AskAt settings.advertised := by
  have passes : settings.checkProbes service probes = .ok () ↔
      (probes.toList.findSome? fun entry =>
        (mismatch? settings.advertised entry.2).map (entry.1, ·)) = none := by
    unfold checkProbes
    dsimp only
    split
    · rename_i found
      simp [found]
    · rename_i found
      simp [found]
  rw [passes, List.findSome?_eq_none_iff]
  simp only [Prod.forall, Option.map_eq_none_iff, ProbeSet.mem_toList_iff, mismatch?_eq_none_iff]
  exact Iff.rfl

end EdgeSettings

/-! ## Services -/

namespace Blueprint

variable {blueprint : Blueprint}

/-- What the check of a dependency asks of the services, if their names differ. -/
theorem dependencyError?_eq_none_iff_mem (distinct : (blueprint.services.map (·.name)).Nodup)
    {service : Service} {dependency : Dependency} :
    blueprint.dependencyError? service dependency = none ↔
      dependency.service ≠ service.name ∧
        (∃ target ∈ blueprint.services, target.name = dependency.service) ∧
        (dependency.condition = .reachable → ∀ target ∈ blueprint.services,
          target.name = dependency.service → ∃ endpoint, target.endpoint = some endpoint) ∧
        (dependency.condition = .completed → ∀ target ∈ blueprint.services,
          target.name = dependency.service → target.role.isOneShot = true) := by
  rw [dependencyError?_eq_none_iff]
  refine and_congr_right fun _ => ?_
  simp only [service?_eq_some_iff_mem distinct]
  constructor
  · rintro ⟨target, ⟨member, named⟩, reachable, completed⟩
    have only : ∀ other ∈ blueprint.services, other.name = dependency.service →
        other = target := fun other otherMember otherNamed =>
      List.inj_on_of_nodup_map distinct otherMember member (otherNamed.trans named.symm)
    refine ⟨⟨target, member, named⟩, ?_, ?_⟩
    · intro condition other otherMember otherNamed
      rw [only other otherMember otherNamed]
      exact reachable condition
    · intro condition other otherMember otherNamed
      rw [only other otherMember otherNamed]
      exact completed condition
  · rintro ⟨⟨target, member, named⟩, reachable, completed⟩
    exact ⟨target, ⟨member, named⟩, fun condition => reachable condition target member named,
      fun condition => completed condition target member named⟩

/-- A service is without an error exactly if its dependencies, mounts, references and probes are. -/
theorem serviceError?_eq_none_iff {service : Service} :
    blueprint.serviceError? service = none ↔
      (∀ dependency ∈ service.dependsOn,
          blueprint.dependencyError? service dependency = none) ∧
        (∀ mount ∈ service.volumes, blueprint.volumes.contains mount.volume = true) ∧
        (∀ secret ∈ service.secrets.values, blueprint.secrets.contains secret = true) ∧
        (service.role = .edgeProxy → service.probes.AskAt blueprint.edge.advertised) := by
  unfold serviceError?
  rw [Option.or_eq_none_iff, Option.or_eq_none_iff, Option.or_eq_none_iff]
  simp only [List.findSome?_eq_none_iff, ite_eq_left_iff, reduceCtorEq, imp_false, not_not]
  refine and_congr_right fun _ => and_congr_right fun _ => and_congr_right fun _ => ?_
  rw [← EdgeSettings.checkProbes_eq_ok_iff service.name]
  by_cases proxy : service.role = .edgeProxy
  · cases blueprint.edge.checkProbes service.name service.probes <;> simp [proxy]
  · simp [proxy]

end Blueprint

/-! ## Accepted blueprints -/

theorem Service.closed_of_declared {services : List Service}
    (declared : ∀ service ∈ services, ∀ dependency ∈ service.dependsOn,
      ∃ target ∈ services, target.name = dependency.service) : Service.Closed services := by
  intro service member dependency listed
  exact List.mem_map.2 (declared service member dependency listed)

namespace Topology

/-- A blueprint is accepted exactly if it passes its check. -/
theorem exists_ofBlueprint_iff {blueprint : Blueprint} :
    (∃ topology, ofBlueprint blueprint = .ok topology) ↔ blueprint.check = .ok () := by
  unfold ofBlueprint
  constructor
  · rintro ⟨topology, accepted⟩
    split at accepted
    · cases accepted
    · assumption
  · intro passes
    split
    · rename_i cause failed
      rw [passes] at failed
      cases failed
    · exact ⟨_, rfl⟩

/-- Acceptance changes nothing. -/
theorem toBlueprint_of_ofBlueprint {blueprint : Blueprint} {topology : Topology}
    (accepted : ofBlueprint blueprint = .ok topology) : topology.toBlueprint = blueprint := by
  unfold ofBlueprint at accepted
  split at accepted
  · cases accepted
  · cases accepted
    rfl

/-- A secret that a service of a topology refers to is declared. -/
theorem secret_declared
    {topology : Topology} {service : Service} (member : service ∈ topology.services)
    {variable_ secret : String} (bound : service.secrets.get? variable_ = some secret) :
    ∃ spec, topology.secrets.get? secret = some spec := by
  have fine := Blueprint.serviceError?_eq_none_iff.1 (serviceError?_eq_none member)
  exact Option.isSome_iff_exists.1
    (fine.2.2.1 secret (Dictionary.mem_values_iff.2 ⟨variable_, bound⟩))

/-- A volume that a service of a topology mounts is declared. -/
theorem volume_declared
    {topology : Topology} {service : Service} (member : service ∈ topology.services)
    {mount : Mount} (listed : mount ∈ service.volumes) :
    ∃ volume, topology.volumes.get? mount.volume = some volume := by
  have fine := Blueprint.serviceError?_eq_none_iff.1 (serviceError?_eq_none member)
  exact Option.isSome_iff_exists.1 (fine.2.1 mount listed)

/-- The settings of the proxy do not contradict themselves. -/
theorem edge_sound (topology : Topology) : topology.edge.Sound :=
  EdgeSettings.check_eq_ok_iff.1 ((Blueprint.check_eq_ok_iff _).1 topology.fits).2.2.2.1

/-- Exactly the stacks whose parts fit together are accepted. -/
theorem accepted_iff_wellFormed (name : String) (services : List Service) (volumes : List Volume)
    (secrets : List SecretSpec) (edge : EdgeSettings) :
    (∃ topology, ofBlueprint (.ofParts name services volumes secrets edge) = .ok topology) ↔
      WellFormed services volumes secrets edge := by
  rw [exists_ofBlueprint_iff, Blueprint.check_eq_ok_iff, Blueprint.duplicate?_eq_none_iff,
    Blueprint.sharedDataset?_eq_none_iff, EdgeSettings.check_eq_ok_iff,
    List.findSome?_eq_none_iff]
  simp only [Blueprint.serviceError?_eq_none_iff]
  constructor
  · rintro ⟨⟨distinct, -⟩, sound, single, edgeSound, placed⟩
    have fits : ∀ service ∈ services, ∀ dependency ∈ service.dependsOn, _ :=
      fun service member dependency listed =>
        (Blueprint.dependencyError?_eq_none_iff_mem distinct).1
          ((sound service member).1 dependency listed)
    have closed : Service.Closed services := Service.closed_of_declared
      fun service member dependency listed => (fits service member dependency listed).2.1
    constructor
    case distinct => exact distinct
    case outward => exact fun service member dependency listed =>
      (fits service member dependency listed).1
    case declared => exact fun service member dependency listed =>
      (fits service member dependency listed).2.1
    case reachable => exact fun service member dependency listed =>
      (fits service member dependency listed).2.2.1
    case completed => exact fun service member dependency listed =>
      (fits service member dependency listed).2.2.2
    case mounted =>
      intro service member mount listed
      have known := (sound service member).2.1 mount listed
      simpa using (Dictionary.contains_ofList _ _).1 known
    case referenced =>
      intro service member reference secret bound
      have known := (sound service member).2.2.1 secret
        (Dictionary.mem_values_iff.2 ⟨reference, bound⟩)
      simpa using (Dictionary.contains_ofList _ _).1 known
    case datasets =>
      intro first second firstCounts secondCounts same
      exact List.inj_on_of_nodup_map single (Volume.mem_values_ofList_iff.2 firstCounts)
        (Volume.mem_values_ofList_iff.2 secondCounts) same
    case probes => exact fun service member => (sound service member).2.2.2
    case edge => exact edgeSound
    case acyclic => exact (Blueprint.unplaced_eq_nil_iff distinct closed).1 placed
  · intro fits
    have closed := Service.closed_of_declared fits.declared
    refine ⟨⟨fits.distinct, by simp⟩, ?_, ?_, fits.edge, ?_⟩
    · intro service member
      refine ⟨?_, ?_, ?_, fits.probes service member⟩
      · intro dependency listed
        exact (Blueprint.dependencyError?_eq_none_iff_mem fits.distinct).2
          ⟨fits.outward service member dependency listed,
            fits.declared service member dependency listed,
            fits.reachable service member dependency listed,
            fits.completed service member dependency listed⟩
      · intro mount listed
        apply (Dictionary.contains_ofList _ _).2
        simpa using fits.mounted service member mount listed
      · intro secret listed
        rcases Dictionary.mem_values_iff.1 listed with ⟨reference, bound⟩
        apply (Dictionary.contains_ofList _ _).2
        simpa using fits.referenced service member reference secret bound
    · apply List.Nodup.map_on _ (Volume.nodup_values_ofList volumes)
      intro first firstMember second secondMember same
      exact fits.datasets first second (Volume.mem_values_ofList_iff.1 firstMember)
        (Volume.mem_values_ofList_iff.1 secondMember) same
    · exact (Blueprint.unplaced_eq_nil_iff fits.distinct closed).2 fits.acyclic

end Topology

end Convoy
