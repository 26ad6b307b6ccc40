import Convoy.Launch
import Convoy.Proofs.Acceptance
import Convoy.Proofs.Outcome

/-!
# What a resolution gives

Which secrets a resolution has values for and which values these are, and from them what every
variable of a service holds when the service is launched.
-/

namespace Convoy

open Outcome

namespace SecretSpec

variable {spec : SecretSpec} {profile : Profile} {environment : Environment} {value : String}

theorem supplied?_eq_some
    (held : environment spec.env = some value) (nonempty : value ≠ "") :
    spec.supplied? environment = some value := by
  simp [supplied?, held, nonempty]

/-- A supplied value counts, unless it is the known default and the deployment is for use. -/
theorem exists_resolve_of_supplied
    (supplied : spec.supplied? environment = some value)
    (private_ : spec.insecureDefault ≠ some value) :
    ∃ resolved, spec.resolve profile environment = .ok resolved := by
  cases profile <;> simp [resolve, supplied, private_]

/-- The value of a secret is what is supplied. Where nothing is, it is the known default, and the
deployment is a trial. -/
theorem value_of_resolve
    {resolved : SecretValue} (done : spec.resolve profile environment = .ok resolved) :
    spec.supplied? environment = some resolved.value ∨
      spec.supplied? environment = none ∧ profile = .evaluation ∧
        spec.insecureDefault = some resolved.value := by
  unfold resolve at done
  split at done
  · rename_i value supplied
    split at done
    · cases done
    · cases done
      exact .inl supplied
  · rename_i value supplied
    cases done
    exact .inl supplied
  · rename_i absent
    split at done
    · rename_i value known
      cases done
      exact .inr ⟨absent, rfl, known⟩
    · cases done
  · cases done

end SecretSpec

namespace SecretRegistry

variable {registry : SecretRegistry} {profile : Profile} {environment : Environment}

theorem resolveEntries_eq_mapM (entries : List (String × SecretSpec)) :
    resolveEntries profile environment entries =
      entries.mapM fun entry =>
        (entry.2.resolve profile environment).map fun value => (entry.1, value) := by
  induction entries with
  | nil => rfl
  | cons entry rest induction =>
    rw [List.mapM_cons, ← induction, resolveEntries]
    cases entry.2.resolve profile environment <;> rfl

theorem resolve_eq_ok_iff {resolved : ResolvedSecrets} :
    registry.resolve profile environment = .ok resolved ↔
      resolveEntries profile environment registry.entries = .ok resolved.entries := by
  unfold resolve
  split
  · rename_i cause failed
    simp [failed]
  · rename_i values done
    constructor
    · rintro given
      cases given
      exact done
    · intro given
      cases done.symm.trans given
      rfl

/-- A resolution has a value for each declared secret, and for no other. -/
theorem get?_of_resolve
    {resolved : ResolvedSecrets} (done : registry.resolve profile environment = .ok resolved)
    {name : String} {value : SecretValue} :
    resolved.get? name = some value ↔
      ∃ spec, registry.get? name = some spec ∧
        spec.resolve profile environment = .ok value := by
  rw [resolve_eq_ok_iff, resolveEntries_eq_mapM] at done
  simp only [Dictionary.get?_eq_some_iff, mem_iff_of_mapM_eq_ok done, map_eq_ok_iff]
  constructor
  · rintro ⟨⟨key, spec⟩, member, found, given, same⟩
    cases same
    exact ⟨spec, member, given⟩
  · rintro ⟨spec, member, given⟩
    exact ⟨(name, spec), member, value, given, rfl⟩

theorem exists_resolve_iff :
    (∃ resolved, registry.resolve profile environment = .ok resolved) ↔
      ∀ name spec, registry.get? name = some spec →
        ∃ value, spec.resolve profile environment = .ok value := by
  constructor
  · rintro ⟨resolved, done⟩ name spec declared
    rw [resolve_eq_ok_iff, resolveEntries_eq_mapM] at done
    obtain ⟨pair, given⟩ :=
      exists_mapM_eq_ok_iff.1 ⟨_, done⟩ (name, spec) (Dictionary.get?_eq_some_iff.1 declared)
    obtain ⟨value, given, -⟩ := map_eq_ok_iff.1 given
    exact ⟨value, given⟩
  · intro each
    obtain ⟨values, done⟩ : ∃ values, resolveEntries profile environment registry.entries =
        .ok values := by
      rw [resolveEntries_eq_mapM, exists_mapM_eq_ok_iff]
      rintro ⟨name, spec⟩ member
      obtain ⟨value, given⟩ := each name spec (Dictionary.get?_eq_some_iff.2 member)
      exact ⟨(name, value), map_eq_ok_iff.2 ⟨value, given, rfl⟩⟩
    unfold resolve
    split
    · rename_i cause failed
      cases failed.symm.trans done
    · exact ⟨_, rfl⟩

end SecretRegistry

namespace ResolvedSecrets

variable {secrets : ResolvedSecrets} {references : Dictionary String}

theorem bindEntries_eq_mapM (entries : List (String × String)) :
    secrets.bindEntries entries =
      entries.mapM fun reference =>
        match secrets.get? reference.2 with
        | none => .error (.unresolved reference.2)
        | some secret => .ok (reference.1, secret.value) := by
  induction entries with
  | nil => rfl
  | cons reference rest induction =>
    rw [List.mapM_cons, ← induction, bindEntries]
    cases secrets.get? reference.2 <;> rfl

/-- A bound variable has the value of the secret that it refers to. -/
theorem get?_of_bind
    {bound : Dictionary String} (done : secrets.bind references = .ok bound) (variable_ : String) :
    bound.get? variable_ =
      (references.get? variable_).bind fun secret => (secrets.get? secret).map (·.value) := by
  obtain ⟨pairs, each, rfl⟩ := map_eq_ok_iff.1 done
  rw [bindEntries_eq_mapM] at each
  have keys : pairs.map (·.1) = references.keys := by
    refine map_eq_of_mapM_eq_ok each fun reference _ pair given => ?_
    split at given
    · cases given
    · cases given
      rfl
  refine Option.ext fun value => ?_
  rw [Dictionary.get?_ofList_eq_some_iff (keys ▸ references.nodup_keys),
    mem_iff_of_mapM_eq_ok each]
  simp only [Option.bind_eq_some_iff, Option.map_eq_some_iff, Dictionary.get?_eq_some_iff]
  constructor
  · rintro ⟨⟨key, secret⟩, member, given⟩
    split at given
    · cases given
    · rename_i resolved found
      cases given
      exact ⟨secret, member, resolved, Dictionary.get?_eq_some_iff.1 found, rfl⟩
  · rintro ⟨secret, member, resolved, found, rfl⟩
    refine ⟨(variable_, secret), member, ?_⟩
    simp only [Dictionary.get?_eq_some_iff.2 found]

theorem exists_bind
    (resolved : ∀ variable_ secret, references.get? variable_ = some secret →
      ∃ value, secrets.get? secret = some value) :
    ∃ bound, secrets.bind references = .ok bound := by
  obtain ⟨pairs, done⟩ : ∃ pairs, secrets.bindEntries references.entries = .ok pairs := by
    rw [bindEntries_eq_mapM, exists_mapM_eq_ok_iff]
    rintro ⟨variable_, secret⟩ member
    obtain ⟨value, found⟩ := resolved variable_ secret (Dictionary.get?_eq_some_iff.2 member)
    simp [found]
  exact ⟨_, map_eq_ok_iff.2 ⟨pairs, done, rfl⟩⟩

end ResolvedSecrets

/-- What a service is launched with: a variable bound to a secret has the secret's value, whether or
not there is a literal value, and every other variable its literal value. -/
theorem Service.get?_of_environmentWith
    {service : Service} {secrets : ResolvedSecrets} {assignments : Dictionary String}
    (done : service.environmentWith secrets = .ok assignments) (variable_ : String) :
    assignments.get? variable_ =
      ((service.secrets.get? variable_).bind fun secret =>
        (secrets.get? secret).map (·.value)).or (service.environment.get? variable_) := by
  obtain ⟨bound, given, same⟩ := bind_eq_ok_iff.1 done
  obtain rfl := pure_eq_ok_iff.1 same
  rw [← ResolvedSecrets.get?_of_bind given]
  refine (Dictionary.get?_foldl_insert bound.entries service.environment variable_).trans ?_
  congr 1
  refine Option.ext fun value => ?_
  rw [Dictionary.lookup_eq_some_iff_mem, List.mem_reverse, Dictionary.get?_eq_some_iff]
  rw [List.map_reverse, List.nodup_reverse]
  exact bound.nodup_keys

namespace Topology

variable {topology : Topology}

/-- There is an entry for each service, by its name, and for nothing else. -/
theorem get?_environments_iff
    {secrets : ResolvedSecrets} {environments : Dictionary (Dictionary String)}
    (done : topology.environments secrets = .ok environments)
    {name : String} {assignments : Dictionary String} :
    environments.get? name = some assignments ↔
      ∃ service ∈ topology.services, service.name = name ∧
        service.environmentWith secrets = .ok assignments := by
  obtain ⟨pairs, each, same⟩ := bind_eq_ok_iff.1 done
  obtain rfl := pure_eq_ok_iff.1 same
  have names : pairs.map (·.1) = topology.services.map (·.name) := by
    refine map_eq_of_mapM_eq_ok each fun other _ pair given => ?_
    split at given
    · cases given
      rfl
    · cases given
  rw [Dictionary.get?_ofList_eq_some_iff (names ▸ topology.names_nodup),
    mem_iff_of_mapM_eq_ok each]
  refine exists_congr fun service => and_congr_right fun _ => ?_
  cases own : service.environmentWith secrets <;> simp

/-- Every service is launched with its own variables. -/
theorem get?_of_environments
    {secrets : ResolvedSecrets} {environments : Dictionary (Dictionary String)}
    (done : topology.environments secrets = .ok environments)
    {service : Service} (declared : service ∈ topology.services) :
    ∃ assignments, service.environmentWith secrets = .ok assignments ∧
      environments.get? service.name = some assignments := by
  obtain ⟨pairs, each, -⟩ := bind_eq_ok_iff.1 done
  obtain ⟨pair, given⟩ := exists_mapM_eq_ok_iff.1 ⟨_, each⟩ service declared
  split at given
  · rename_i assignments own
    exact ⟨assignments, own, (get?_environments_iff done).2 ⟨service, declared, rfl, own⟩⟩
  · cases given

/-- The entries are as many as the services. -/
theorem keys_environments_perm
    {secrets : ResolvedSecrets} {environments : Dictionary (Dictionary String)}
    (done : topology.environments secrets = .ok environments) :
    environments.keys.Perm (topology.services.map (·.name)) := by
  rw [List.perm_ext_iff_of_nodup environments.nodup_keys topology.names_nodup]
  intro name
  simp only [Dictionary.keys, List.mem_map, Prod.exists, exists_and_right, exists_eq_right,
    ← Dictionary.get?_eq_some_iff, get?_environments_iff done]
  constructor
  · rintro ⟨assignments, service, declared, named, -⟩
    exact ⟨service, declared, named⟩
  · rintro ⟨service, declared, named⟩
    obtain ⟨assignments, own, -⟩ := get?_of_environments done declared
    exact ⟨assignments, service, declared, named, own⟩

/-- A resolution has a value for every secret that a service refers to, because it is declared. -/
theorem exists_resolved
    {profile : Profile} {environment : Environment} {resolved : ResolvedSecrets}
    (done : topology.secrets.resolve profile environment = .ok resolved)
    {service : Service} (declared : service ∈ topology.services)
    {variable_ secret : String} (bound : service.secrets.get? variable_ = some secret) :
    ∃ value, resolved.get? secret = some value := by
  obtain ⟨spec, specified⟩ := secret_declared declared bound
  obtain ⟨value, resolves⟩ :=
    SecretRegistry.exists_resolve_iff.1 ⟨resolved, done⟩ secret spec specified
  exact ⟨value, (SecretRegistry.get?_of_resolve done).2 ⟨spec, specified, resolves⟩⟩

/-- Once its secrets are resolved, all services of a topology can be launched: no service refers to
a secret that is not declared. -/
theorem exists_environments
    {profile : Profile} {environment : Environment} {resolved : ResolvedSecrets}
    (done : topology.resolveSecrets profile environment = .ok resolved) :
    ∃ environments, topology.environments resolved = .ok environments := by
  unfold environments
  simp only [exists_bind_eq_ok_iff, pure_eq_ok_iff, exists_eq', and_true, exists_mapM_eq_ok_iff]
  intro service member
  obtain ⟨bound, given⟩ : ∃ bound, resolved.bind service.secrets = .ok bound :=
    ResolvedSecrets.exists_bind fun variable_ secret referred =>
      exists_resolved (mapError_eq_ok_iff.1 done) member referred
  have own : service.environmentWith resolved = .ok (service.environment.union bound) :=
    bind_eq_ok_iff.2 ⟨bound, given, rfl⟩
  rw [own]
  exact ⟨_, rfl⟩

end Topology

end Convoy
