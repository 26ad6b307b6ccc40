import Convoy.Proofs.Manifest

/-!
# Where a stack is reached

The flags of an environment decide whether the proxy in front of a stack ends TLS, and this decides
the scheme and the port under which the stack is reached. The probes of a proxy agree with them,
whether they are written down or follow from the settings. A stack whose proxy has a written HTTP
probe is therefore refused if the flag for TLS is turned around: all checks that come before the one
on probes know nothing of probes and of the proxy.
-/

namespace Convoy

open Outcome

/-! ## Flags -/

/-- What a flag of an environment makes of a setting. -/
def Environment.Overrides (environment : Environment) (name : String) (written settled : Bool) :
    Prop :=
  match environment name with
  | none => settled = written
  | some text => Naming.flag text = .ok settled

namespace Manifest

/-- The step that one flag takes. -/
def override (environment : Environment) (current : EdgeSettings)
    (flag : String × (EdgeSettings → Bool → EdgeSettings)) : Except Failure EdgeSettings :=
  match environment flag.1 with
  | none => .ok current
  | some text =>
    match Naming.flag text with
    | .ok value => .ok (flag.2 current value)
    | .error error => .error (.ofCause (.value flag.1 error))

theorem override_eq_ok_iff {environment : Environment} {name : String}
    {set : EdgeSettings → Bool → EdgeSettings} {current next : EdgeSettings} (written : Bool)
    (same : set current written = current) :
    override environment current (name, set) = .ok next ↔
      ∃ value, environment.Overrides name written value ∧ next = set current value := by
  unfold override Environment.Overrides
  cases environment name with
  | none => simp [same, eq_comm]
  | some text => cases read : Naming.flag text <;> simp [read, eq_comm]

theorem applyFlags_eq_foldlM (environment : Environment) (settings : EdgeSettings) :
    applyFlags environment settings = overrides.foldlM (override environment) settings := by
  unfold applyFlags
  refine congrArg (fun step => overrides.foldlM step settings) ?_
  funext current flag
  unfold override
  cases environment flag.1 with
  | none => rfl
  | some text => cases read : Naming.flag text <;> simp only [read]

/-- Three flags count, each for a setting of its own. -/
theorem applyFlags_eq_ok_iff {environment : Environment} {written settled : EdgeSettings} :
    applyFlags environment written = .ok settled ↔
      ∃ tls certificate metrics, environment.Overrides "USE_TLS" written.tls tls ∧
        environment.Overrides "GENERATE_TLS_CERTIFICATE" written.generateCertificate certificate ∧
        environment.Overrides "NGINX_METRICS_ENABLED" written.metrics metrics ∧
        settled =
          { written with
            tls := tls
            generateCertificate := certificate
            metrics := metrics } := by
  simp only [applyFlags_eq_foldlM, overrides, List.foldlM_cons, List.foldlM_nil, bind_eq_ok_iff,
    pure_eq_ok_iff]
  constructor
  · rintro ⟨_, first, _, second, _, third, rfl⟩
    obtain ⟨tls, overridesTls, rfl⟩ := (override_eq_ok_iff written.tls rfl).1 first
    obtain ⟨certificate, overridesCertificate, rfl⟩ :=
      (override_eq_ok_iff written.generateCertificate rfl).1 second
    obtain ⟨metrics, overridesMetrics, rfl⟩ := (override_eq_ok_iff written.metrics rfl).1 third
    exact ⟨tls, certificate, metrics, overridesTls, overridesCertificate, overridesMetrics, rfl⟩
  · rintro ⟨tls, certificate, metrics, overridesTls, overridesCertificate, overridesMetrics, rfl⟩
    exact ⟨_, (override_eq_ok_iff written.tls rfl).2 ⟨tls, overridesTls, rfl⟩,
      _, (override_eq_ok_iff written.generateCertificate rfl).2
        ⟨certificate, overridesCertificate, rfl⟩,
      _, (override_eq_ok_iff written.metrics rfl).2 ⟨metrics, overridesMetrics, rfl⟩, rfl⟩

end Manifest

/-! ## Checks that know nothing of probes -/

/-- A service without its probes. -/
def Service.bare (service : Service) : Service := { service with probes := .none }

namespace Blueprint

variable {first second : Blueprint}

theorem map_bare_service? (blueprint : Blueprint) (name : String) :
    (blueprint.service? name).map Service.bare =
      (blueprint.services.map Service.bare).find? (·.name == name) := by
  rw [List.find?_map]
  rfl

theorem map_name_eq_of_bare
    (same : first.services.map Service.bare = second.services.map Service.bare) :
    first.services.map (·.name) = second.services.map (·.name) := by
  have names (services : List Service) :
      services.map (·.name) = (services.map Service.bare).map (·.name) := by
    rw [List.map_map]
    rfl
  rw [names, same, ← names]

/-- What is wrong with a dependency does not depend on probes. -/
theorem dependencyError?_eq_of_bare
    (same : first.services.map Service.bare = second.services.map Service.bare)
    {one other : Service} (alike : one.bare = other.bare) (dependency : Dependency) :
    first.dependencyError? one dependency = second.dependencyError? other dependency := by
  have name : one.name = other.name := (congrArg Service.name alike :)
  have targets := (map_bare_service? first dependency.service).trans
    (same ▸ (map_bare_service? second dependency.service).symm)
  unfold dependencyError?
  rw [name]
  generalize first.service? dependency.service = found at targets ⊢
  generalize second.service? dependency.service = counterpart at targets ⊢
  rcases found with _ | found <;> rcases counterpart with _ | counterpart
  · rfl
  · cases targets
  · cases targets
  · have bare : found.bare = counterpart.bare := by simpa using targets
    have endpoint : found.endpoint = counterpart.endpoint := (congrArg Service.endpoint bare :)
    have role : found.role = counterpart.role := (congrArg Service.role bare :)
    simp only [endpoint, role]

/-- In a stack that only differs in its probes and its proxy from one in which a service is
without an error, at most the probes of the service can be wrong. -/
theorem serviceError?_eq_of_bare
    (same : first.services.map Service.bare = second.services.map Service.bare)
    (volumes : first.volumes = second.volumes) (secrets : first.secrets = second.secrets)
    {one other : Service} (alike : one.bare = other.bare)
    (fine : second.serviceError? other = none) :
    first.serviceError? one =
      if one.role == .edgeProxy then
        match first.edge.checkProbes one.name one.probes with
        | .error cause => some cause
        | .ok () => none
      else none := by
  obtain ⟨dependencies, mounts, references, -⟩ := serviceError?_eq_none_iff.1 fine
  have listed : one.dependsOn = other.dependsOn := (congrArg Service.dependsOn alike :)
  have mounted : one.volumes = other.volumes := (congrArg Service.volumes alike :)
  have referenced : one.secrets = other.secrets := (congrArg Service.secrets alike :)
  have noDependency : one.dependsOn.findSome? (first.dependencyError? one) = none := by
    rw [List.findSome?_eq_none_iff, listed]
    intro dependency member
    rw [dependencyError?_eq_of_bare same alike, dependencies dependency member]
  have noMount : (one.volumes.findSome? fun mount =>
      if first.volumes.contains mount.volume then none
      else some (TopologyError.unknownVolume one.name mount.volume)) = none := by
    rw [List.findSome?_eq_none_iff, mounted, volumes]
    intro mount member
    rw [if_pos (mounts mount member)]
  have noReference : (one.secrets.values.findSome? fun secret =>
      if first.secrets.contains secret then none
      else some (TopologyError.unknownSecret one.name secret)) = none := by
    rw [List.findSome?_eq_none_iff, referenced, secrets]
    intro secret member
    rw [if_pos (references secret member)]
  rw [serviceError?, noDependency, noMount, noReference]
  rfl

end Blueprint

/-! ## Probes of a proxy -/

namespace EdgeSettings

variable {settings : EdgeSettings}

/-- The probes that follow from settings ask as advertised. -/
theorem askAt_probes (settings : EdgeSettings) : settings.probes.AskAt settings.advertised := by
  rintro kind probe held path port scheme asks
  cases kind <;> cases held <;> cases asks <;> rfl

/-- There is one of each kind, and it asks by HTTP. -/
theorem exists_httpGet_of_probes (settings : EdgeSettings) (kind : ProbeKind) :
    ∃ probe path, settings.probes.get kind = some probe ∧
      probe.handler = .httpGet path settings.advertised.2 settings.advertised.1 := by
  cases kind <;> exact ⟨_, _, rfl, rfl⟩

theorem advertised_mem_publishedPorts (settings : EdgeSettings) :
    settings.advertised.2 ∈ settings.publishedPorts := by
  unfold advertised publishedPorts
  cases settings.tls <;> simp

/-- Of the ports of sound settings, those that are open to the outside are no exception. -/
theorem Sound.ne_zero (sound : settings.Sound) {port : UInt16}
    (published : port ∈ settings.publishedPorts) : port ≠ 0 := by
  have ports : port = settings.httpPort ∨ port = settings.httpsPort ∨
      port = settings.metricsPort := by
    unfold publishedPorts at published
    cases tls : settings.tls <;> cases metrics : settings.metrics <;>
      simp [tls, metrics] at published <;> tauto
  rcases ports with rfl | rfl | rfl
  · exact sound.http
  · exact sound.https
  · exact sound.metrics

/-- What is refused is a probe that asks elsewhere. -/
theorem exists_of_checkProbes_eq_error {service : String} {probes : ProbeSet}
    {cause : TopologyError} (refused : settings.checkProbes service probes = .error cause) :
    ∃ kind probe path port scheme, probes.get kind = some probe ∧
      probe.handler = .httpGet path port scheme ∧
      cause = .probeMismatch service kind.name (schemePort settings.advertised)
        (schemePort (scheme, port)) := by
  unfold checkProbes at refused
  dsimp only at refused
  split at refused
  · rename_i kind asked found
    cases refused
    obtain ⟨⟨other, probe⟩, member, differs⟩ := List.exists_of_findSome?_eq_some found
    obtain ⟨_, mismatch, same⟩ := Option.map_eq_some_iff.1 differs
    cases same
    unfold mismatch? at mismatch
    split at mismatch
    · rename_i path port scheme asks
      split at mismatch
      · cases mismatch
      · cases mismatch
        exact ⟨other, probe, path, port, scheme, ProbeSet.mem_toList_iff.1 member, asks, rfl⟩
    · cases mismatch
  · cases refused

end EdgeSettings

namespace ManifestService

variable {written : ManifestService}

theorem probes_toService_of_none (edge : EdgeSettings) (usualTimeout : Nat)
    (unset : written.probes = .replicate none) :
    (written.toService edge usualTimeout .edgeProxy).probes = edge.probes := by
  simp [toService, unset]

theorem http_of_toProbe {probe : ManifestProbe} {path : String} {port : UInt16} {scheme : Scheme}
    (asks : probe.toProbe.handler = .httpGet path port scheme) :
    probe.http = some ⟨path, port, scheme⟩ := by
  unfold ManifestProbe.toProbe at asks
  dsimp only at asks
  split at asks
  · rename_i target given
    cases asks
    exact given
  · cases asks

theorem probes_toService_of_ne_none (edge : EdgeSettings) (usualTimeout : Nat) (role : Role)
    (given : written.probes ≠ .replicate none) :
    (written.toService edge usualTimeout role).probes = written.probes.map (·.map (·.toProbe)) := by
  simp [toService, given]

/-- A written HTTP probe asks as it is written. -/
theorem exists_httpGet_of_written (edge : EdgeSettings) (usualTimeout : Nat) (role : Role)
    {kind : ProbeKind} {probe : ManifestProbe} (held : written.probes.get kind = some probe)
    {target : HttpTarget} (asks : probe.http = some target) :
    ∃ meant, (written.toService edge usualTimeout role).probes.get kind = some meant ∧
      meant.handler = .httpGet target.path target.port target.scheme := by
  have given : written.probes ≠ .replicate none := by
    intro unset
    rw [unset, PerKind.get_replicate] at held
    cases held
  refine ⟨probe.toProbe, ?_, ?_⟩
  · rw [probes_toService_of_ne_none edge usualTimeout role given, PerKind.get_map, held]
    rfl
  · rw [ManifestProbe.toProbe, asks]

/-- Settings of a proxy decide nothing but probes. -/
theorem bare_toService (edge other : EdgeSettings) (usualTimeout : Nat) (role : Role) :
    (written.toService edge usualTimeout role).bare =
      (written.toService other usualTimeout role).bare :=
  rfl

end ManifestService

/-! ## The other choice on TLS -/

namespace Blueprint

variable {blueprint : Blueprint} {cause : TopologyError}

theorem check_eq_error_of_service (distinct : (blueprint.services.map (·.name)).Nodup)
    (found : blueprint.services.findSome? blueprint.serviceError? = some cause) :
    blueprint.check = .error cause := by
  have single : duplicate? [] blueprint.services = none :=
    duplicate?_eq_none_iff.2 ⟨distinct, fun _ _ => List.not_mem_nil⟩
  rw [check, single, found]

end Blueprint

theorem Topology.ofBlueprint_eq_error {blueprint : Blueprint} {cause : TopologyError}
    (refused : blueprint.check = .error cause) : ofBlueprint blueprint = .error cause := by
  unfold ofBlueprint
  split
  · rename_i first failed
    cases failed.symm.trans refused
    rfl
  · rename_i passes
    cases passes.symm.trans refused

namespace Manifest

/-- The same manifest with the other choice on TLS. -/
def inverted (manifest : Manifest) : Manifest :=
  { manifest with edge := { manifest.edge with tls := !manifest.edge.tls } }

/-- The blueprint that a manifest describes with some services. -/
def blueprint (manifest : Manifest) (services : List Service) : Blueprint where
  name := manifest.name
  services := services
  volumes := manifest.volumes.map fun name dataset => ⟨name, dataset⟩
  secrets := manifest.secrets.map fun name secret => ⟨name, secret.env, secret.insecureDefault⟩
  edge := manifest.edge

variable {manifest : Manifest} {topology : Topology} {services : List Service}

theorem advertised_inverted_ne (manifest : Manifest) :
    manifest.edge.advertised ≠ manifest.inverted.edge.advertised := by
  unfold inverted EdgeSettings.advertised
  cases manifest.edge.tls <;> simp

/-- Up to their probes, services are meant in the same way whatever the proxy does. -/
theorem map_bare_of_toServices (meant : manifest.toServices = .ok services) :
    services.map Service.bare = manifest.services.map fun written =>
      (written.toService .standard manifest.readinessTimeoutSecs
        ((Role.read? written.role).getD .store)).bare := by
  refine map_eq_of_mapM_eq_ok meant ?_
  intro written _ service step
  split at step
  · rename_i role known
    cases step
    rw [known]
    rfl
  · cases step

theorem exists_toServices_inverted (meant : manifest.toServices = .ok services) :
    ∃ others, manifest.inverted.toServices = .ok others := by
  refine exists_mapM_eq_ok_iff.2 fun written member => ?_
  obtain ⟨service, step⟩ := exists_mapM_eq_ok_iff.1 ⟨services, meant⟩ written member
  split at step
  · exact ⟨_, rfl⟩
  · cases step

theorem toTopology_eq_error (checked : manifest.check = .ok ())
    (meant : manifest.toServices = .ok services) {cause : TopologyError}
    (refused : (manifest.blueprint services).check = .error cause) :
    manifest.toTopology = .error (.ofCause (.topology cause)) := by
  unfold toTopology
  rw [checked, meant]
  change (Topology.ofBlueprint (manifest.blueprint services)).mapError _ = _
  rw [Topology.ofBlueprint_eq_error refused]
  rfl

section Inverted

variable {others : List Service}

/-- A proxy of a topology asks as the manifest advertises. -/
theorem askAt_of_toTopology (described : manifest.toTopology = .ok topology)
    {service : Service} (member : service ∈ topology.services) (proxy : service.role = .edgeProxy) :
    service.probes.AskAt manifest.edge.advertised := by
  obtain ⟨services, -, built⟩ := toBlueprint_of_toTopology described
  have fine := Blueprint.serviceError?_eq_none_iff.1 (Topology.serviceError?_eq_none member)
  rw [built] at fine
  exact fine.2.2.2 proxy

/-- In a stack with the other choice on TLS, at most the probes of a service can be wrong. -/
theorem serviceError?_inverted (described : manifest.toTopology = .ok topology)
    (meant : manifest.inverted.toServices = .ok others) {service : Service}
    (member : service ∈ others) :
    (manifest.inverted.blueprint others).serviceError? service =
      if service.role == .edgeProxy then
        match manifest.inverted.edge.checkProbes service.name service.probes with
        | .error cause => some cause
        | .ok () => none
      else none := by
  obtain ⟨services, usual, built⟩ := toBlueprint_of_toTopology described
  have same : (manifest.inverted.blueprint others).services.map Service.bare =
      (manifest.blueprint services).services.map Service.bare :=
    (map_bare_of_toServices meant).trans (map_bare_of_toServices usual).symm
  obtain ⟨written, listed, role, known, rfl⟩ := (mem_of_toServices meant).1 member
  have fine := Topology.serviceError?_eq_none
    ((mem_services_of_toTopology described).2 ⟨written, listed, role, known, rfl⟩)
  rw [built] at fine
  exact Blueprint.serviceError?_eq_of_bare same rfl rfl
    (written.bare_toService manifest.inverted.edge manifest.edge _ role) fine

/-- What is refused there is a written probe of a proxy, for asking as the topology advertises. -/
theorem exists_of_serviceError?_inverted (described : manifest.toTopology = .ok topology)
    (meant : manifest.inverted.toServices = .ok others) {service : Service}
    (member : service ∈ others) {cause : TopologyError}
    (refused : (manifest.inverted.blueprint others).serviceError? service = some cause) :
    ∃ written ∈ manifest.services, Role.read? written.role = some .edgeProxy ∧
      ∃ kind probe target, written.probes.get kind = some probe ∧ probe.http = some target ∧
        cause = .probeMismatch written.name kind.name
          (EdgeSettings.schemePort manifest.inverted.edge.advertised)
          (EdgeSettings.schemePort manifest.edge.advertised) := by
  rw [serviceError?_inverted described meant member] at refused
  obtain ⟨written, listed, role, known, rfl⟩ := (mem_of_toServices meant).1 member
  split at refused
  · rename_i proxy
    obtain rfl : role = .edgeProxy := by simpa [ManifestService.toService] using proxy
    split at refused
    · rename_i other failed
      cases refused
      have given : written.probes ≠ .replicate none := by
        intro unset
        have asks := EdgeSettings.askAt_probes manifest.inverted.edge
        rw [← written.probes_toService_of_none manifest.inverted.edge
          manifest.inverted.readinessTimeoutSecs unset] at asks
        have passes := (EdgeSettings.checkProbes_eq_ok_iff written.name).2 asks
        cases passes.symm.trans failed
      obtain ⟨kind, probe, path, port, scheme, held, asks, rfl⟩ :=
        EdgeSettings.exists_of_checkProbes_eq_error failed
      have counterpart := (mem_services_of_toTopology described).2
        ⟨written, listed, .edgeProxy, known, rfl⟩
      have advertised : (scheme, port) = manifest.edge.advertised := by
        refine askAt_of_toTopology described counterpart rfl kind probe ?_ path port scheme asks
        rw [written.probes_toService_of_ne_none _ _ _ given] at held ⊢
        exact held
      rw [written.probes_toService_of_ne_none _ _ _ given, PerKind.get_map,
        Option.map_eq_some_iff] at held
      obtain ⟨source, stated, rfl⟩ := held
      exact ⟨written, listed, known, kind, source, _, stated,
        ManifestService.http_of_toProbe asks, by rw [advertised]; rfl⟩
    · cases refused
  · cases refused

/-- A topology whose proxy has a written HTTP probe is none with the other choice on TLS. -/
theorem toTopology_inverted (described : manifest.toTopology = .ok topology)
    {written : ManifestService} (listed : written ∈ manifest.services)
    (proxy : Role.read? written.role = some .edgeProxy) {kind : ProbeKind} {probe : ManifestProbe}
    (held : written.probes.get kind = some probe) {target : HttpTarget}
    (asks : probe.http = some target) :
    ∃ other ∈ manifest.services, Role.read? other.role = some .edgeProxy ∧
      ∃ kind probe target, other.probes.get kind = some probe ∧ probe.http = some target ∧
        manifest.inverted.toTopology =
          .error (.ofCause (.topology (.probeMismatch other.name kind.name
            (EdgeSettings.schemePort manifest.inverted.edge.advertised)
            (EdgeSettings.schemePort manifest.edge.advertised)))) := by
  obtain ⟨services, usual, built⟩ := toBlueprint_of_toTopology described
  obtain ⟨others, meant⟩ := exists_toServices_inverted usual
  have checked : manifest.inverted.check = .ok () := (check_bind_eq_ok_iff.1 described).1
  have distinct : (others.map (·.name)).Nodup := by
    have same : (manifest.inverted.blueprint others).services.map Service.bare =
        (manifest.blueprint services).services.map Service.bare :=
      (map_bare_of_toServices meant).trans (map_bare_of_toServices usual).symm
    have names := topology.names_nodup
    rw [built] at names
    exact (Blueprint.map_name_eq_of_bare same).symm ▸ names
  have counterpart := (mem_services_of_toTopology described).2
    ⟨written, listed, .edgeProxy, proxy, rfl⟩
  have member := (mem_of_toServices meant).2 ⟨written, listed, .edgeProxy, proxy, rfl⟩
  cases found : others.findSome? (manifest.inverted.blueprint others).serviceError? with
  | none =>
    have fine := Blueprint.serviceError?_eq_none_iff.1
      (List.findSome?_eq_none_iff.1 found _ member)
    obtain ⟨meantThere, heldThere, asksThere⟩ := written.exists_httpGet_of_written
      manifest.inverted.edge manifest.inverted.readinessTimeoutSecs .edgeProxy held asks
    obtain ⟨meantHere, heldHere, asksHere⟩ := written.exists_httpGet_of_written
      manifest.edge manifest.readinessTimeoutSecs .edgeProxy held asks
    have there := fine.2.2.2 rfl kind meantThere heldThere _ _ _ asksThere
    have here := askAt_of_toTopology described counterpart rfl
    exact absurd ((here kind meantHere heldHere _ _ _ asksHere).symm.trans there)
      manifest.advertised_inverted_ne
  | some cause =>
    obtain ⟨service, among, refused⟩ := List.exists_of_findSome?_eq_some found
    obtain ⟨other, declared, role, kind, probe, target, given, http, rfl⟩ :=
      exists_of_serviceError?_inverted described meant among refused
    exact ⟨other, declared, role, kind, probe, target, given, http,
      toTopology_eq_error checked meant (Blueprint.check_eq_error_of_service distinct found)⟩

end Inverted

/-! ## Agreement -/

/-- A written stack, the flags of an environment and the topology that comes of both agree on where
the stack is reached. -/
structure Advertises (written : Manifest) (environment : Environment) (manifest : Manifest)
    (topology : Topology) : Prop where
  settled : manifest = { written with edge := topology.edge }
  flags : ∃ tls certificate metrics, environment.Overrides "USE_TLS" written.edge.tls tls ∧
    environment.Overrides "GENERATE_TLS_CERTIFICATE" written.edge.generateCertificate certificate ∧
    environment.Overrides "NGINX_METRICS_ENABLED" written.edge.metrics metrics ∧
    topology.edge =
      { written.edge with
        tls := tls
        generateCertificate := certificate
        metrics := metrics }
  probes : ∀ service ∈ topology.services, service.role = .edgeProxy →
    service.probes.AskAt topology.edge.advertised
  /-- A proxy without probes of its own has one of each kind. -/
  derived : ∀ declared ∈ written.services, Role.read? declared.role = some .edgeProxy →
    declared.probes = .replicate none →
      ∃ service ∈ topology.services, service.name = declared.name ∧ service.role = .edgeProxy ∧
        ∀ kind, ∃ probe path, service.probes.get kind = some probe ∧
          probe.handler = .httpGet path topology.edge.advertised.2 topology.edge.advertised.1
  published : topology.edge.advertised.2 ∈ topology.edge.publishedPorts
  nonzero : ∀ port ∈ topology.edge.publishedPorts, port ≠ 0
  distinct : topology.edge.publishedPorts.Nodup
  /-- With the other choice on TLS, a written HTTP probe asks in the wrong place. -/
  refused : ∀ declared ∈ written.services, Role.read? declared.role = some .edgeProxy →
    ∀ kind probe target, declared.probes.get kind = some probe → probe.http = some target →
      ∃ other ∈ written.services, Role.read? other.role = some .edgeProxy ∧
        ∃ kind probe target, other.probes.get kind = some probe ∧ probe.http = some target ∧
          manifest.inverted.toTopology =
            .error (.ofCause (.topology (.probeMismatch other.name kind.name
              (EdgeSettings.schemePort manifest.inverted.edge.advertised)
              (EdgeSettings.schemePort topology.edge.advertised))))

/-- A stack that is accepted with the flags of an environment is reached where its proxies ask. -/
theorem advertises_of_toTopology {written : Manifest} {environment : Environment}
    (flagged : written.withFlags environment = .ok manifest)
    (described : manifest.toTopology = .ok topology) :
    Advertises written environment manifest topology := by
  obtain ⟨settings, applied, settled⟩ := bind_eq_ok_iff.1 flagged
  have manifest_eq := (pure_eq_ok_iff.1 settled).symm
  have services : manifest.services = written.services := by rw [manifest_eq]
  obtain ⟨_, -, built⟩ := toBlueprint_of_toTopology described
  have edge : topology.edge = manifest.edge := by rw [built]
  constructor
  case settled => rw [edge, manifest_eq]
  case flags =>
    rw [edge, manifest_eq]
    exact applyFlags_eq_ok_iff.1 applied
  case probes =>
    rw [edge]
    exact fun service member proxy => askAt_of_toTopology described member proxy
  case derived =>
    intro declared listed proxy unset
    rw [← services] at listed
    refine ⟨_, (mem_services_of_toTopology described).2 ⟨declared, listed, _, proxy, rfl⟩, rfl, rfl,
      fun kind => ?_⟩
    rw [edge, declared.probes_toService_of_none _ _ unset]
    exact manifest.edge.exists_httpGet_of_probes kind
  case published => exact topology.edge.advertised_mem_publishedPorts
  case nonzero => exact fun port published => topology.edge_sound.ne_zero published
  case distinct => exact topology.edge_sound.distinct
  case refused =>
    intro declared listed proxy kind probe target held asks
    rw [← services] at listed ⊢
    rw [edge]
    exact toTopology_inverted described listed proxy held asks

/-- A proxy with one written probe, beside one that leaves its probes to its settings. -/
def fronted : Manifest where
  name := "edge"
  readinessTimeoutSecs := 30
  secrets := .empty
  volumes := .empty
  edge := .standard
  services :=
    [{ ManifestService.ofRole "front" "edge_proxy" "nginx" with
       probes :=
         { startup := none
           liveness := some
             { ManifestProbe.standard with http := some ⟨"/nginx_health", 8443, .https⟩ }
           readiness := none } },
     ManifestService.ofRole "side" "proxy" "nginx"]

/-- An environment that asks for TLS. -/
def fronted.environment : Environment
  | "USE_TLS" => some " Yes"
  | _ => none

/-- The stack with TLS. -/
def fronted.secured : Manifest := (fronted.withFlags environment).toOption.get (by decide +kernel)

def fronted.stack : Topology := secured.toTopology.toOption.get (by decide +kernel)

theorem fronted_advertises :
    fronted.withFlags fronted.environment = .ok fronted.secured ∧
      fronted.secured.toTopology = .ok fronted.stack ∧
      Advertises fronted fronted.environment fronted.secured fronted.stack ∧
      fronted.stack.edge.advertised = (.https, 8443) := by
  have flagged : fronted.withFlags fronted.environment = .ok fronted.secured := eq_ok_get _
  have described : fronted.secured.toTopology = .ok fronted.stack := eq_ok_get _
  exact ⟨flagged, described, advertises_of_toTopology flagged described, by decide +kernel⟩

end Manifest

end Convoy
