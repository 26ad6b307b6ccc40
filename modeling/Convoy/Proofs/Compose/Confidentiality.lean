import Convoy.Proofs.Compose.Document

/-!
# What a known default can change in a document

Two topologies that only differ in the known defaults of their secrets have the same document for
production, or are refused for the same reason. For evaluation too, a default only shows in the
variables that are bound to its secret: with these blotted out, the documents are the same.
-/

namespace Convoy

open Outcome

/-- The secret without its known default. -/
def SecretSpec.bare (spec : SecretSpec) : SecretSpec := { spec with insecureDefault := none }

/-- Two topologies that only differ in the known defaults of their secrets. -/
structure Topology.SameButDefaults (first second : Topology) : Prop where
  name : first.name = second.name
  services : first.services = second.services
  volumes : first.volumes = second.volumes
  secrets : (first.secrets.map fun _ spec => spec.bare) =
    second.secrets.map fun _ spec => spec.bare
  edge : first.edge = second.edge

/-- Whether the service of a name binds a variable to one of some secrets. -/
def Topology.binds (topology : Topology) (secrets : String → Bool) (name variable_ : String) :
    Bool :=
  (topology.service? name).any fun service => (service.secrets.get? variable_).any secrets

namespace Compose

/-! ## Blotting out values -/

/-- Assignments with the values of some variables blotted out. -/
def blotted (hidden : String → Bool) (assignments : Dictionary String) : Dictionary String :=
  assignments.map fun variable_ value => if hidden variable_ then "" else value

/-- A container with the values of some variables blotted out. -/
def Container.redacted (hidden : String → Bool) (container : Container) : Container :=
  { container with environment := blotted hidden container.environment }

/-- A document with the values of some variables of its services blotted out. -/
def Document.redacted (hidden : String → String → Bool) (document : Document) : Document :=
  { document with
    services := document.services.map fun entry => (entry.1, entry.2.redacted (hidden entry.1)) }

theorem blotted_nothing (assignments : Dictionary String) :
    blotted (fun _ => false) assignments = assignments := by
  refine Dictionary.ext_get? fun variable_ => ?_
  rw [blotted, Dictionary.get?_map]
  exact Option.map_id'

theorem Container.redacted_nothing (container : Container) :
    container.redacted (fun _ => false) = container := by
  rw [redacted, blotted_nothing]

theorem Document.redacted_nothing (document : Document) :
    document.redacted (fun _ _ => false) = document := by
  simp [redacted, Container.redacted_nothing]

variable {first second : Topology} {profile : Profile} {service : Service}

/-! ## Variables -/

theorem map_bare_get? (same : first.SameButDefaults second) (secret : String) :
    (first.secrets.get? secret).map SecretSpec.bare =
      (second.secrets.get? secret).map SecretSpec.bare := by
  have entry := congrArg (Dictionary.get? · secret) same.secrets
  simpa only [Dictionary.get?_map] using entry

theorem environment_production (same : first.SameButDefaults second) (service : Service) :
    environment first .production service = environment second .production service := by
  refine Dictionary.ext_get? fun variable_ => ?_
  rw [get?_environment, get?_environment]
  congr 2
  funext secret
  -- A reference for production does not look at the known default.
  have references (topology : Topology) :
      (topology.secrets.get? secret).map (reference .production) =
        ((topology.secrets.get? secret).map SecretSpec.bare).map (reference .production) := by
    rw [Option.map_map]
    rfl
  rw [references first, map_bare_get? same, ← references second]

/-- What is bound to other secrets than those whose defaults differ has the same value. -/
theorem blotted_environment_eq (same : first.SameButDefaults second) {changed : String → Bool}
    (others : ∀ secret, changed secret = false →
      first.secrets.get? secret = second.secrets.get? secret)
    (profile : Profile) (service : Service) :
    blotted (fun variable_ => (service.secrets.get? variable_).any changed)
        (environment first profile service) =
      blotted (fun variable_ => (service.secrets.get? variable_).any changed)
        (environment second profile service) := by
  refine Dictionary.ext_get? fun variable_ => ?_
  rw [blotted, blotted, Dictionary.get?_map, Dictionary.get?_map, get?_environment,
    get?_environment]
  cases bound : service.secrets.get? variable_ with
  | none => rfl
  | some secret =>
    rw [Option.bind_some, Option.bind_some, Option.any_some]
    cases known : changed secret with
    | false => rw [others secret known]
    | true =>
      have declared := map_bare_get? same secret
      generalize first.secrets.get? secret = one at declared ⊢
      generalize second.secrets.get? secret = other at declared ⊢
      -- Both are declared or none is; the reference itself is blotted out.
      cases one <;> cases other
      · rfl
      · cases declared
      · cases declared
      · rfl

/-! ## Containers and documents -/

theorem service?_congr (services : first.services = second.services) (name : String) :
    first.service? name = second.service? name := by
  rw [Blueprint.service?, services]
  rfl

theorem gates_congr (services : first.services = second.services) (service : Service) :
    first.gates service = second.gates service := by
  unfold Topology.gates Topology.gate?
  simp only [service?_congr services]

theorem readiness_congr (services : first.services = second.services) :
    readiness first = readiness second := by
  funext dependency
  unfold readiness
  simp only [service?_congr services]

theorem sequence_congr (services : first.services = second.services) :
    first.sequence = second.sequence := by
  rw [Blueprint.sequence, Blueprint.waves, services]
  rfl

/-- With its variables blotted out, a container shows nothing of a default. -/
theorem map_container_eq (same : first.SameButDefaults second) {hidden : String → Bool}
    (assignments : blotted hidden (environment first profile service) =
      blotted hidden (environment second profile service)) :
    (container first profile service).map (Container.redacted hidden) =
      (container second profile service).map (Container.redacted hidden) := by
  simp only [container]
  rw [gates_congr same.services, readiness_congr same.services, same.edge]
  split
  · rfl
  · cases overflow? service <;> simp only [Except.map, Container.redacted, assignments]

/-- A document is what its containers are, one after another. -/
theorem ofTopology_eq_map (topology : Topology) (profile : Profile) :
    ofTopology topology profile =
      (topology.sequence.mapM fun service =>
        (container topology profile service).map (service.name, ·)).map fun services =>
          { name := topology.name
            services := services
            volumes := topology.volumes.map fun _ volume => volume.dataset } :=
  rfl

/-- With values blotted out, a document is what its containers are then. -/
theorem map_redacted_ofTopology (topology : Topology) (profile : Profile)
    (hidden : String → String → Bool) :
    (ofTopology topology profile).map (Document.redacted hidden) =
      ((topology.sequence.mapM fun service =>
        (container topology profile service).map (service.name, ·)).map
          (List.map fun entry => (entry.1, entry.2.redacted (hidden entry.1)))).map fun services =>
            { name := topology.name
              services := services
              volumes := topology.volumes.map fun _ volume => volume.dataset } := by
  rw [ofTopology_eq_map]
  generalize (topology.sequence.mapM fun service =>
    (container topology profile service).map (service.name, ·)) = outcome
  cases outcome <;> rfl

theorem map_ofTopology_eq (same : first.SameButDefaults second) {hidden : String → String → Bool}
    (containers : ∀ service ∈ first.services,
      (container first profile service).map (Container.redacted (hidden service.name)) =
        (container second profile service).map (Container.redacted (hidden service.name))) :
    (ofTopology first profile).map (Document.redacted hidden) =
      (ofTopology second profile).map (Document.redacted hidden) := by
  have named (topology : Topology) (service : Service) :
      ((container topology profile service).map (service.name, ·)).map
          (fun entry => (entry.1, entry.2.redacted (hidden entry.1))) =
        ((container topology profile service).map
          (Container.redacted (hidden service.name))).map (service.name, ·) := by
    cases container topology profile service <;> rfl
  rw [map_redacted_ofTopology, map_redacted_ofTopology, same.name, same.volumes,
    ← sequence_congr same.services]
  refine congrArg (Except.map _) (map_mapM_congr fun service member => ?_)
  rw [named, named, containers service (first.sequence_perm.mem_iff.1 member)]

/-! ## The whole -/

/-- Defaults do not show where they are not wanted: for production nowhere, and otherwise only in
the variables that are bound to their secrets. -/
structure Confidential (first second : Topology) : Prop where
  /-- The documents, or the reasons why there is none, are the same. -/
  production : ofTopology first .production = ofTopology second .production
  confined : ∀ profile changed,
    (∀ secret, changed secret = false →
      first.secrets.get? secret = second.secrets.get? secret) →
    (ofTopology first profile).map (Document.redacted (first.binds changed)) =
      (ofTopology second profile).map (Document.redacted (first.binds changed))

theorem map_redacted_nothing (outcome : Except Failure Document) :
    outcome.map (Document.redacted fun _ _ => false) = outcome := by
  cases outcome with
  | error cause => rfl
  | ok document => exact congrArg Except.ok document.redacted_nothing

/-- Topologies that only differ in known defaults have documents that keep them confidential. -/
theorem confidential_of_sameButDefaults (first second : Topology)
    (same : first.SameButDefaults second) : Confidential first second where
  production := by
    rw [← map_redacted_nothing (ofTopology first .production),
      ← map_redacted_nothing (ofTopology second .production)]
    refine map_ofTopology_eq same fun service _ => map_container_eq same ?_
    rw [environment_production same]
  confined profile changed others := by
    refine map_ofTopology_eq same fun service member => map_container_eq same ?_
    have found : first.service? service.name = some service :=
      Topology.service?_eq_some_iff.2 ⟨member, rfl⟩
    have bound : first.binds changed service.name =
        fun variable_ => (service.secrets.get? variable_).any changed := by
      funext variable_
      rw [Topology.binds, found, Option.any_some]
    rw [bound]
    exact blotted_environment_eq same others profile service

/-- An application with two secrets, one of which may have a known default. -/
def discreet (fallback : Option String) : Blueprint where
  name := "stack"
  services :=
    [{ name := "app"
       role := .appServer
       image := "app"
       command := ["run"]
       endpoint := none
       environment := .ofList [("PASSWORD", "literal"), ("MODE", "quiet")]
       secrets := .ofList [("PASSWORD", "database"), ("KEY", "key")]
       dependsOn := []
       probes := .none
       volumes := []
       replicas := 1
       readinessTimeout := .ofSeconds 30 }]
  volumes := .empty
  secrets := .ofList
    [⟨"database", "DATABASE_PASSWORD", fallback⟩, ⟨"key", "SIGNING_KEY", some "changeme"⟩]
  edge := .standard

def discreet.known : Topology := ⟨discreet (some "changeme"), by decide +kernel⟩

def discreet.unknown : Topology := ⟨discreet none, by decide +kernel⟩

theorem discreet_confidential :
    discreet.known.SameButDefaults discreet.unknown ∧
      Confidential discreet.known discreet.unknown ∧
      ofTopology discreet.known .evaluation ≠ ofTopology discreet.unknown .evaluation := by
  have same : discreet.known.SameButDefaults discreet.unknown :=
    ⟨rfl, rfl, rfl, by decide +kernel, rfl⟩
  exact ⟨same, confidential_of_sameButDefaults _ _ same, by decide +kernel⟩

end Compose

end Convoy
