import Convoy.Proofs.Compose.Dependencies
import Convoy.Proofs.Compose.Entrypoint
import Convoy.Proofs.Compose.Mounts

/-!
# Documents are complete and closed

Which topologies have a document, and what its parts owe to each other: each service is there once
and comes after those it depends on, whatever a container waits for can come about, and every volume
that a container mounts is listed. A container names the volumes that it mounts in the short form,
which has no place for every name: an entry names the volume of its mount exactly if the name is not
empty and has no colon.
-/

namespace Convoy.Compose

variable {topology : Topology} {profile : Profile} {document : Document} {service : Service}

/-- A document stands behind an entry for a mount. -/
structure Document.Backs (document : Document) (entry : String) (mount : Mount) : Prop where
  /-- The entry names the volume exactly if the short form has a place for this name. -/
  named : Mount.source? entry = some mount.volume ↔ Mount.IsPart mount.volume
  listed : ∃ dataset, document.volumes.get? mount.volume = some dataset

/-- A document has all that a topology declares, and its parts refer only to each other. -/
structure Document.Whole (topology : Topology) (document : Document) : Prop where
  distinct : (document.services.map (·.1)).Nodup
  listed : ∀ name, name ∈ document.services.map (·.1) ↔
    ∃ service ∈ topology.services, service.name = name
  ordered : ∀ service ∈ topology.services, ∀ front made back,
    document.services = front ++ (service.name, made) :: back →
      ∀ dependency ∈ service.dependsOn, dependency.service ∈ front.map (·.1)
  dependencies : ∀ name made, (name, made) ∈ document.services →
    ∀ key condition, made.dependsOn.get? key = some condition →
      ∃ target, document.services.lookup key = some target ∧
        (condition = .healthy → target.healthcheck ≠ none) ∧
        (condition = .completedSuccessfully → target.restart = .never)
  mounts : ∀ service ∈ topology.services, ∃ made,
    document.services.lookup service.name = some made ∧
      List.Forall₂ document.Backs made.volumes service.volumes
  volumes : ∀ name dataset, document.volumes.get? name = some dataset ↔
    ∃ volume, topology.volumes.get? name = some volume ∧ volume.dataset = dataset
  commands : ∀ name made, (name, made) ∈ document.services →
    made.entrypoint ≠ [] → made.command ≠ []

/-- A service that has to reach others is the one that has gates. -/
theorem gates_ne_nil_iff (declared : service ∈ topology.services) :
    topology.gates service ≠ [] ↔
      ∃ dependency ∈ service.dependsOn, dependency.condition = .reachable := by
  rw [Ne, Topology.gates_eq_nil_iff declared]
  push Not
  rfl

/-- The containers come in an order in which nothing comes before what it depends on. -/
theorem ordered_of_ofTopology
    (rendered : ofTopology topology profile = .ok document)
    (declared : service ∈ topology.services)
    {front back : List (String × Container)} {made : Container}
    (split : document.services = front ++ (service.name, made) :: back) :
    ∀ dependency ∈ service.dependsOn, dependency.service ∈ front.map (·.1) := by
  have names := names_of_ofTopology rendered
  rw [split, List.map_append, List.map_cons, eq_comm, List.map_eq_append_iff] at names
  obtain ⟨before, later, sequence, beforeNames, laterNames⟩ := names
  obtain ⟨other, after, rfl, named, -⟩ := List.map_eq_cons_iff.1 laterNames
  have placed : other ∈ topology.sequence := by
    rw [sequence]
    exact List.mem_append_right _ List.mem_cons_self
  have same : other = service := List.inj_on_of_nodup_map topology.names_nodup
    (topology.sequence_perm.mem_iff.1 placed) declared named
  subst same
  rw [← beforeNames]
  exact topology.mem_of_sequence_eq sequence

/-- What a container waits for can come about. -/
theorem met_of_waits
    (rendered : ofTopology topology profile = .ok document)
    (declared : service ∈ topology.services)
    {made : Container} (given : container topology profile service = .ok made)
    {key : String} {condition : Readiness} (waits : made.dependsOn.get? key = some condition) :
    ∃ target, document.services.lookup key = some target ∧
      (condition = .healthy → target.healthcheck ≠ none) ∧
      (condition = .completedSuccessfully → target.restart = .never) := by
  rw [get?_dependsOn given] at waits
  obtain ⟨last, isLast, rfl⟩ := Option.map_eq_some_iff.1 waits
  obtain ⟨listed, rfl⟩ := Service.lastOn?_eq_some isLast
  obtain ⟨-, target, known, -, oneShot⟩ := Topology.dependency_fits declared listed
  obtain ⟨targetDeclared, named⟩ := Topology.service?_eq_some_iff.1 known
  obtain ⟨other, otherGiven, found⟩ := exists_container rendered targetDeclared
  have shows := shows_of_container otherGiven
  refine ⟨other, named ▸ found, ?_⟩
  rw [readiness_eq known, shows.healthcheck, shows.restart, healthcheck?]
  rcases last with ⟨_, asks⟩
  cases asks with
  | completed =>
    refine ⟨by simp, fun _ => ?_⟩
    rw [if_pos (oneShot rfl)]
  | reachable =>
    cases healthProbe? target <;> simp

/-- A container has an entry for each mount, one for one, that the document stands behind. -/
theorem backs_of_container
    (rendered : ofTopology topology profile = .ok document)
    (declared : service ∈ topology.services)
    {made : Container} (given : container topology profile service = .ok made) :
    List.Forall₂ document.Backs made.volumes service.volumes := by
  rw [(shows_of_container given).volumes, List.forall₂_map_left_iff, List.forall₂_same]
  intro mount listed
  obtain ⟨volume, known⟩ := Topology.volume_declared declared listed
  refine ⟨Mount.source?_mountText_iff, volume.dataset, ?_⟩
  rw [volumes_of_ofTopology rendered, Dictionary.get?_map, known]
  rfl

/-- A topology has a document exactly if every service that has to reach others has a command, and
every start period can be represented. Its document is complete and closed. -/
theorem complete_and_closed (topology : Topology) (profile : Profile) :
    ((∃ document, ofTopology topology profile = .ok document) ↔
      ∀ service ∈ topology.services,
        ((∃ dependency ∈ service.dependsOn, dependency.condition = .reachable) →
          service.command ≠ []) ∧ Timely service) ∧
    ∀ document, ofTopology topology profile = .ok document → document.Whole topology := by
  constructor
  · rw [exists_ofTopology_iff]
    exact forall₂_congr fun service declared => by rw [gates_ne_nil_iff declared]
  · intro document rendered
    constructor
    case distinct => exact nodup_of_ofTopology rendered
    case listed =>
      intro name
      rw [names_of_ofTopology rendered, List.mem_map]
      simp only [topology.sequence_perm.mem_iff]
    case ordered =>
      intro service declared front made back split
      exact ordered_of_ofTopology rendered declared split
    case dependencies =>
      intro name made member key condition waits
      obtain ⟨service, declared, -, given⟩ := (mem_services_iff rendered).1 member
      exact met_of_waits rendered declared given waits
    case mounts =>
      intro service declared
      obtain ⟨made, given, found⟩ := exists_container rendered declared
      exact ⟨made, found, backs_of_container rendered declared given⟩
    case volumes =>
      intro name dataset
      rw [volumes_of_ofTopology rendered, Dictionary.get?_map, Option.map_eq_some_iff]
    case commands =>
      intro name made member waits
      obtain ⟨service, declared, -, given⟩ := (mem_services_iff rendered).1 member
      rw [(fields_of_container given).2, entrypoint_gates] at waits
      rw [(shows_of_container given).command, Ne, List.map_eq_nil_iff]
      refine (exists_container_iff.1 ⟨made, given⟩).1 fun free => ?_
      exact waits (if_pos free)

/-- An application on a database and its setup, declared before them. -/
def furnished : Topology where
  name := "stack"
  services :=
    [{ impatient.app [.completed] with
       dependsOn := [⟨"database", .reachable⟩, ⟨"setup", .completed⟩]
       volumes := [⟨"media", "/media", true⟩] },
     { impatient.app [] with
       name := "setup"
       role := .initializer
       dependsOn := [⟨"database", .reachable⟩] },
     { impatient.app [] with
       name := "database"
       role := .store
       command := []
       endpoint := some ⟨"database", 5432⟩
       probes := { ProbeSet.none with readiness := some (.ofHandler (.tcpSocket 5432)) }
       volumes := [⟨"data", "/data", false⟩] }]
  volumes := .ofList [("data", ⟨"data", "rows"⟩), ("media", ⟨"media", "uploads"⟩)]
  secrets := .empty
  edge := .standard
  fits := by decide +kernel

theorem furnished_whole :
    ∃ document, ofTopology furnished .production = .ok document ∧ document.Whole furnished := by
  obtain ⟨document, rendered⟩ :=
    (complete_and_closed furnished .production).1.2 (by decide +kernel)
  exact ⟨document, rendered, (complete_and_closed furnished .production).2 document rendered⟩

/-- An application with a mount of a volume that has a colon in its name. -/
def severed : Manifest :=
  { storing [⟨"da:ta", "/srv", false⟩] with volumes := .ofList [("da:ta", "files")] }

def severed.accepted : Topology := severed.toTopology.toOption.get (by decide +kernel)

theorem severed_names_unlisted :
    ∃ document made, severed.toTopology = .ok severed.accepted ∧
      ofTopology severed.accepted .evaluation = .ok document ∧
      document.services.lookup "app" = some made ∧
      made.volumes = ["da:ta:/srv"] ∧
      Mount.source? "da:ta:/srv" = some "da" ∧ document.volumes.get? "da" = none := by
  have described : severed.toTopology = .ok severed.accepted := Outcome.eq_ok_get _
  obtain ⟨document, rendered⟩ :
      ∃ document, ofTopology severed.accepted .evaluation = .ok document :=
    exists_ofTopology_iff.2 (by decide +kernel)
  have declared : storing.app [⟨"da:ta", "/srv", false⟩] ∈ severed.accepted.services := by
    decide +kernel
  obtain ⟨made, given, found⟩ := exists_container rendered declared
  refine ⟨document, made, described, rendered, found, ?_, by cbv, ?_⟩
  · rw [(shows_of_container given).volumes]
    decide +kernel
  · rw [volumes_of_ofTopology rendered, Dictionary.get?_map]
    decide +kernel

end Convoy.Compose
