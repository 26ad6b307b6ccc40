import Convoy.Proofs.Compose.Document

/-!
# Dependencies of containers

A container waits for the services that its service depends on, and a document has room for one
condition on each of them. Of several entries of a service on one dependency the last therefore
decides. What the others ask for is kept exactly if completion, where it is asked for, is asked for
last.
-/

namespace Convoy

/-- Of the entries of a service on another one, the last. -/
def Service.lastOn? (service : Service) (name : String) : Option Dependency :=
  (service.dependsOn.filter (·.service == name)).getLast?

namespace Service

variable {service : Service} {name : String} {dependency : Dependency}

theorem lastOn?_eq_some (last : service.lastOn? name = some dependency) :
    dependency ∈ service.dependsOn ∧ dependency.service = name := by
  have member := List.mem_of_getLast? last
  simpa using member

/-- A service that has an entry on another one has a last one. -/
theorem exists_lastOn? (listed : dependency ∈ service.dependsOn) :
    ∃ last, service.lastOn? dependency.service = some last := by
  apply Option.ne_none_iff_exists'.1
  rw [lastOn?, Ne, List.getLast?_eq_none_iff]
  exact List.ne_nil_of_mem (List.mem_filter.2 ⟨listed, beq_self_eq_true _⟩)

end Service

namespace Compose

variable {topology : Topology} {profile : Profile} {document : Document} {service : Service}

/-- A condition on a dependency, by its name, does justice to all entries of a service on it. -/
structure Enforces (topology : Topology) (service : Service) (name condition : String) : Prop where
  completed : ⟨name, .completed⟩ ∈ service.dependsOn →
    condition = "service_completed_successfully"
  reachable : ⟨name, .reachable⟩ ∈ service.dependsOn → ⟨name, .completed⟩ ∉ service.dependsOn →
    ∃ target, topology.service? name = some target ∧
      condition =
        if target.probes.readiness.isSome || target.probes.liveness.isSome then "service_healthy"
        else "service_started"

/-- The last entry on a dependency decides on what condition a container waits for it. -/
theorem get?_dependsOn
    {made : Container} (given : container topology profile service = .ok made) (name : String) :
    made.dependsOn.get? name = (service.lastOn? name).map (readiness topology) := by
  rw [(shows_of_container given).dependsOn, Dictionary.get?_ofList, ← List.map_reverse]
  have found : ∀ entries : List Dependency,
      (entries.map fun entry => (entry.service, readiness topology entry)).lookup name =
        (entries.find? (·.service == name)).map (readiness topology) := by
    intro entries
    induction entries with
    | nil => rfl
    | cons entry rest induction =>
      rw [List.map_cons, Dictionary.lookup_cons_ite, List.find?_cons]
      by_cases same : entry.service = name
      · simp [same]
      · rw [if_neg (Ne.symm same), beq_eq_false_iff_ne.2 same, induction]
  rw [found, ← List.head?_filter, List.filter_reverse, List.head?_reverse, Service.lastOn?]

/-- What an entry on a service asks of it. -/
theorem readiness_eq
    {dependency : Dependency} {target : Service}
    (known : topology.service? dependency.service = some target) :
    readiness topology dependency =
      match dependency.condition with
      | .completed => .completedSuccessfully
      | .reachable => if (healthProbe? target).isSome then .healthy else .started := by
  unfold readiness
  cases dependency.condition with
  | completed => rfl
  | reachable => rw [known, Option.any_some]

/-- A container waits for the dependencies of its service and for nothing else, each time on the
condition of the last entry. All entries are kept exactly if, of the entries on a dependency of
which one asks for completion, the last one does. -/
theorem dependencies_kept_iff
    (rendered : ofTopology topology profile = .ok document)
    (declared : service ∈ topology.services) :
    ∃ made, document.services.lookup service.name = some made ∧
      (∀ name, made.dependsOn.get? name = (service.lastOn? name).map (readiness topology)) ∧
      ((∀ dependency ∈ service.dependsOn, ∃ condition,
          made.dependsOn.get? dependency.service = some condition ∧
            Enforces topology service dependency.service condition.name) ↔
        ∀ name, ⟨name, .completed⟩ ∈ service.dependsOn →
          service.lastOn? name = some ⟨name, .completed⟩) := by
  obtain ⟨made, given, found⟩ := exists_container rendered declared
  refine ⟨made, found, get?_dependsOn given, ?_⟩
  simp only [get?_dependsOn given]
  constructor
  · intro kept name completed
    obtain ⟨condition, waits, enforces⟩ := kept _ completed
    obtain ⟨⟨_, asks⟩, isLast, rfl⟩ := Option.map_eq_some_iff.1 waits
    obtain ⟨listed, rfl⟩ := Service.lastOn?_eq_some isLast
    obtain ⟨-, target, known, -⟩ := Topology.dependency_fits declared listed
    have asked := enforces.completed completed
    cases asks with
    | completed => exact isLast
    | reachable =>
      rw [readiness_eq known] at asked
      dsimp only at asked
      split at asked <;> exact absurd asked (by decide)
  · intro latest dependency listed
    obtain ⟨last, isLast⟩ := Service.exists_lastOn? listed
    obtain ⟨lastListed, named⟩ := Service.lastOn?_eq_some isLast
    refine ⟨readiness topology last, by rw [isLast]; rfl, ?_, ?_⟩
    · intro completed
      cases isLast.symm.trans (latest _ completed)
      rfl
    · intro _ uncompleted
      obtain ⟨-, target, known, -⟩ := Topology.dependency_fits declared lastListed
      refine ⟨target, named ▸ known, ?_⟩
      rw [readiness_eq known, healthProbe?, Option.isSome_or]
      rcases last with ⟨_, asks⟩
      cases asks with
      | completed => exact absurd (named ▸ lastListed) uncompleted
      | reachable =>
        dsimp only
        split <;> rfl

/-! ## Two entries on one dependency -/

/-- An application with several entries on its setup. -/
def impatient.app (conditions : List Condition) : Service where
  name := "app"
  role := .worker
  image := "app"
  command := ["run"]
  endpoint := none
  environment := .empty
  secrets := .empty
  dependsOn := conditions.map (⟨"setup", ·⟩)
  probes := .none
  volumes := []
  replicas := 1
  readinessTimeout := .ofSeconds 30

/-- The application with its setup, which can be reached while it runs. -/
def impatient (conditions : List Condition) : Blueprint where
  name := "stack"
  services :=
    [{ impatient.app [] with
       name := "setup"
       role := .initializer
       image := "setup"
       endpoint := some ⟨"setup", 80⟩ },
     impatient.app conditions]
  volumes := .empty
  secrets := .empty
  edge := .standard

/-- The application asks for completion last. -/
def patient : Topology := ⟨impatient [.reachable, .completed], by decide +kernel⟩

theorem patient_keeps_dependencies :
    ∃ document made, ofTopology patient .evaluation = .ok document ∧
      document.services.lookup "app" = some made ∧
      ∀ condition ∈ [Condition.reachable, .completed], ∃ readiness,
        made.dependsOn.get? "setup" = some readiness ∧
          Enforces patient (impatient.app [.reachable, .completed]) "setup" readiness.name := by
  obtain ⟨document, rendered⟩ : ∃ document, ofTopology patient .evaluation = .ok document :=
    exists_ofTopology_iff.2 (by decide +kernel)
  have declared : impatient.app [.reachable, .completed] ∈ patient.services :=
    List.mem_cons_of_mem _ List.mem_cons_self
  obtain ⟨made, found, -, kept⟩ := dependencies_kept_iff rendered declared
  have each := kept.2 fun name completed => by
    obtain rfl : name = "setup" := by simpa [impatient.app] using completed
    decide +kernel
  refine ⟨document, made, rendered, found, fun condition listed => ?_⟩
  exact each ⟨"setup", condition⟩ (List.mem_map_of_mem listed)

/-- The application asks for completion first. -/
def hasty : Topology := ⟨impatient [.completed, .reachable], by decide +kernel⟩

theorem hasty_loses_completion :
    ∃ document made, ofTopology hasty .evaluation = .ok document ∧
      document.services.lookup "app" = some made ∧
      ¬ ∀ dependency ∈ (impatient.app [.completed, .reachable]).dependsOn, ∃ readiness,
        made.dependsOn.get? dependency.service = some readiness ∧
          Enforces hasty (impatient.app [.completed, .reachable]) dependency.service
            readiness.name := by
  obtain ⟨document, rendered⟩ : ∃ document, ofTopology hasty .evaluation = .ok document :=
    exists_ofTopology_iff.2 (by decide +kernel)
  have declared : impatient.app [.completed, .reachable] ∈ hasty.services :=
    List.mem_cons_of_mem _ List.mem_cons_self
  obtain ⟨made, given, found⟩ := exists_container rendered declared
  refine ⟨document, made, rendered, found, fun kept => ?_⟩
  obtain ⟨readiness, waits, enforces⟩ := kept ⟨"setup", .completed⟩ List.mem_cons_self
  have started : made.dependsOn.get? "setup" = some .started := by
    rw [get?_dependsOn given]
    decide +kernel
  cases started.symm.trans waits
  exact absurd (enforces.completed List.mem_cons_self) (by decide)

end Compose

end Convoy
