import Convoy.Proofs.Topology
import Mathlib.Order.WellFoundedSet

/-!
# Waves and cycles

The waves take exactly the services from which dependencies do not lead to a cycle. So every service
is placed exactly if no service requires itself, and otherwise the error names those that are left.
That dependencies can be followed only finitely often is what arguments about the order of services
rest on.
-/

namespace Convoy

/-- Among some services, one of the first name lists the second name as a dependency. -/
def Service.Lists (services : List Service) (name other : String) : Prop :=
  ∃ service ∈ services, service.name = name ∧
    ∃ dependency ∈ service.dependsOn, dependency.service = other

/-- Whatever the services depend on is one of them. -/
def Service.Closed (services : List Service) : Prop :=
  ∀ service ∈ services, ∀ dependency ∈ service.dependsOn,
    dependency.service ∈ services.map (·.name)

/-- Dependencies can be followed from a name only finitely often. -/
def Service.Grounded (services : List Service) : String → Prop :=
  Acc fun other name => Service.Lists services name other

/-- Dependencies lead from a name to one that leads back to itself. -/
def Service.ReachesCycle (services : List Service) (name : String) : Prop :=
  ∃ other, Relation.ReflTransGen (Service.Lists services) name other ∧
    Relation.TransGen (Service.Lists services) other other

namespace Service

variable {services : List Service} {name other : String}

theorem Lists.mem_names (closed : Closed services) (lists : Lists services name other) :
    other ∈ services.map (·.name) := by
  obtain ⟨service, member, -, dependency, listed, rfl⟩ := lists
  exact closed service member dependency listed

/-- A path to a cycle goes on. -/
theorem ReachesCycle.next (reaches : ReachesCycle services name) :
    ∃ other, Lists services name other ∧ ReachesCycle services other := by
  obtain ⟨last, path, cycle⟩ := reaches
  obtain ⟨other, lists, back⟩ := Relation.TransGen.head'_iff.1 (.trans_right path cycle)
  exact ⟨other, lists, last, back, cycle⟩

theorem ReachesCycle.head (reaches : ReachesCycle services other)
    (lists : Lists services name other) : ReachesCycle services name := by
  obtain ⟨last, path, cycle⟩ := reaches
  exact ⟨last, path.head lists, cycle⟩

/-- There are only finitely many services, so dependencies can only be followed without an end on a
cycle. -/
theorem grounded_iff (closed : Closed services) :
    Grounded services name ↔ ¬ ReachesCycle services name := by
  constructor
  · intro grounded
    induction grounded with
    | intro name _ induction =>
      intro reaches
      obtain ⟨other, lists, again⟩ := reaches.next
      exact induction other lists again
  · -- Among names that lead to no cycle, to be required by one another is a strict order.
    let below : String → String → Prop := fun other name =>
      Relation.TransGen (Lists services) name other ∧ ¬ ReachesCycle services name
    have order : IsStrictOrder String below :=
      { irrefl := fun name cyclic => cyclic.2 ⟨name, .refl, cyclic.1⟩
        trans := fun _ _ _ first second => ⟨second.1.trans first.1, second.2⟩ }
    have wellFounded := (List.finite_toSet (services.map (·.name))).wellFoundedOn (r := below)
    have known : ∀ name ∈ services.map (·.name), ¬ ReachesCycle services name →
        Grounded services name := by
      intro name listed
      apply wellFounded.induction listed
      intro name _ induction endless
      constructor
      intro other lists
      exact induction other (lists.mem_names closed) ⟨.single lists, endless⟩
        fun reaches => endless (reaches.head lists)
    intro endless
    constructor
    intro other lists
    exact known other (lists.mem_names closed) fun reaches => endless (reaches.head lists)

end Service

namespace Blueprint

variable {services waiting : List Service} {placed : List String}

theorem isReady_iff {service : Service} :
    isReady placed service = true ↔
      ∀ dependency ∈ service.dependsOn, dependency.service ∈ placed := by
  simp [isReady]

/-- A wave takes services from those that wait, and the next waves take from those it leaves. -/
theorem ready_append_delayed_perm (placed : List String) (waiting : List Service) :
    (readyAmong placed waiting ++ delayedAmong placed waiting).Perm waiting :=
  List.filter_append_perm (isReady placed) waiting

/-- The waves take some services and leave the others; those that are left are not ready even when
all the others have been placed. -/
theorem exists_stuck (placed : List String) (waiting : List Service) :
    ∃ stuck, ((wavesFrom placed waiting).flatten ++ stuck).Perm waiting ∧
      ∀ service ∈ stuck,
        isReady (placed ++ (wavesFrom placed waiting).flatten.map (·.name)) service = false := by
  fun_induction wavesFrom placed waiting with
  | case1 placed waiting none =>
    refine ⟨waiting, List.Perm.refl _, ?_⟩
    intro service member
    simpa using List.filter_eq_nil_iff.1 none service member
  | case2 placed waiting some induction =>
    rcases induction with ⟨stuck, split, late⟩
    refine ⟨stuck, ?_, ?_⟩
    · rw [List.flatten_cons, List.append_assoc]
      exact (split.append_left _).trans (ready_append_delayed_perm placed waiting)
    · intro service member
      rw [List.flatten_cons, List.map_append, ← List.append_assoc]
      exact late service member

/-- The dependencies of a service in the waves come before it there, or were placed before. -/
theorem mem_of_waves_eq
    {front back : List Service} {service : Service}
    (split : (wavesFrom placed waiting).flatten = front ++ service :: back) :
    ∀ dependency ∈ service.dependsOn, dependency.service ∈ placed ++ front.map (·.name) := by
  fun_induction wavesFrom placed waiting generalizing front with
  | case1 placed waiting none => simp at split
  | case2 placed waiting some induction =>
    intro dependency listed
    rw [List.flatten_cons] at split
    rcases List.append_eq_append_iff.1 split with ⟨middle, rfl, later⟩ | ⟨middle, now, later⟩
    · rw [List.map_append, ← List.append_assoc]
      exact induction later dependency listed
    · cases middle with
      | nil =>
        rw [List.append_nil] at now
        rw [← now]
        simpa using @induction [] later.symm dependency listed
      | cons first rest =>
        obtain rfl := (List.cons.inj later).1
        have ready := (List.mem_filter.1 (now ▸ List.mem_append_right _ List.mem_cons_self)).2
        exact List.mem_append_left _ (isReady_iff.1 ready dependency listed)

/-- Whatever a wave takes has its dependencies among the names placed before. -/
theorem grounded_of_mem_waves
    (distinct : (services.map (·.name)).Nodup) (known : waiting ⊆ services)
    (grounded : ∀ name ∈ placed, Service.Grounded services name) :
    ∀ service ∈ (wavesFrom placed waiting).flatten, Service.Grounded services service.name := by
  fun_induction wavesFrom placed waiting with
  | case1 placed waiting none => simp
  | case2 placed waiting some induction =>
    have ready : ∀ service ∈ readyAmong placed waiting,
        Service.Grounded services service.name := by
      intro service member
      rcases List.mem_filter.1 member with ⟨waits, isReady⟩
      constructor
      rintro other ⟨same, sameMember, named, dependency, listed, rfl⟩
      have equal := List.inj_on_of_nodup_map distinct sameMember (known waits) named
      subst equal
      exact grounded _ (isReady_iff.1 isReady dependency listed)
    intro service member
    rw [List.flatten_cons] at member
    rcases List.mem_append.1 member with now | later
    · exact ready service now
    · refine induction ?_ ?_ service later
      · exact fun other delayed => known (List.mem_of_mem_filter delayed)
      · intro name member
        rcases List.mem_append.1 member with before | taken
        · exact grounded name before
        · rcases List.mem_map.1 taken with ⟨other, otherReady, rfl⟩
          exact ready other otherReady

variable {blueprint : Blueprint}

/-- The waves place exactly the services from which dependencies end. -/
theorem mem_sequence_iff
    (distinct : (blueprint.services.map (·.name)).Nodup)
    (closed : Service.Closed blueprint.services)
    {service : Service} (member : service ∈ blueprint.services) :
    service ∈ blueprint.sequence ↔ Service.Grounded blueprint.services service.name := by
  constructor
  · exact grounded_of_mem_waves distinct (List.Subset.refl _) (by simp) service
  · intro grounded
    rcases exists_stuck [] blueprint.services with ⟨stuck, split, late⟩
    -- The induction is on how long dependencies can be followed.
    generalize named : service.name = name at grounded
    induction grounded generalizing service with
    | intro name _ induction =>
      rcases List.mem_append.1 (split.mem_iff.2 member) with placed | isStuck
      · exact placed
      · have ready : isReady ([] ++ blueprint.sequence.map (·.name)) service = true := by
          rw [isReady_iff]
          intro dependency listed
          rcases List.mem_map.1 (closed service member dependency listed) with
            ⟨target, targetMember, targetNamed⟩
          rw [List.nil_append, ← targetNamed]
          apply List.mem_map_of_mem
          exact induction _ ⟨service, member, named, dependency, listed, rfl⟩ targetMember
            targetNamed
        have delayed := late service isStuck
        rw [show (wavesFrom [] blueprint.services).flatten = blueprint.sequence from rfl, ready]
          at delayed
        cases delayed

/-- The waves take nothing but services of the blueprint. -/
theorem sequence_subset (blueprint : Blueprint) : blueprint.sequence ⊆ blueprint.services := by
  rcases exists_stuck [] blueprint.services with ⟨stuck, split, -⟩
  intro service member
  exact split.mem_iff.1 (List.mem_append_left stuck member)

/-- The names that no wave holds are those from which dependencies lead to a cycle. -/
theorem mem_unplaced_iff
    (distinct : (blueprint.services.map (·.name)).Nodup)
    (closed : Service.Closed blueprint.services) {name : String} :
    name ∈ blueprint.unplaced ↔ Service.ReachesCycle blueprint.services name := by
  have placed : ∀ service ∈ blueprint.services,
      (service.name ∈ blueprint.sequence.map (·.name) ↔
        ¬ Service.ReachesCycle blueprint.services service.name) := by
    intro service member
    rw [← Service.grounded_iff closed, ← mem_sequence_iff distinct closed member]
    constructor
    · intro named
      rcases List.mem_map.1 named with ⟨other, otherMember, same⟩
      have known := blueprint.sequence_subset otherMember
      rwa [← List.inj_on_of_nodup_map distinct known member same]
    · exact List.mem_map_of_mem
  have listed : name ∈ blueprint.unplaced ↔
      name ∈ blueprint.services.map (·.name) ∧ name ∉ blueprint.sequence.map (·.name) := by
    simp [unplaced]
  rw [listed]
  constructor
  · rintro ⟨known, unplaced⟩
    rcases List.mem_map.1 known with ⟨service, member, rfl⟩
    rwa [placed service member, not_not] at unplaced
  · intro reaches
    obtain ⟨-, ⟨service, member, rfl, -⟩, -⟩ := reaches.next
    exact ⟨List.mem_map_of_mem member, fun named => (placed service member).1 named reaches⟩

/-- Every service is placed exactly if no service requires itself. -/
theorem unplaced_eq_nil_iff
    (distinct : (blueprint.services.map (·.name)).Nodup)
    (closed : Service.Closed blueprint.services) :
    blueprint.unplaced = [] ↔
      ∀ name, ¬ Relation.TransGen (Service.Lists blueprint.services) name name := by
  rw [List.eq_nil_iff_forall_not_mem]
  simp only [mem_unplaced_iff distinct closed]
  constructor
  · exact fun none name cycle => none name ⟨name, .refl, cycle⟩
  · exact fun acyclic name ⟨other, _, cycle⟩ => acyclic other cycle

/-! ## The error about cycles -/

/-- Whether a blueprint passes every check but the last one, which is about cycles. -/
structure PartsFit (blueprint : Blueprint) : Prop where
  names : duplicate? [] blueprint.services = none
  services : ∀ service ∈ blueprint.services, blueprint.serviceError? service = none
  datasets : blueprint.sharedDataset? = none
  edge : blueprint.edge.check = .ok ()

namespace PartsFit

variable (fit : blueprint.PartsFit)

include fit

theorem names_nodup : (blueprint.services.map (·.name)).Nodup :=
  (duplicate?_eq_none_iff.1 fit.names).1

theorem closed : Service.Closed blueprint.services := by
  intro service member dependency listed
  have fine := dependencyError?_of_serviceError? (fit.services service member) listed
  obtain ⟨-, target, found, -⟩ := dependencyError?_eq_none_iff.1 fine
  obtain ⟨targetMember, named⟩ := (service?_eq_some_iff_mem fit.names_nodup).1 found
  exact List.mem_map.2 ⟨target, targetMember, named⟩

/-- After the other checks, the error about cycles names what no wave holds. -/
theorem check_eq_cycle_iff {names : List String} :
    blueprint.check = .error (.cycle names) ↔ blueprint.unplaced = names ∧ names ≠ [] := by
  have services := List.findSome?_eq_none_iff.2 fit.services
  unfold check
  rw [fit.names, services, fit.datasets, fit.edge]
  cases blueprint.unplaced with
  | nil =>
    simp only [bind, Except.bind, pure, Except.pure, reduceCtorEq, false_iff, not_and, not_not]
    exact Eq.symm
  | cons first rest =>
    simp only [bind, Except.bind, throw, throwThe, MonadExceptOf.throw, Except.error.injEq,
      TopologyError.cycle.injEq]
    exact ⟨fun same => ⟨same, same ▸ List.cons_ne_nil _ _⟩, And.left⟩

end PartsFit

/-- What the error about cycles has to do with the cycles of a blueprint. -/
structure CyclesReported (blueprint : Blueprint) : Prop where
  reported_iff : (∃ names, Topology.ofBlueprint blueprint = .error (.cycle names)) ↔
    ∃ name, Relation.TransGen (Service.Lists blueprint.services) name name
  ordered : ∀ names, Topology.ofBlueprint blueprint = .error (.cycle names) →
    names.Sublist (blueprint.services.map (·.name))
  mem_iff : ∀ names, Topology.ofBlueprint blueprint = .error (.cycle names) →
    ∀ name, name ∈ names ↔
      name ∈ blueprint.services.map (·.name) ∧ Service.ReachesCycle blueprint.services name

theorem ofBlueprint_eq_error_iff {cause : TopologyError} :
    Topology.ofBlueprint blueprint = .error cause ↔ blueprint.check = .error cause := by
  unfold Topology.ofBlueprint
  split
  · rename_i failed
    rw [failed, Except.error.injEq, Except.error.injEq]
  · rename_i passes
    constructor
    · intro failed
      cases failed
    · intro failed
      rw [passes] at failed
      cases failed

theorem PartsFit.cyclesReported (fit : blueprint.PartsFit) : blueprint.CyclesReported := by
  constructor
  case reported_iff =>
    simp only [ofBlueprint_eq_error_iff, fit.check_eq_cycle_iff, exists_eq_left']
    rw [Ne, unplaced_eq_nil_iff fit.names_nodup fit.closed, not_forall_not]
  case ordered =>
    intro names failed
    obtain ⟨rfl, -⟩ := fit.check_eq_cycle_iff.1 (ofBlueprint_eq_error_iff.1 failed)
    exact List.filter_sublist
  case mem_iff =>
    intro names failed name
    obtain ⟨rfl, -⟩ := fit.check_eq_cycle_iff.1 (ofBlueprint_eq_error_iff.1 failed)
    refine ⟨fun unplaced => ⟨List.mem_of_mem_filter unplaced, ?_⟩, fun reaches => ?_⟩
    · exact (mem_unplaced_iff fit.names_nodup fit.closed).1 unplaced
    · exact (mem_unplaced_iff fit.names_nodup fit.closed).2 reaches.2

end Blueprint

namespace Topology

variable (topology : Topology)

theorem partsFit : topology.PartsFit := by
  obtain ⟨names, services, datasets, edge, -⟩ := (Blueprint.check_eq_ok_iff _).1 topology.fits
  exact ⟨names, List.findSome?_eq_none_iff.1 services, datasets, edge⟩

theorem closed : Service.Closed topology.services := topology.partsFit.closed

/-- Dependencies can be followed only finitely often. -/
theorem grounded (name : String) : Service.Grounded topology.services name := by
  have placed := ((Blueprint.check_eq_ok_iff _).1 topology.fits).2.2.2.2
  rw [Service.grounded_iff topology.closed,
    ← Blueprint.mem_unplaced_iff topology.names_nodup topology.closed, placed]
  exact List.not_mem_nil

/-- In the sequence of a topology, the dependencies of a service come before it. -/
theorem mem_of_sequence_eq
    {front back : List Service} {service : Service}
    (split : topology.sequence = front ++ service :: back) :
    ∀ dependency ∈ service.dependsOn, dependency.service ∈ front.map (·.name) :=
  Blueprint.mem_of_waves_eq split

/-- The sequence of a topology has each service in it, and has it once. -/
theorem sequence_perm : topology.sequence.Perm topology.services := by
  obtain ⟨stuck, split, -⟩ := Blueprint.exists_stuck [] topology.services
  have placed : ∀ service ∈ topology.services, service ∈ topology.sequence :=
    fun service member =>
      (Blueprint.mem_sequence_iff topology.names_nodup topology.closed member).2
        (topology.grounded service.name)
  have apart : topology.sequence.Disjoint stuck :=
    List.disjoint_of_nodup_append (split.nodup_iff.2 topology.names_nodup.of_map)
  have empty : stuck = [] := by
    rw [List.eq_nil_iff_forall_not_mem]
    intro service member
    exact apart (placed service (split.mem_iff.1 (List.mem_append_right _ member))) member
  rw [empty, List.append_nil] at split
  exact split

end Topology

end Convoy
