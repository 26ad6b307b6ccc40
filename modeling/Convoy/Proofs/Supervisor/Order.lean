import Convoy.Proofs.Supervisor.Invariant

/-!
# The order of first launches

Slots are filled for the first time in an order that respects the dependencies of their services,
also those through other services. Restarts do not change this order.
-/

namespace Convoy

namespace History

/-- The slots in the order in which they were filled for the first time. -/
def firstLaunches (history : List Turn) : List Slot := (launches history).eraseDups

theorem eraseDups_concat_of_mem {slots : List Slot} {slot : Slot} (member : slot ∈ slots) :
    (slots ++ [slot]).eraseDups = slots.eraseDups := by
  rw [List.eraseDups_append]
  simp [List.removeAll, member]

theorem eraseDups_concat_of_not_mem {slots : List Slot} {slot : Slot} (fresh : slot ∉ slots) :
    (slots ++ [slot]).eraseDups = slots.eraseDups ++ [slot] := by
  rw [List.eraseDups_append]
  simp [List.removeAll, fresh, List.eraseDups_cons]

theorem eraseDups_eq_self {slots : List Slot} (distinct : slots.Nodup) :
    slots.eraseDups = slots := by
  induction slots with
  | nil => rfl
  | cons slot rest induction =>
    rcases List.nodup_cons.1 distinct with ⟨fresh, distinct⟩
    rw [List.eraseDups_cons, List.filter_eq_self.2 _, induction distinct]
    intro other member
    simp only [Bool.not_eq_true', beq_eq_false_iff_ne]
    rintro rfl
    exact fresh member

variable {history : List Turn} {turn : Turn}

theorem mem_firstLaunches {slot : Slot} : slot ∈ firstLaunches history ↔ slot ∈ launches history :=
  List.mem_eraseDups

theorem firstLaunches_concat_of_not_launched (none : turn.launched? = none) :
    firstLaunches (history ++ [turn]) = firstLaunches history := by
  rw [firstLaunches, launches_concat_of_not_launched none, firstLaunches]

theorem firstLaunches_concat_of_mem {slot : Slot} (launched : turn.launched? = some slot)
    (member : slot ∈ launches history) :
    firstLaunches (history ++ [turn]) = firstLaunches history := by
  rw [firstLaunches, launches_concat_of_launched launched, eraseDups_concat_of_mem member,
    firstLaunches]

theorem firstLaunches_concat_of_not_mem {slot : Slot} (launched : turn.launched? = some slot)
    (fresh : slot ∉ launches history) :
    firstLaunches (history ++ [turn]) = firstLaunches history ++ [slot] := by
  rw [firstLaunches, launches_concat_of_launched launched, eraseDups_concat_of_not_mem fresh,
    firstLaunches]

end History

namespace Supervisor

open History

variable {supervisor : Supervisor} {mail : Mail} {history : List Turn} {state : State}

/-- A dependency of a service that has gone past all its dependencies has launched all its
instances, and has itself gone past all its dependencies. -/
theorem Founded.exists_staffed_of_dependsOn (founded : Founded supervisor history)
    {service : Service}
    (cleared : ∀ dependency ∈ service.dependsOn, Cleared supervisor history service dependency)
    {dependency : Dependency} (listed : dependency ∈ service.dependsOn) :
    ∃ target, supervisor.topology.service? dependency.service = some target ∧
      Staffed history target ∧
      ∀ further ∈ target.dependsOn, Cleared supervisor history target further :=
  founded.up dependency.service (cleared dependency listed).provided.up

/-- All services that a service requires, directly or through others, have launched all their
instances before it has gone past its dependencies, and have gone past their own. -/
theorem Founded.exists_staffed_of_requires (founded : Founded supervisor history)
    {service : Service} {first name : String}
    (declared : supervisor.topology.service? first = some service)
    (cleared : ∀ dependency ∈ service.dependsOn, Cleared supervisor history service dependency)
    (requires : supervisor.topology.Requires first name) :
    ∃ target, supervisor.topology.service? name = some target ∧
      Staffed history target ∧
      ∀ dependency ∈ target.dependsOn, Cleared supervisor history target dependency := by
  induction requires with
  | single depends =>
    rcases depends with ⟨own, ownDeclared, dependency, listed, rfl⟩
    rw [declared] at ownDeclared
    cases ownDeclared
    exact founded.exists_staffed_of_dependsOn cleared listed
  | tail requires depends induction =>
    rcases induction with ⟨target, targetDeclared, -, targetCleared⟩
    rcases depends with ⟨own, ownDeclared, dependency, listed, rfl⟩
    rw [targetDeclared] at ownDeclared
    cases ownDeclared
    exact founded.exists_staffed_of_dependsOn targetCleared listed

/-- A slot whose service is required by one that is ready has been filled. -/
theorem Founded.mem_launches_of_requires (founded : Founded supervisor history)
    {slot other : Slot} (ready : Ready supervisor history slot)
    (otherReady : Ready supervisor history other)
    (requires : supervisor.topology.Requires slot.service other.service) :
    other ∈ launches history := by
  rcases ready with ⟨service, serviceDeclared, -, cleared⟩
  rcases founded.exists_staffed_of_requires serviceDeclared cleared requires with
    ⟨target, declared, staffed, -⟩
  rcases otherReady with ⟨own, ownDeclared, small, -⟩
  rw [declared] at ownDeclared
  cases ownDeclared
  have named := Topology.service?_name declared
  have filled := staffed other.index small
  rw [named] at filled
  exact filled

/-- A slot is filled only when its service has gone past all its dependencies. -/
theorem Invariant.ready_of_launched
    {now : Duration} {next : State} {happening : Happening} {effects : List Effect}
    (invariant : Invariant supervisor history state)
    (step : Step supervisor now state happening next effects) {slot : Slot}
    (launched : Turn.launched? ⟨now, happening, effects, next⟩ = some slot) :
    Ready supervisor history slot := by
  have former := invariant.phase
  cases step with
  | stage declared standing step => exact former.ready_of_launched declared standing step launched
  | @repaired moment control board after repair failure phase effects starting proceeds =>
    cases failure with
    | some reason => cases launched
    | none =>
      cases launched
      exact invariant.founded.launched _
        (slot_mem_launches (invariant.running repair.old former.2.replaced))
  | monitored seen =>
    rw [launched?_of_monitorStep? seen] at launched
    cases launched
  | monitoredMeanwhile seen =>
    rw [launched?_of_monitorStep? seen] at launched
    cases launched
  | _ => cases launched

/-- The order of first launches respects the dependencies. -/
structure Layered (supervisor : Supervisor) (history : List Turn) : Prop where
  order : (firstLaunches history).Pairwise fun first second =>
    ¬supervisor.topology.Requires first.service second.service
  acyclic : ∀ slot ∈ launches history, ¬supervisor.topology.Requires slot.service slot.service

theorem Layered.concat (layered : Layered supervisor history)
    (founded : Founded supervisor history) {turn : Turn}
    (ready : ∀ slot, turn.launched? = some slot → Ready supervisor history slot) :
    Layered supervisor (history ++ [turn]) := by
  cases launched : turn.launched? with
  | none =>
    constructor
    · rw [firstLaunches_concat_of_not_launched launched]
      exact layered.order
    · rw [launches_concat_of_not_launched launched]
      exact layered.acyclic
  | some slot =>
    have slotReady := ready slot launched
    by_cases known : slot ∈ launches history
    · constructor
      · rw [firstLaunches_concat_of_mem launched known]
        exact layered.order
      · rw [launches_concat_of_launched launched]
        intro other member
        rcases List.mem_append.1 member with before | new
        · exact layered.acyclic other before
        · rw [List.mem_singleton.1 new]
          exact layered.acyclic slot known
    · constructor
      · rw [firstLaunches_concat_of_not_mem launched known]
        refine List.pairwise_append.2 ⟨layered.order, List.pairwise_singleton _ _, ?_⟩
        intro first firstMember second secondMember requires
        rw [List.mem_singleton.1 secondMember] at requires
        have firstReady := founded.launched first (mem_firstLaunches.1 firstMember)
        exact known (founded.mem_launches_of_requires firstReady slotReady requires)
      · rw [launches_concat_of_launched launched]
        intro other member requires
        rcases List.mem_append.1 member with before | new
        · exact layered.acyclic other before requires
        · rw [List.mem_singleton.1 new] at requires
          exact known (founded.mem_launches_of_requires slotReady slotReady requires)

theorem Run.layered (run : supervisor.Run mail history state) : Layered supervisor history := by
  induction run with
  | start => exact ⟨List.Pairwise.nil, by simp [launches]⟩
  | exchange mailbox allowed before induction => exact induction
  | step before made induction =>
    apply induction.concat before.invariant.founded
    intro slot launched
    exact before.invariant.ready_of_launched (.of_step? made) launched

end Supervisor

end Convoy
