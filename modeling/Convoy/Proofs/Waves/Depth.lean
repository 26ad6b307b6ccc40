import Convoy.Proofs.Waves

/-!
# Waves and depths

The wave of a service is the length of the longest chain of dependencies that starts from it. A
service in a later wave than the first has a dependency in the wave before it, since it would have
been placed earlier otherwise; so a chain can be followed down through all the waves, and no chain
can skip upwards.
-/

namespace Convoy

namespace Service

/-- Dependencies can be followed from a name so many times. -/
inductive Chain (services : List Service) : String → Nat → Prop
  | rest (name : String) : Chain services name 0
  | step {name other : String} {length : Nat} (lists : Lists services name other)
      (chain : Chain services other length) : Chain services name (length + 1)

variable {services : List Service}

/-- A chain is no longer than the level it starts from, where a level is above the levels of the
dependencies. -/
theorem Chain.length_le {level : String → Nat}
    (descends : ∀ {name other}, Lists services name other → level other < level name)
    {name : String} {length : Nat} (chain : Chain services name length) : length ≤ level name := by
  induction chain with
  | rest name => exact Nat.zero_le _
  | step lists _ induction => exact Nat.lt_of_le_of_lt induction (descends lists)

end Service

namespace Blueprint

variable {placed : List String} {waiting wave : List Service} {service : Service} {index : Nat}

/-- The names in the first few waves, and those placed before them. -/
def placedBy (placed : List String) (waiting : List Service) (count : Nat) : List String :=
  placed ++ ((wavesFrom placed waiting).take count).flatten.map (·.name)

theorem placedBy_zero (placed : List String) (waiting : List Service) :
    placedBy placed waiting 0 = placed := by
  simp [placedBy]

/-- After the first wave, the others go on with what it leaves. -/
theorem placedBy_succ (nonempty : readyAmong placed waiting ≠ []) (count : Nat) :
    placedBy placed waiting (count + 1) =
      placedBy (placed ++ (readyAmong placed waiting).map (·.name))
        (delayedAmong placed waiting) count := by
  rw [placedBy, wavesFrom, dif_neg nonempty, List.take_succ_cons, List.flatten_cons,
    List.map_append, ← List.append_assoc, placedBy]

/-- The waves take services in the order in which they wait. -/
theorem sublist_of_mem_waves (member : wave ∈ wavesFrom placed waiting) :
    wave.Sublist waiting := by
  fun_induction wavesFrom placed waiting with
  | case1 placed waiting none => cases member
  | case2 placed waiting some induction =>
    rcases List.mem_cons.1 member with rfl | later
    · exact List.filter_sublist
    · exact (induction later).trans List.filter_sublist

theorem nil_notMem_waves : [] ∉ wavesFrom placed waiting := by
  fun_induction wavesFrom placed waiting with
  | case1 placed waiting none => exact List.not_mem_nil
  | case2 placed waiting some induction =>
    exact List.not_mem_cons_of_ne_of_not_mem (Ne.symm some) induction

/-- A service in a wave finds its dependencies in the waves before. -/
theorem isReady_of_wave (isWave : (wavesFrom placed waiting)[index]? = some wave)
    (member : service ∈ wave) : isReady (placedBy placed waiting index) service = true := by
  fun_induction wavesFrom placed waiting generalizing index with
  | case1 placed waiting none => cases isWave
  | case2 placed waiting some induction =>
    cases index with
    | zero =>
      obtain rfl := Option.some.inj isWave
      rw [placedBy_zero]
      exact (List.mem_filter.1 member).2
    | succ index =>
      rw [placedBy_succ some]
      exact induction isWave

/-- A service in a later wave than the first is not ready one wave earlier. -/
theorem not_isReady_of_wave (isWave : (wavesFrom placed waiting)[index + 1]? = some wave)
    (member : service ∈ wave) : isReady (placedBy placed waiting index) service = false := by
  fun_induction wavesFrom placed waiting generalizing index with
  | case1 placed waiting none => cases isWave
  | case2 placed waiting some induction =>
    cases index with
    | zero =>
      have waits := (sublist_of_mem_waves (List.mem_of_getElem? isWave)).subset member
      rw [placedBy_zero]
      simpa using (List.mem_filter.1 waits).2
    | succ index =>
      rw [placedBy_succ some]
      exact induction isWave

/-- Whether a service is in the wave with an index. -/
def InWave (blueprint : Blueprint) (index : Nat) (service : Service) : Prop :=
  ∃ wave, blueprint.waves[index]? = some wave ∧ service ∈ wave

variable {blueprint : Blueprint}

theorem InWave.mem (placedAt : blueprint.InWave index service) : service ∈ blueprint.services := by
  obtain ⟨wave, isWave, member⟩ := placedAt
  exact (sublist_of_mem_waves (List.mem_of_getElem? isWave)).subset member

theorem mem_sequence_iff_exists_inWave :
    service ∈ blueprint.sequence ↔ ∃ index, blueprint.InWave index service := by
  rw [sequence, List.mem_flatten]
  constructor
  · rintro ⟨wave, isWave, member⟩
    obtain ⟨index, found⟩ := List.getElem?_of_mem isWave
    exact ⟨index, wave, found, member⟩
  · rintro ⟨index, wave, found, member⟩
    exact ⟨wave, List.mem_of_getElem? found, member⟩

/-- A name is placed in the first few waves exactly if it is the name of a service in one of
them. -/
theorem mem_placedBy_iff {count : Nat} {name : String} :
    name ∈ placedBy [] blueprint.services count ↔
      ∃ index < count, ∃ service, blueprint.InWave index service ∧ service.name = name := by
  simp only [placedBy, List.nil_append, List.mem_map, List.mem_flatten]
  constructor
  · rintro ⟨service, ⟨wave, taken, member⟩, named⟩
    obtain ⟨index, found⟩ := List.getElem?_of_mem taken
    rw [List.getElem?_take] at found
    obtain ⟨before, isWave⟩ := Option.ite_none_right_eq_some.1 found
    exact ⟨index, before, service, ⟨wave, isWave, member⟩, named⟩
  · rintro ⟨index, before, service, ⟨wave, isWave, member⟩, named⟩
    have found := (List.getElem?_take_of_lt before).trans isWave
    exact ⟨service, ⟨wave, List.mem_of_getElem? found, member⟩, named⟩

/-- Every dependency of a service is in an earlier wave. -/
theorem InWave.dependency (placedAt : blueprint.InWave index service)
    {dependency : Dependency} (listed : dependency ∈ service.dependsOn) :
    ∃ earlier < index, ∃ target, blueprint.InWave earlier target ∧
      target.name = dependency.service := by
  obtain ⟨wave, isWave, member⟩ := placedAt
  exact mem_placedBy_iff.1 (isReady_iff.1 (isReady_of_wave isWave member) dependency listed)

/-- A service in a later wave than the first has a dependency in the wave before. -/
theorem InWave.exists_dependency (placedAt : blueprint.InWave (index + 1) service) :
    ∃ dependency ∈ service.dependsOn, ∃ target, blueprint.InWave index target ∧
      target.name = dependency.service := by
  have ⟨wave, isWave, member⟩ := placedAt
  have delayed := not_isReady_of_wave isWave member
  rw [← Bool.not_eq_true, isReady_iff] at delayed
  push Not at delayed
  obtain ⟨dependency, listed, late⟩ := delayed
  obtain ⟨earlier, before, target, targetPlaced, named⟩ := placedAt.dependency listed
  have only : earlier = index := by
    by_contra other
    exact late (mem_placedBy_iff.2 ⟨earlier, by omega, target, targetPlaced, named⟩)
  exact ⟨dependency, listed, target, only ▸ targetPlaced, named⟩

/-- From a service in a wave, dependencies can be followed through all the waves before. -/
theorem InWave.chain (placedAt : blueprint.InWave index service) :
    Service.Chain blueprint.services service.name index := by
  induction index generalizing service with
  | zero => exact .rest _
  | succ index induction =>
    obtain ⟨dependency, listed, target, targetPlaced, named⟩ := placedAt.exists_dependency
    exact .step ⟨service, placedAt.mem, rfl, dependency, listed, named.symm⟩
      (induction targetPlaced)

/-- No chain from a service in a wave is longer than there are waves before. -/
theorem InWave.length_le (distinct : (blueprint.services.map (·.name)).Nodup)
    {name : String} {length : Nat} (chain : Service.Chain blueprint.services name length)
    (placedAt : blueprint.InWave index service) (named : service.name = name) :
    length ≤ index := by
  induction chain generalizing index service with
  | rest name => exact Nat.zero_le _
  | step lists _ induction =>
    obtain ⟨lister, listerMember, listerNamed, dependency, listed, rfl⟩ := lists
    obtain rfl := List.inj_on_of_nodup_map distinct listerMember placedAt.mem
      (listerNamed.trans named.symm)
    obtain ⟨earlier, before, target, targetPlaced, targetNamed⟩ := placedAt.dependency listed
    exact Nat.lt_of_le_of_lt (induction targetPlaced targetNamed) before

end Blueprint

namespace Topology

variable (topology : Topology) {index : Nat} {service : Service}

/-- A service is in the wave whose index is the length of the longest chain of dependencies from
it. -/
theorem inWave_iff : topology.InWave index service ↔
    service ∈ topology.services ∧
      IsGreatest {length | Service.Chain topology.services service.name length} index := by
  have greatest : ∀ {index}, topology.InWave index service →
      IsGreatest {length | Service.Chain topology.services service.name length} index :=
    fun placedAt => ⟨placedAt.chain, fun _ chain =>
      Blueprint.InWave.length_le topology.names_nodup chain placedAt rfl⟩
  constructor
  · exact fun placedAt => ⟨placedAt.mem, greatest placedAt⟩
  · rintro ⟨member, longest⟩
    obtain ⟨other, placedAt⟩ := Blueprint.mem_sequence_iff_exists_inWave.1
      (topology.sequence_perm.mem_iff.2 member)
    exact (greatest placedAt).unique longest ▸ placedAt

/-- A service is in one wave only. -/
theorem inWave_unique {other : Nat} (first : topology.InWave index service)
    (second : topology.InWave other service) : index = other :=
  ((inWave_iff topology).1 first).2.unique ((inWave_iff topology).1 second).2

/-- The waves of a topology are its services by depth. -/
structure Layered (waves : List (List Service)) : Prop where
  partition : waves.flatten.Perm topology.services
  once : waves.flatten.Nodup
  depth : ∀ index service, (∃ wave, waves[index]? = some wave ∧ service ∈ wave) ↔
    service ∈ topology.services ∧
      IsGreatest {length | Service.Chain topology.services service.name length} index
  earlier : ∀ (index : Nat) wave, waves[index]? = some wave → ∀ service ∈ wave,
    ∀ dependency ∈ service.dependsOn, ∃ before < index, ∃ others, waves[before]? = some others ∧
      ∃ target ∈ others, target.name = dependency.service
  /-- No service could be in an earlier wave. -/
  least : ∀ level : String → Nat,
    (∀ service ∈ topology.services, ∀ dependency ∈ service.dependsOn,
      level dependency.service < level service.name) →
    ∀ (index : Nat) wave, waves[index]? = some wave → ∀ service ∈ wave, index ≤ level service.name
  nonempty : [] ∉ waves
  ordered : ∀ wave ∈ waves, wave.Sublist topology.services

theorem layered : topology.Layered topology.waves where
  partition := topology.sequence_perm
  once := topology.sequence_perm.nodup_iff.2 topology.names_nodup.of_map
  depth _ _ := topology.inWave_iff
  earlier := by
    intro index wave isWave service member dependency listed
    obtain ⟨before, isEarlier, target, ⟨others, isOther, targetMember⟩, named⟩ :=
      Blueprint.InWave.dependency ⟨wave, isWave, member⟩ listed
    exact ⟨before, isEarlier, others, isOther, target, targetMember, named⟩
  least := by
    intro level descends index wave isWave service member
    apply (Blueprint.InWave.chain ⟨wave, isWave, member⟩).length_le
    rintro _ _ ⟨lister, listerMember, rfl, dependency, listed, rfl⟩
    exact descends lister listerMember dependency listed
  nonempty := Blueprint.nil_notMem_waves
  ordered _ := Blueprint.sublist_of_mem_waves

end Topology

end Convoy
