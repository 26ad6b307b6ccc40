import Convoy.Proofs.Dictionary
import Convoy.Proofs.Supervisor.Evidence
import Convoy.Proofs.Supervisor.Step

/-!
# Starting services and their history

`StageFits` ties the stage of a starting service to the history: which dependencies it has gone past
and with what right, which of its instances have been launched, and which of them have exited. A
step of the service itself keeps it, and so does every step of another one.
-/

namespace Convoy

namespace History

variable {history : List Turn} {turn : Turn}

theorem instancesOf_concat_of_not_launched (service : String) (none : turn.launched? = none) :
    instancesOf service (history ++ [turn]) = instancesOf service history := by
  rw [instancesOf, instances_concat_of_not_launched none, instancesOf]

theorem instancesOf_concat_of_ne {service : String} {slot : Slot}
    (launched : turn.launched? = some slot) (other : slot.service ≠ service) :
    instancesOf service (history ++ [turn]) = instancesOf service history := by
  simp [instancesOf, instances_concat_of_launched launched, List.filter_append, other]

theorem instancesOf_concat_of_launched (slot : Slot) (launched : turn.launched? = some slot) :
    instancesOf slot.service (history ++ [turn]) =
      instancesOf slot.service history ++ [⟨slot, (launches history).length⟩] := by
  simp [instancesOf, instances_concat_of_launched launched, List.filter_append]

/-- The first slots of a service have been filled, each once and in order. -/
def Filled (history : List Turn) (service : Service) (count : Nat) : Prop :=
  (instancesOf service.name history).map (·.slot) =
    (List.range count).map (Slot.mk service.name)

theorem Filled.nil {service : Service} : Filled [] service 0 := rfl

theorem Filled.instancesOf_eq_nil {service : Service} (filled : Filled history service 0) :
    instancesOf service.name history = [] :=
  List.map_eq_nil_iff.1 filled

theorem Filled.concat {service : Service} {count : Nat} (filled : Filled history service count)
    (launched : turn.launched? = some ⟨service.name, count⟩) :
    Filled (history ++ [turn]) service (count + 1) := by
  unfold Filled
  rw [instancesOf_concat_of_launched ⟨service.name, count⟩ launched, List.map_append, filled,
    List.range_succ,
    List.map_append]
  rfl

theorem mem_instancesOf {service : String} {live : Instance} :
    live ∈ instancesOf service history ↔
      live ∈ instances history ∧ live.slot.service = service := by
  simp [instancesOf]

/-- Once all slots of a service are filled, all its instances have been launched. -/
theorem Filled.staffed {service : Service} (filled : Filled history service service.replicas) :
    Staffed history service := by
  intro index small
  have slot : (⟨service.name, index⟩ : Slot) ∈
      (instancesOf service.name history).map (·.slot) := by
    rw [filled]
    exact List.mem_map_of_mem (List.mem_range.2 small)
  rcases List.mem_map.1 slot with ⟨live, member, equal⟩
  rw [← equal]
  exact slot_mem_launches (mem_instancesOf.1 member).1

/-- Once all slots are filled and all instances have exited well, the service has completed. -/
theorem Filled.completed {service : Service} (filled : Filled history service service.replicas)
    (exited : ∀ live ∈ instancesOf service.name history, ExitedWell history live) :
    Completed history service := by
  intro index small
  have slot : (⟨service.name, index⟩ : Slot) ∈
      (instancesOf service.name history).map (·.slot) := by
    rw [filled]
    exact List.mem_map_of_mem (List.mem_range.2 small)
  rcases List.mem_map.1 slot with ⟨⟨_, id⟩, member, rfl⟩
  exact ⟨id, exited _ member⟩

end History

namespace Supervisor

open History

variable (supervisor : Supervisor)

/-- A service has gone past all its dependencies but the given ones. -/
def Awaits (history : List Turn) (service : Service) (dependencies : List Dependency) : Prop :=
  ∃ passed, service.dependsOn = passed ++ dependencies ∧
    ∀ dependency ∈ passed, Cleared supervisor history service dependency

/-- A service went no further after it had reached a status. -/
def Halted (history : List Turn) (service : Service) (reached : Status) : Prop :=
  (∃ count ≤ service.replicas, Filled history service count) ∧
    (reached ≠ .pending → reached = .running ∧ service.role.isOneShot = true ∧
      Awaits supervisor history service [] ∧ Filled history service service.replicas)

/-- The history bears out the stage of a service. -/
def StageFits (history : List Turn) (service : Service) : Stage → Prop
  | .awaiting dependencies =>
    Awaits supervisor history service dependencies ∧ Filled history service 0
  | .connecting visit dependency rest =>
    Awaits supervisor history service (dependency :: rest) ∧ Filled history service 0 ∧
      ∃ before since, history = before ++ since ∧
        Dialling supervisor service dependency visit before since
  | .pausing visit _ dependency rest =>
    Awaits supervisor history service (dependency :: rest) ∧ Filled history service 0 ∧
      ∃ before since, history = before ++ since ∧
        AtGate supervisor service dependency visit before since
  | .launching index launched =>
    Awaits supervisor history service [] ∧ Filled history service index ∧
      index < service.replicas ∧ instancesOf service.name history = launched
  | .draining current rest =>
    Awaits supervisor history service [] ∧ Filled history service service.replicas ∧
      service.role.isOneShot = true ∧
      ∃ gone, instancesOf service.name history = gone ++ current :: rest ∧
        ∀ live ∈ gone, ExitedWell history live
  | .ended none =>
    Awaits supervisor history service [] ∧ Filled history service service.replicas ∧
      (service.role.isOneShot = true →
        ∀ live ∈ instancesOf service.name history, ExitedWell history live)
  | .ended (some _) => ∃ count ≤ service.replicas, Filled history service count
  | .cancelled reached => Halted supervisor history service reached
  | .crashed reached failure =>
    Halted supervisor history service reached ∧ failure = supervisor.crashFailure service

variable {supervisor} {history : List Turn} {turn : Turn} {service : Service} {stage : Stage}

/-! ## What a stage tells -/

theorem StageFits.filled (fits : StageFits supervisor history service stage) :
    ∃ count ≤ service.replicas, Filled history service count := by
  cases stage with
  | awaiting dependencies => exact ⟨0, Nat.zero_le _, fits.2⟩
  | connecting visit dependency rest => exact ⟨0, Nat.zero_le _, fits.2.1⟩
  | pausing visit due dependency rest => exact ⟨0, Nat.zero_le _, fits.2.1⟩
  | launching index launched => exact ⟨index, Nat.le_of_lt fits.2.2.1, fits.2.1⟩
  | draining current rest => exact ⟨service.replicas, Nat.le_refl _, fits.2.1⟩
  | ended outcome =>
    cases outcome with
    | none => exact ⟨service.replicas, Nat.le_refl _, fits.2.1⟩
    | some failure => exact fits
  | cancelled reached => exact fits.1
  | crashed reached failure => exact fits.1.1

/-- A service that has not come to its end goes no further. -/
theorem StageFits.halted (fits : StageFits supervisor history service stage)
    (ongoing : stage.isOver = false) :
    Halted supervisor history service (stage.status service.role.isOneShot) := by
  refine ⟨fits.filled, fun notPending => ?_⟩
  cases stage with
  | draining current rest => exact ⟨rfl, fits.2.2.1, fits.1, fits.2.1⟩
  | ended outcome => cases ongoing
  | cancelled reached => cases ongoing
  | crashed reached failure => cases ongoing
  | _ => exact absurd rfl notPending

/-- A service that goes no further is not up, or waits for the exits of its instances. -/
theorem Halted.running {reached : Status} (halted : Halted supervisor history service reached)
    (up : reached.isUp = true) :
    reached = .running ∧ service.role.isOneShot = true ∧
      Awaits supervisor history service [] ∧ Filled history service service.replicas := by
  refine halted.2 ?_
  rintro rfl
  cases up

/-- A service that goes no further does not count as failed. -/
theorem Halted.not_failed {reached : Status}
    (halted : Halted supervisor history service reached) : reached ≠ .failed := by
  rintro rfl
  exact nomatch (halted.2 (by decide)).1

theorem StageFits.current_mem {current : Instance} {rest : List Instance}
    (fits : StageFits supervisor history service (.draining current rest)) :
    current ∈ instancesOf service.name history := by
  rcases fits with ⟨-, -, -, gone, split, -⟩
  rw [split]
  exact List.mem_append_right gone List.mem_cons_self

/-- A service that the others see as up has gone past all its dependencies and launched all its
instances. -/
theorem StageFits.of_isUp (fits : StageFits supervisor history service stage)
    (up : (stage.status service.role.isOneShot).isUp = true) :
    Awaits supervisor history service [] ∧ Filled history service service.replicas := by
  cases stage with
  | awaiting dependencies => cases up
  | connecting visit dependency rest => cases up
  | pausing visit due dependency rest => cases up
  | launching index launched => cases up
  | draining current rest => exact ⟨fits.1, fits.2.1⟩
  | ended outcome =>
    cases outcome with
    | none => exact ⟨fits.1, fits.2.1⟩
    | some failure => cases up
  | cancelled reached => exact (fits.running up).2.2
  | crashed reached failure => exact (fits.1.running up).2.2

/-- A service that the others see as up, and that is complete or not a one-shot service, has come to
its end. -/
theorem StageFits.eq_ended (fits : StageFits supervisor history service stage)
    (up : (stage.status service.role.isOneShot).isUp = true)
    (final : stage.status service.role.isOneShot = .completed ∨ service.role.isOneShot = false) :
    stage = .ended none := by
  cases stage with
  | awaiting dependencies => cases up
  | connecting visit dependency rest => cases up
  | pausing visit due dependency rest => cases up
  | launching index launched => cases up
  | draining current rest =>
    rcases final with completed | endless
    · cases completed
    · rw [fits.2.2.1] at endless
      cases endless
  | ended outcome =>
    cases outcome with
    | none => rfl
    | some failure => cases up
  | cancelled reached =>
    obtain ⟨running, oneShot, -⟩ := fits.running up
    rcases final with completed | endless
    · cases completed.symm.trans running
    · cases oneShot.symm.trans endless
  | crashed reached failure =>
    obtain ⟨running, oneShot, -⟩ := fits.1.running up
    rcases final with completed | endless
    · cases completed.symm.trans running
    · cases oneShot.symm.trans endless

/-! ## Steps of other services -/

theorem Awaits.append {dependencies : List Dependency}
    (awaits : Awaits supervisor history service dependencies) (later : List Turn) :
    Awaits supervisor (history ++ later) service dependencies := by
  rcases awaits with ⟨passed, split, cleared⟩
  exact ⟨passed, split, fun dependency member => (cleared dependency member).append later⟩

theorem Awaits.listed {dependency : Dependency} {rest : List Dependency}
    (awaits : Awaits supervisor history service (dependency :: rest)) :
    dependency ∈ service.dependsOn := by
  rcases awaits with ⟨passed, split, -⟩
  rw [split]
  exact List.mem_append_right passed List.mem_cons_self

theorem Halted.append {reached : Status} (halted : Halted supervisor history service reached)
    {later : List Turn}
    (filled : ∀ count, Filled history service count → Filled (history ++ later) service count) :
    Halted supervisor (history ++ later) service reached := by
  rcases halted with ⟨⟨count, small, before⟩, reaches⟩
  refine ⟨⟨count, small, filled count before⟩, fun notPending => ?_⟩
  rcases reaches notPending with ⟨running, oneShot, awaits, full⟩
  exact ⟨running, oneShot, awaits.append _, filled _ full⟩

/-- A service goes past the dependency that it waits for. -/
theorem Awaits.pass {dependency : Dependency} {rest : List Dependency}
    (awaits : Awaits supervisor history service (dependency :: rest))
    (cleared : Cleared supervisor (history ++ [turn]) service dependency) :
    Awaits supervisor (history ++ [turn]) service rest := by
  rcases awaits with ⟨passed, split, before⟩
  refine ⟨passed ++ [dependency], ?_, ?_⟩
  · rw [split, List.append_assoc, List.singleton_append]
  · intro other member
    rcases List.mem_append.1 member with old | new
    · exact (before other old).append [turn]
    · rw [List.mem_singleton.1 new]
      exact cleared

theorem Awaits.cleared (awaits : Awaits supervisor history service []) :
    ∀ dependency ∈ service.dependsOn, Cleared supervisor history service dependency := by
  rcases awaits with ⟨passed, split, cleared⟩
  rw [List.append_nil] at split
  rw [split]
  exact cleared

/-- What happens elsewhere changes nothing: a turn without a launch and an attempt of a service. -/
theorem StageFits.frame (fits : StageFits supervisor history service stage)
    (silent : turn.dials service.name = [])
    (still : ∀ slot, turn.launched? = some slot → slot.service ≠ service.name) :
    StageFits supervisor (history ++ [turn]) service stage := by
  have same : instancesOf service.name (history ++ [turn]) = instancesOf service.name history := by
    cases launched : turn.launched? with
    | none => exact instancesOf_concat_of_not_launched _ launched
    | some slot => exact instancesOf_concat_of_ne launched (still slot launched)
  have filled : ∀ count, Filled history service count →
      Filled (history ++ [turn]) service count := by
    intro count before
    rw [Filled, same]
    exact before
  cases stage with
  | awaiting dependencies => exact ⟨fits.1.append _, filled _ fits.2⟩
  | connecting visit dependency rest =>
    rcases fits with ⟨awaits, empty, before, since, rfl, dialling⟩
    exact ⟨awaits.append _, filled _ empty, before, since ++ [turn], by simp,
      dialling.concat silent⟩
  | pausing visit due dependency rest =>
    rcases fits with ⟨awaits, empty, before, since, rfl, waits⟩
    exact ⟨awaits.append _, filled _ empty, before, since ++ [turn], by simp, waits.append _⟩
  | launching index launched =>
    exact ⟨fits.1.append _, filled _ fits.2.1, fits.2.2.1, same.trans fits.2.2.2⟩
  | draining current rest =>
    rcases fits with ⟨awaits, full, oneShot, gone, split, exited⟩
    exact ⟨awaits.append _, filled _ full, oneShot, gone, same.trans split,
      fun live member => (exited live member).append _⟩
  | ended outcome =>
    cases outcome with
    | none =>
      refine ⟨fits.1.append _, filled _ fits.2.1, fun oneShot live member => ?_⟩
      rw [same] at member
      exact (fits.2.2 oneShot live member).append _
    | some failure =>
      rcases fits with ⟨count, small, before⟩
      exact ⟨count, small, filled count before⟩
  | cancelled reached => exact fits.append (fun _ => filled _)
  | crashed reached failure => exact ⟨fits.1.append (fun _ => filled _), fits.2⟩

/-! ## Steps of the service itself -/

section Own

variable {now : Duration} {startup : Startup} {board after : Board} {next : Stage}
  {happening : Happening} {effects : List Effect}

/-- Only a service itself launches its instances. -/
theorem StageStep.launched?_service
    (step : StageStep supervisor now startup board service stage happening next after effects)
    (state : State) {slot : Slot}
    (launched : Turn.launched? ⟨now, happening, effects, state⟩ = some slot) :
    slot.service = service.name := by
  cases step <;> cases launched
  rfl

/-- Only a service itself attempts to connect on its behalf. -/
theorem StageStep.dials_of_ne
    (step : StageStep supervisor now startup board service stage happening next after effects)
    (state : State) {name : String} (other : service.name ≠ name) :
    Turn.dials name ⟨now, happening, effects, state⟩ = [] := by
  have attempts : ∀ visit dependency rest,
      Turn.dials name ⟨now, happening,
        (supervisor.attempt service visit dependency rest now).effects, state⟩ = [] := by
    intro visit dependency rest
    rcases supervisor.attempt_cases service visit dependency rest now with
      ⟨-, -, equal⟩ | ⟨-, -, equal⟩ | ⟨-, equal⟩ <;> simp [equal, Turn.dials, other]
  have drains : ∀ launched,
      Turn.dials name ⟨now, happening, (drain service launched).effects, state⟩ = [] := by
    intro launched
    rcases drain_cases service launched with ⟨-, equal⟩ | ⟨current, rest, -, equal⟩ <;>
      simp [equal, Turn.dials]
  have launches : ∀ index launched,
      Turn.dials name ⟨now, happening,
        (supervisor.launch service index launched).effects, state⟩ = [] := by
    intro index launched
    rcases launch_cases supervisor service index launched with
      ⟨-, equal⟩ | ⟨-, -, equal⟩ | ⟨-, -, equal⟩
    · simp [equal, Turn.dials, startRequest]
    · rw [equal]
      exact drains launched
    · simp [equal, Turn.dials]
  cases step with
  | begun settled sound reachable found => exact attempts _ _ _
  | retried ready => exact attempts _ _ _
  | cleared => exact launches _ _
  | launched => exact launches _ _
  | exitedWell => exact drains _
  | _ => rfl

/-- A service at a gate either makes an attempt, which then is its latest one, or crashes or gives
up. -/
theorem StageFits.attempt
    {visit : Visit} {dependency : Dependency} {rest : List Dependency} {before : List Turn}
    (since : List Turn) {state : State}
    (awaits : Awaits supervisor history service (dependency :: rest))
    (empty : Filled history service 0)
    (split : history = before ++ (since ++ [⟨now, happening, effects, state⟩]))
    (waits : AtGate supervisor service dependency visit before
      (since ++ [⟨now, happening, effects, state⟩]))
    (dials : Turn.dials service.name ⟨now, happening, effects, state⟩ =
      Turn.dials service.name
        ⟨now, happening, (supervisor.attempt service visit dependency rest now).effects, state⟩) :
    StageFits supervisor history service
      (supervisor.attempt service visit dependency rest now).next := by
  rcases supervisor.attempt_cases service visit dependency rest now with
    ⟨inTime, -, equal⟩ | ⟨-, -, equal⟩ | ⟨late, equal⟩
  · rw [equal] at dials ⊢
    refine ⟨awaits, empty, before, _, split,
      ⟨waits.provided, waits.gate, waits.begun⟩, ?_, inTime⟩
    apply latestDial?_concat_of_dials
    rw [dials]
    simp [Turn.dials, Visit.dial, Visit.deadline]
  · rw [equal]
    exact ⟨⟨⟨0, Nat.zero_le _, empty⟩, fun notPending => absurd rfl notPending⟩, rfl⟩
  · rw [equal]
    exact ⟨0, Nat.zero_le _, empty⟩

/-- A service whose first instances are there launches the next one or goes on. -/
theorem StageFits.launch {index : Nat} {launched : List Instance}
    (awaits : Awaits supervisor history service [])
    (filled : Filled history service index) (small : index ≤ service.replicas)
    (same : instancesOf service.name history = launched) :
    StageFits supervisor history service (supervisor.launch service index launched).next := by
  have full : service.replicas ≤ index → Filled history service service.replicas := by
    intro large
    rw [← Nat.le_antisymm small large]
    exact filled
  rcases launch_cases supervisor service index launched with
    ⟨more, equal⟩ | ⟨enough, oneShot, equal⟩ | ⟨enough, endless, equal⟩
  · rw [equal]
    exact ⟨awaits, filled, more, same⟩
  · rw [equal]
    rcases drain_cases service launched with ⟨none, drained⟩ | ⟨current, rest, some, drained⟩
    · rw [drained]
      refine ⟨awaits, full enough, fun _ live member => ?_⟩
      rw [same, none] at member
      cases member
    · rw [drained]
      exact ⟨awaits, full enough, oneShot, [], same.trans some, by simp⟩
  · rw [equal]
    refine ⟨awaits, full enough, fun oneShot => ?_⟩
    rw [endless] at oneShot
    cases oneShot

/-- A service waits for the next of its instances to end, or has completed. -/
theorem StageFits.drain (gone : List Instance) {left : List Instance}
    (awaits : Awaits supervisor history service [])
    (filled : Filled history service service.replicas) (oneShot : service.role.isOneShot = true)
    (split : instancesOf service.name history = gone ++ left)
    (exited : ∀ live ∈ gone, ExitedWell history live) :
    StageFits supervisor history service (Supervisor.drain service left).next := by
  rcases drain_cases service left with ⟨none, drained⟩ | ⟨current, rest, some, drained⟩
  · rw [drained]
    refine ⟨awaits, filled, fun _ live member => ?_⟩
    rw [split, none, List.append_nil] at member
    exact exited live member
  · rw [drained]
    exact ⟨awaits, filled, oneShot, gone, by rw [split, some], exited⟩

theorem StageFits.step
    (step : StageStep supervisor now startup board service stage happening next after effects)
    (fits : StageFits supervisor history service stage)
    (member : service ∈ supervisor.topology.services)
    (provided : ∀ dependency,
      (startup.statusOf supervisor.topology dependency.service).settles dependency.condition →
      startup.statusOf supervisor.topology dependency.service ≠ .failed →
      Provided supervisor history dependency)
    (count : board.launches = (launches history).length) (state : State) :
    StageFits supervisor (history ++ [⟨now, happening, effects, state⟩]) service next := by
  -- Steps without a launch leave the slots of the service as they are.
  have filled : Turn.launched? ⟨now, happening, effects, state⟩ = none →
      ∀ {places}, Filled history service places →
        Filled (history ++ [⟨now, happening, effects, state⟩]) service places := by
    intro none places before
    rw [Filled, instancesOf_concat_of_not_launched _ none]
    exact before
  cases step with
  | dependencyFailed failed => exact ⟨0, Nat.zero_le _, filled rfl fits.2⟩
  | begun settled sound reachable found =>
    refine StageFits.attempt [] (fits.1.append _) (filled rfl fits.2) rfl ?_ rfl
    exact ⟨provided _ settled sound, found, _, [], rfl, rfl, rfl⟩
  | @passed dependency rest settled sound ungated =>
    rcases fits with ⟨awaits, empty⟩
    refine ⟨awaits.pass ⟨(provided _ settled sound).append _, ?_⟩, filled rfl empty⟩
    intro reachable
    rcases ungated with completed | missing
    · rw [completed] at reachable
      cases reachable
    · rcases supervisor.exists_gateFor? member awaits.listed reachable with
        ⟨target, endpoint, gate, -, -, found, -⟩
      rw [missing] at found
      cases found
  | cleared =>
    exact StageFits.launch (fits.1.append _) (filled rfl fits.2) (Nat.zero_le _)
      ((instancesOf_concat_of_not_launched _ rfl).trans fits.2.instancesOf_eq_nil)
  | @connected visit dependency rest =>
    rcases fits with ⟨awaits, empty, before, since, rfl, dialling⟩
    refine ⟨awaits.pass ⟨(dialling.provided.append since).append _, ?_⟩, filled rfl empty⟩
    intro reachable
    exact ⟨visit, before, since, _, [], rfl, dialling, rfl⟩
  | refused inClock =>
    rcases fits with ⟨awaits, empty, before, since, rfl, dialling⟩
    exact ⟨awaits.append _, filled rfl empty, before, _, List.append_assoc _ _ _,
      dialling.toAtGate.append _⟩
  | overran beyond =>
    have halted : Halted supervisor history service .pending := fits.halted rfl
    exact ⟨halted.append fun _ => filled rfl, rfl⟩
  | retried ready =>
    rcases fits with ⟨awaits, empty, before, since, rfl, waits⟩
    exact StageFits.attempt since (awaits.append _) (filled rfl empty) (List.append_assoc _ _ _)
      (waits.append _) rfl
  | launchFailed => exact ⟨_, Nat.le_of_lt fits.2.2.1, filled rfl fits.2.1⟩
  | @launched index launched line =>
    rcases fits with ⟨awaits, places, small, same⟩
    refine StageFits.launch (awaits.append _) (places.concat rfl) small ?_
    rw [instancesOf_concat_of_launched ⟨service.name, index⟩ rfl, same, Board.nextInstance, count]
  | waitFailed => exact ⟨_, Nat.le_refl _, filled rfl fits.2.1⟩
  | exitedBadly bad => exact ⟨_, Nat.le_refl _, filled rfl fits.2.1⟩
  | @exitedWell current rest =>
    rcases fits with ⟨awaits, full, oneShot, gone, split, exited⟩
    refine StageFits.drain (gone ++ [current]) (awaits.append _) (filled rfl full) oneShot
      ((instancesOf_concat_of_not_launched _ rfl).trans (by simp [split])) ?_
    intro live liveMember
    rcases List.mem_append.1 liveMember with old | new
    · exact (exited live old).append _
    · cases List.mem_singleton.1 new
      exact ⟨_, List.mem_append_right _ (List.mem_singleton_self _), rfl⟩
  | cancelled aborting ongoing => exact (fits.halted ongoing).append fun _ => filled rfl
  | crashed calling =>
    exact ⟨(fits.halted (Stage.isOver_of_isCalling calling)).append fun _ => filled rfl, rfl⟩

end Own

end Supervisor

end Convoy
