import Convoy.Proofs.Supervisor.Invariant

/-!
# The live instances of a service

While a topology starts, the stage of a service tells which of its instances are live: those that
have been launched so far, and, for a one-shot service, those whose exit is still awaited. So when
the startup is over, no instance of a one-shot service is left among the live ones.
-/

namespace Convoy

/-- The live instances of a service. -/
def Board.livesOf (board : Board) (service : String) : List Instance :=
  board.running.filter (·.slot.service = service)

namespace Board

variable {board : Board}

theorem livesOf_enter (slot : Slot) :
    (board.enter slot).livesOf slot.service =
      board.livesOf slot.service ++ [board.nextInstance slot] := by
  simp [livesOf, enter, nextInstance]

theorem livesOf_enter_of_ne {slot : Slot} {service : String} (other : slot.service ≠ service) :
    (board.enter slot).livesOf service = board.livesOf service := by
  simp [livesOf, enter, nextInstance, other]

theorem livesOf_forget (id : InstanceId) (service : String) :
    (board.forget id).livesOf service = (board.livesOf service).filter (·.id != id) := by
  simp only [livesOf, forget]
  rw [List.filter_comm]

end Board

namespace Supervisor

open History

/-- The live instances of a service are those that its stage tells of. -/
def StageHoused (history : List Turn) (service : Service) (board : Board) : Stage → Prop
  | .awaiting _ => board.livesOf service.name = []
  | .connecting .. => board.livesOf service.name = []
  | .pausing .. => board.livesOf service.name = []
  | .launching _ launched => board.livesOf service.name = launched
  | .draining current rest => board.livesOf service.name = current :: rest
  | .ended none =>
    board.livesOf service.name =
      if service.role.isOneShot then [] else instancesOf service.name history
  | _ => True

variable {supervisor : Supervisor} {mail : Mail} {history : List Turn} {startup : Startup}
  {board after : Board} {service : Service} {stage next : Stage} {now : Duration}
  {happening : Happening} {effects : List Effect}

/-! ## Steps of the service itself -/

theorem StageHoused.attempt (none : board.livesOf service.name = []) (visit : Visit)
    (dependency : Dependency) (rest : List Dependency) :
    StageHoused history service board
      (supervisor.attempt service visit dependency rest now).next := by
  rcases supervisor.attempt_cases service visit dependency rest now with
    ⟨-, -, equal⟩ | ⟨-, -, equal⟩ | ⟨-, equal⟩
  · rw [equal]
    exact none
  · rw [equal]
    trivial
  · rw [equal]
    trivial

theorem StageHoused.drain {left : List Instance} (oneShot : service.role.isOneShot = true)
    (lives : board.livesOf service.name = left) :
    StageHoused history service board (Supervisor.drain service left).next := by
  rcases drain_cases service left with ⟨rfl, equal⟩ | ⟨current, rest, rfl, equal⟩
  · rw [equal]
    simpa [StageHoused, oneShot] using lives
  · rw [equal]
    exact lives

theorem StageHoused.launch {index : Nat} {launched : List Instance}
    (lives : board.livesOf service.name = launched)
    (all : instancesOf service.name history = launched) :
    StageHoused history service board (supervisor.launch service index launched).next := by
  rcases launch_cases supervisor service index launched with
    ⟨-, equal⟩ | ⟨-, oneShot, equal⟩ | ⟨-, endless, equal⟩
  · rw [equal]
    exact lives
  · rw [equal]
    exact StageHoused.drain oneShot lives
  · rw [equal]
    simpa [StageHoused, endless, all] using lives

/-- When the first of several instances is forgotten, the other ones stay. -/
theorem livesOf_forget_head {current : Instance} {rest : List Instance}
    (lives : board.livesOf service.name = current :: rest)
    (known : board.running.Sublist (instances history)) :
    (board.forget current.id).livesOf service.name = rest := by
  have sublist : (current :: rest).Sublist (instances history) := by
    rw [← lives]
    exact List.filter_sublist.trans known
  have distinct : ((current :: rest).map (·.id)).Nodup := by
    apply List.Nodup.sublist (sublist.map _)
    rw [map_id_instances]
    exact List.nodup_range
  rw [List.map_cons, List.nodup_cons] at distinct
  rw [Board.livesOf_forget, lives, List.filter_cons_of_neg (by simp), List.filter_eq_self]
  intro live member
  have different : live.id ≠ current.id := fun same =>
    distinct.1 (List.mem_map.2 ⟨live, member, same⟩)
  simpa using different

theorem StageHoused.step
    (housed : StageHoused history service board stage)
    (fits : StageFits supervisor history service stage) (boardFits : BoardFits history board)
    (step : StageStep supervisor now startup board service stage happening next after effects)
    (state : State) :
    StageHoused (history ++ [⟨now, happening, effects, state⟩]) service after next := by
  cases step with
  | begun settled sound reachable found => exact StageHoused.attempt housed _ _ _
  | retried ready => exact StageHoused.attempt housed _ _ _
  | cleared =>
    apply StageHoused.launch housed
    rw [instancesOf_concat_of_not_launched _ rfl]
    exact fits.2.instancesOf_eq_nil
  | @launched index launched line =>
    apply StageHoused.launch
    · rw [Board.livesOf_enter ⟨service.name, index⟩, housed]
    · rw [instancesOf_concat_of_launched ⟨service.name, index⟩ rfl, fits.2.2.2, Board.nextInstance,
        boardFits.count]
  | exitedWell =>
    exact StageHoused.drain fits.2.2.1 (livesOf_forget_head housed boardFits.running)
  | passed settled sound ungated => exact housed
  | connected => exact housed
  | refused inClock => exact housed
  | _ => trivial

/-! ## Steps of other services -/

/-- A step of another service leaves the live instances of a service as they are. -/
theorem BoardStep.livesOf_of_ne {turn : Turn} {other : String}
    (step : BoardStep supervisor history turn service board after) (different : service.name ≠ other)
    (known : board.running.Sublist (instances history)) :
    after.livesOf other = board.livesOf other := by
  cases step with
  | same still => rfl
  | entered launched filled small cleared => exact Board.livesOf_enter_of_ne different
  | @forgotten exited code happened oneShot own =>
    rw [Board.livesOf_forget, List.filter_eq_self]
    intro live member
    rcases List.mem_filter.1 member with ⟨running, named⟩
    rcases mem_instancesOf.1 own with ⟨launched, ownName⟩
    have distinct : live.id ≠ exited.id := by
      intro same
      have equal := instances_ext (known.subset running) launched same
      subst equal
      exact different (ownName.symm.trans (by simpa using named))
    simpa using distinct

theorem StageHoused.frame {turn : Turn} (housed : StageHoused history service board stage)
    (lives : after.livesOf service.name = board.livesOf service.name)
    (still : ∀ slot, turn.launched? = some slot → slot.service ≠ service.name) :
    StageHoused (history ++ [turn]) service after stage := by
  have same : instancesOf service.name (history ++ [turn]) = instancesOf service.name history := by
    cases launched : turn.launched? with
    | none => exact instancesOf_concat_of_not_launched _ launched
    | some slot => exact instancesOf_concat_of_ne launched (still slot launched)
  cases stage with
  | ended outcome =>
    cases outcome with
    | none =>
      simp only [StageHoused, lives, same] at housed ⊢
      exact housed
    | some failure => trivial
  | cancelled reached => trivial
  | crashed reached failure => trivial
  | _ => exact lives.trans housed

/-! ## The startup as a whole -/

/-- The stages of all services tell which instances are live. -/
def Housed (supervisor : Supervisor) (history : List Turn) (startup : Startup) (board : Board) :
    Prop :=
  ∀ service stage, supervisor.topology.service? service.name = some service →
    startup.stages.get? service.name = some stage → StageHoused history service board stage

theorem Housed.start (supervisor : Supervisor) :
    Housed supervisor [] (.ofTopology supervisor.topology) .empty := by
  intro service stage declared standing
  rcases (Startup.get?_ofTopology _).1 standing with ⟨other, -, -, rfl⟩
  rfl

theorem Housed.step (housed : Housed supervisor history startup board)
    (fits : StartupFits supervisor history startup board)
    (declared : supervisor.topology.service? service.name = some service)
    (standing : startup.stages.get? service.name = some stage)
    (step : StageStep supervisor now startup board service stage happening next after effects)
    (state : State) :
    Housed supervisor (history ++ [⟨now, happening, effects, state⟩])
      (startup.setStage service.name next) after := by
  have ownFits := fits.stageFits declared standing
  intro other otherStage otherDeclared otherStanding
  rw [Startup.get?_setStage] at otherStanding
  by_cases same : other.name = service.name
  · rw [same, declared] at otherDeclared
    cases otherDeclared
    rw [if_pos rfl] at otherStanding
    cases otherStanding
    exact (housed service stage declared standing).step ownFits fits.board step state
  · rw [if_neg same] at otherStanding
    apply (housed other otherStage otherDeclared otherStanding).frame
    · exact (step.boardStep ownFits state).livesOf_of_ne (Ne.symm same) fits.board.running
    · intro slot launched
      rw [step.launched?_service state launched]
      exact Ne.symm same

theorem Run.housed {state : State} (run : supervisor.Run mail history state)
    (starting : state.phase = .starting startup) :
    Housed supervisor history startup state.board := by
  induction run generalizing startup with
  | start =>
    cases starting
    exact .start supervisor
  | exchange mailbox allowed before induction => cases starting
  | @step history state moment happening move before made induction =>
    have step := Step.of_step? made
    have former := before.invariant.phase
    generalize move.next = next at step starting ⊢
    generalize move.effects = effects at step ⊢
    cases step with
    | stage declared standing step =>
      cases starting
      exact (induction rfl).step former declared standing step _
    | joined standing hasEnded fresh =>
      cases starting
      intro service stage declared found
      apply (induction rfl service stage declared found).frame rfl
      intro slot launched
      cases launched
    | startupFailed settled failed down => exact absurd starting (down.ne_of_up rfl)
    | shutdown heeds down => exact absurd starting (down.ne_of_up rfl)
    | handled taken proceeds => exact absurd starting proceeds.ne_starting
    | repaired begun proceeds => exact absurd starting proceeds.ne_starting
    | stopped down => exact absurd starting (down.ne_of_up rfl)
    | _ => cases starting

/-- A slot of a service that does not run to an end. -/
def Endless (supervisor : Supervisor) (slot : Slot) : Prop :=
  ∃ service, supervisor.topology.service? slot.service = some service ∧
    service.role.isOneShot = false

/-- When the startup is over, only instances of services that run on are live. -/
theorem Housed.endless (housed : Housed supervisor history startup board)
    (fits : StartupFits supervisor history startup board) (founded : Founded supervisor history)
    (settled : startup.isSettled = true) (sound : startup.failure? = none) :
    ∀ live ∈ board.running, Endless supervisor live.slot := by
  intro live member
  rcases founded.launched live.slot (slot_mem_launches (fits.board.running.subset member)) with
    ⟨service, declared, -⟩
  refine ⟨service, declared, ?_⟩
  have named := Topology.service?_name declared
  rw [← named] at declared
  have ended := fits.final _ _ (fits.allUp settled sound service declared) rfl
  have lives := housed service _ declared ended
  have own : live ∈ board.livesOf service.name :=
    List.mem_filter.2 ⟨member, by simpa using named.symm⟩
  -- A one-shot service that has come to its end has no live instances.
  by_contra endless
  rw [Bool.not_eq_false] at endless
  simp only [StageHoused, endless, if_true] at lives
  rw [lives] at own
  cases own

end Supervisor

end Convoy
