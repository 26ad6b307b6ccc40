import Convoy.Proofs.Supervisor.Accounted
import Convoy.Proofs.Supervisor.Restart
import Convoy.Proofs.Supervisor.Roster

/-!
# Traffic goes to the instances that serve

Between two reports the routing table holds exactly the slots whose instances serve. It is empty
until the topology is up and after it has been taken down, and a slot whose instance has been asked
to stop is not in it before the next launch for the slot has succeeded.
-/

namespace Convoy

/-- A slot is watched, and its instance serves. -/
def Control.Serves (control : Control) (slot : Slot) : Prop :=
  ∃ watched, control.find? slot = some watched ∧ watched.health.serving = true

namespace Control

variable {control : Control}

theorem Agrees.serves_iff {other : Control} (agrees : control.Agrees other) (slot : Slot) :
    other.Serves slot ↔ control.Serves slot := by
  have serves : ∀ control : Control, control.Serves slot ↔
      ∃ watched, (control.find? slot).map Watched.unmonitored = some watched ∧
        watched.health.serving = true := by
    intro control
    constructor
    · rintro ⟨watched, found, serving⟩
      exact ⟨watched.unmonitored, by rw [found]; rfl, serving⟩
    · rintro ⟨watched, found, serving⟩
      rcases Option.map_eq_some_iff.1 found with ⟨former, formerFound, rfl⟩
      exact ⟨former, formerFound, serving⟩
  rw [serves, serves, agrees.find? slot]

theorem serves_put {slot : Slot} {watched former : Watched}
    (found : control.find? slot = some former) (other : Slot) (own : watched.slot = slot) :
    (control.put watched).Serves other ↔
      if other = slot then watched.health.serving = true else control.Serves other := by
  subst own
  unfold Serves
  rw [find?_put found]
  by_cases own : other = watched.slot <;> simp [own]

end Control

namespace Supervisor

open History Effect

variable {supervisor : Supervisor} {mail : Mail} {history : List Turn} {state next : State}
  {control : Control} {board after : Board} {now : Duration} {phase : Phase}
  {happening : Happening} {effects : List Effect}

/-! ## What the table holds -/

/-- Exactly the slots of a control that serve get traffic, but for one. -/
def Served (control : Control) (board : Board) (withheld : Option Slot) : Prop :=
  ∀ slot, board.routing.contains slot = true ↔ withheld ≠ some slot ∧ control.Serves slot

theorem Served.agrees {withheld : Option Slot} (served : Served control board withheld)
    {other : Control} (agrees : control.Agrees other) : Served other board withheld := by
  intro slot
  rw [agrees.serves_iff]
  exact served slot

/-- What the routing table holds after the control loop has acted. -/
def LoopServed (progress : Loop) : Prop :=
  match progress.progress with
  | .done => Served progress.control progress.board none
  | .repairing repair => Served progress.control progress.board (some repair.old.slot)
  | .broken _ => True

theorem Applied.loopServed {report : Report} {progress : Loop}
    (applied : Applied supervisor control board report progress effects)
    (served : Served control board none) : LoopServed progress := by
  cases applied with
  | stale old => exact served
  | @quiet watched kind success effects found current finding quiet logs =>
    have slot := (Control.find?_slot found).2
    intro other
    rw [Board.contains_reroute, slot, Control.serves_put found other]
    · by_cases own : other = report.slot
      · -- The actions that follow from an answer agree with what it does to the health.
        have before : board.routing.contains report.slot = watched.health.serving := by
          rw [Bool.eq_iff_iff]
          simpa [Control.Serves, found] using served report.slot
        simp [own, Health.serving_observe, before]
      · simpa [own] using served other
    · rfl
  | exhausted found current spent logs condemned => trivial
  | @repair watched health mailbox actions effects found current same left logs condemned =>
    have slot := (Control.find?_slot found).2
    intro other
    have exchanged : Control.find? { control with mailbox := mailbox } report.slot = some watched :=
      found
    have before : Served { control with mailbox := mailbox } board none := served
    refine (Board.contains_unroute _ _ _).trans ?_
    rw [Board.contains_reroute, Watched.current, slot, Control.serves_put exchanged other]
    · by_cases own : other = report.slot
      · simp [own]
      · simpa [own, Ne.symm own] using before other
    · rfl

theorem Finished.loopServed {slot : Slot} {failure : Option Failure} {progress : Loop}
    (finished : Finished supervisor now control board slot failure progress effects)
    (served : Served control board (some slot)) : LoopServed progress := by
  cases finished with
  | failed => trivial
  | @renewed old line found =>
    intro other
    have contained : (renewedBoard board slot old.health.restarted.serving).routing.contains other =
        true ↔ (other = slot ∧ old.health.restarted.serving = true) ∨
          board.routing.contains other = true := by
      cases old.health.restarted.serving with
      | true =>
        refine (Board.contains_route (board.replace slot) slot other).trans ?_
        simp [Board.replace]
      | false => simp [renewedBoard, Board.replace]
    rw [contained, served other, Control.serves_put found other]
    · by_cases same : other = slot
      · simp [same, Watched.monitored, Watched.renewed]
      · simp [same, Ne.symm same]
    · exact (Control.find?_slot found).2

/-- When the topology is up, exactly the instances that serve get traffic. -/
theorem Served.watchAll (supervisor : Supervisor) (now : Duration)
    (distinct : (board.running.map (·.slot)).Nodup) (unrouted : board.routing = .empty) :
    Served (supervisor.watchAll now board).next.1 (supervisor.watchAll now board).next.2 none := by
  have routed : ∀ (serving : List Watched) (board : Board) (slot : Slot),
      (serving.foldl (fun board found => board.route found.slot) board).routing.contains slot =
        true ↔ (∃ found ∈ serving, slot = found.slot) ∨ board.routing.contains slot = true := by
    intro serving
    induction serving with
    | nil => simp
    | cons first rest induction =>
      intro board slot
      rw [List.foldl_cons, induction, Board.contains_route, List.exists_mem_cons_iff]
      simp only [or_assoc, or_left_comm]
  have kept := (watchAll_board supervisor now board unrouted).1
  have aligned := (Tended.watchAll supervisor now distinct kept).aligned
  intro slot
  refine (routed _ board slot).trans ?_
  rw [unrouted]
  constructor
  · rintro (⟨found, serving, rfl⟩ | contained)
    · rcases List.mem_filter.1 serving with ⟨member, serves⟩
      exact ⟨by simp, found, aligned.find?_eq member, serves⟩
    · cases contained
  · rintro ⟨-, watched, found, serves⟩
    rcases Control.find?_slot found with ⟨member, rfl⟩
    exact Or.inl ⟨watched, List.mem_filter.2 ⟨member, serves⟩, rfl⟩

/-- What the routing table holds in a phase. -/
def PhaseRouted (supervisor : Supervisor) (history : List Turn) (board : Board) : Phase → Prop
  | .starting _ => ∀ slot, board.routing.contains slot = false
  | .supervising control =>
    Served control board none ∧ ∀ live ∈ board.running, Endless supervisor live.slot
  | .repairing control repair =>
    Served control board (some repair.old.slot) ∧
      ∀ live ∈ board.running, Endless supervisor live.slot
  | _ => ∀ slot, board.routing.contains slot = true →
      Endless supervisor slot ∧ AllUp supervisor history

/-- Taking instances down gives no slot traffic, and takes it from those that are asked to stop. -/
theorem Stopping.contains {failure : Option Failure} {left : List Instance}
    (down : Stopping failure board left phase after effects) {slot : Slot}
    (contained : after.routing.contains slot = true) :
    board.routing.contains slot = true ∧ ∀ target ∈ stops effects, target.slot ≠ slot := by
  cases down with
  | ended => exact ⟨contained, fun target member => nomatch member⟩
  | next =>
    rcases (Board.contains_unroute _ _ _).1 contained with ⟨different, former⟩
    refine ⟨former, ?_⟩
    intro target member
    rw [List.mem_singleton.1 member]
    exact Ne.symm different

theorem Stopping.phaseRouted {failure : Option Failure} {left : List Instance}
    (down : Stopping failure { board with running := [] } left phase after effects)
    (granted : ∀ slot, board.routing.contains slot = true →
      Endless supervisor slot ∧ AllUp supervisor history) :
    PhaseRouted supervisor history after phase := by
  have routed : ∀ slot, after.routing.contains slot = true →
      Endless supervisor slot ∧ AllUp supervisor history :=
    fun slot contained => granted slot (down.contains contained).1
  cases down with
  | ended => exact routed
  | next => exact routed

theorem Proceeds.phaseRouted {progress : Loop}
    (proceeds : Proceeds progress phase after effects) (served : LoopServed progress)
    (endless : ∀ live ∈ progress.board.running, Endless supervisor live.slot)
    (routed : progress.board.Routed (progress.board.running.map (·.slot)))
    (up : AllUp supervisor history) : PhaseRouted supervisor history after phase := by
  cases proceeds with
  | done => exact ⟨served, endless⟩
  | repairing => exact ⟨served, endless⟩
  | broken down =>
    apply down.phaseRouted
    intro slot contained
    rcases List.mem_map.1 (routed.within slot contained) with ⟨live, member, rfl⟩
    exact ⟨endless live member, up⟩

theorem PhaseRouted.step (run : supervisor.Run mail history state)
    (routed : PhaseRouted supervisor history state.board state.phase)
    (step : Step supervisor now state happening next effects) :
    PhaseRouted supervisor (history ++ [⟨now, happening, effects, next⟩]) next.board next.phase := by
  have invariant := run.invariant
  have former := invariant.phase
  have within := run.accounted.routed
  have later := (invariant.step step).phase
  cases step with
  | stage declared standing step =>
    intro slot
    rw [later.board.unrouted]
    rfl
  | joined standing fresh => exact routed
  | @startedUp moment startup board line settled sound =>
    have distinct : (board.running.map (·.slot)).Nodup := by
      apply List.Nodup.sublist _ former.board.distinct
      rw [← map_slot_instances]
      exact former.board.running.map _
    refine ⟨.watchAll supervisor now distinct former.board.unrouted, ?_⟩
    rw [(watchAll_board supervisor now board former.board.unrouted).1]
    exact (run.housed rfl).endless former invariant.founded settled sound
  | startupFailed settled failed down =>
    apply down.phaseRouted
    intro slot contained
    rw [routed slot] at contained
    cases contained
  | shutdown heeds down =>
    apply down.phaseRouted
    intro slot contained
    cases heeds with
    | starting =>
      rw [routed slot] at contained
      cases contained
    | supervising =>
      rcases List.mem_map.1 (within.within slot contained) with ⟨live, member, rfl⟩
      exact ⟨routed.2 live member, former.1.append _⟩
  | @handled moment control left board after report phase effects taken proceeds =>
    rcases former.2.applied taken with ⟨tended, applied⟩
    have agrees := agrees_take? former.2.aligned.watched_distinct taken
    have kept := applied.board_eq.1
    apply proceeds.phaseRouted (applied.loopServed (routed.1.agrees agrees))
    · rw [kept]
      exact routed.2
    · rw [kept]
      apply applied.routed within
      intro watched member
      exact List.mem_map_of_mem (f := Instance.slot) (tended.aligned.current_mem member)
    · exact former.1.append _
  | monitored seen =>
    exact ⟨routed.1.agrees (agrees_monitorStep? former.2.aligned.watched_distinct seen), routed.2⟩
  | relaunched stopping => exact routed
  | @repaired moment control board after repair failure phase effects starting proceeds =>
    rcases former with ⟨up, mending⟩
    have finished := mending.finished supervisor now failure
    apply proceeds.phaseRouted (finished.loopServed routed.1) _ _ (up.append _)
    · rcases finished.board_eq with ⟨-, same⟩ | ⟨-, -, replaced, -⟩
      · rw [same]
        exact routed.2
      · rw [replaced]
        intro live member
        rcases List.mem_map.1 member with ⟨other, otherMember, rfl⟩
        split
        · exact routed.2 repair.old mending.replaced
        · exact routed.2 other otherMember
    · exact finished.routed within (List.mem_map_of_mem (f := Instance.slot) mending.replaced)
  | monitoredMeanwhile seen =>
    exact ⟨routed.1.agrees (agrees_monitorStep? former.2.aligned.watched_distinct seen), routed.2⟩
  | @stopped moment current rest board after failure refusal phase effects down =>
    have emptied : { board with running := [] } = board := by
      rw [← show board.running = [] from former]
    rw [← emptied] at down
    apply down.phaseRouted
    intro slot contained
    rcases routed slot contained with ⟨endless, up⟩
    exact ⟨endless, up.append _⟩

theorem Run.phaseRouted (run : supervisor.Run mail history state) :
    PhaseRouted supervisor history state.board state.phase := by
  induction run with
  | start =>
    intro slot
    rfl
  | exchange mailbox allowed before induction => exact induction
  | step before made induction => exact induction.step before (.of_step? made)

/-! ## Slots whose instance is asked to stop -/

/-- The instance in a slot has been asked to stop, and no launch for the slot has succeeded since. -/
def Withdrawn (history : List Turn) (slot : Slot) : Prop :=
  ∃ earlier turn later, history = earlier ++ turn :: later ∧
    (∃ target ∈ stops turn.effects, target.slot = slot) ∧
    ∀ further ∈ later, further.launched? ≠ some slot

theorem Withdrawn.of_concat {turn : Turn} {slot : Slot}
    (withdrawn : Withdrawn (history ++ [turn]) slot) :
    (∃ target ∈ stops turn.effects, target.slot = slot) ∨
      Withdrawn history slot ∧ turn.launched? ≠ some slot := by
  rcases withdrawn with ⟨earlier, asking, later, parts, asked, unfilled⟩
  rcases List.eq_nil_or_concat later with rfl | ⟨front, last, rfl⟩
  · rcases List.append_inj' parts rfl with ⟨-, same⟩
    cases same
    exact Or.inl asked
  · rw [List.concat_eq_append, ← List.cons_append, ← List.append_assoc] at parts
    rcases List.append_inj' parts rfl with ⟨rfl, same⟩
    cases same
    simp only [List.concat_eq_append, List.mem_append, List.mem_singleton] at unfilled
    right
    exact ⟨⟨earlier, asking, front, rfl, asked, fun further member =>
      unfilled further (Or.inl member)⟩, unfilled turn (Or.inr rfl)⟩

/-- Where a run stands if a slot has been withdrawn. -/
def PhaseWithdrawn (board : Board) (slot : Slot) : Phase → Prop
  | .starting _ => False
  | .supervising _ => False
  | .repairing _ repair => repair.old.slot = slot
  | _ => board.routing.contains slot = false

theorem Stopping.phaseWithdrawn {failure : Option Failure} {left : List Instance} {slot : Slot}
    (down : Stopping failure board left phase after effects)
    (withheld : (∃ target ∈ stops effects, target.slot = slot) ∨
      board.routing.contains slot = false) : PhaseWithdrawn after slot phase := by
  have unrouted : after.routing.contains slot = false := by
    rw [← Bool.not_eq_true]
    intro contained
    rcases down.contains contained with ⟨former, others⟩
    rcases withheld with ⟨target, member, own⟩ | absent
    · exact others target member own
    · rw [absent] at former
      cases former
  cases down with
  | ended => exact unrouted
  | next => exact unrouted

theorem Proceeds.phaseWithdrawn {progress : Loop} {slot : Slot}
    (proceeds : Proceeds progress phase after effects)
    (withheld : (∃ target ∈ Progress.stops progress.progress ++ stops effects,
        target.slot = slot) ∨
      (∃ failure, progress.progress = .broken failure) ∧
        progress.board.routing.contains slot = false) : PhaseWithdrawn after slot phase := by
  cases proceeds with
  | done => simp [Progress.stops, stops] at withheld
  | repairing => simpa [Progress.stops, stops, PhaseWithdrawn] using withheld
  | broken down =>
    apply down.phaseWithdrawn
    simpa [Progress.stops] using withheld

theorem phaseWithdrawn_step (invariant : Invariant supervisor history state)
    (routed : PhaseRouted supervisor history state.board state.phase) {slot : Slot}
    (before : Withdrawn history slot → PhaseWithdrawn state.board slot state.phase)
    (step : Step supervisor now state happening next effects)
    (withdrawn : Withdrawn (history ++ [⟨now, happening, effects, next⟩]) slot) :
    PhaseWithdrawn next.board slot next.phase := by
  have former := invariant.phase
  have either := withdrawn.of_concat
  have still : stops effects = [] → PhaseWithdrawn state.board slot state.phase := by
    intro silent
    rcases either with ⟨target, member, -⟩ | ⟨old, -⟩
    · rw [silent] at member
      cases member
    · exact before old
  dsimp only at either
  cases step with
  | stage declared standing step => exact still step.silent.1
  | joined standing fresh => exact still rfl
  | startedUp settled sound => exact still (watchAll_silent _ _ _).stops
  | startupFailed settled failed down =>
    exact down.phaseWithdrawn (either.imp_right fun old => (before old.1).elim)
  | shutdown heeds down =>
    refine down.phaseWithdrawn (either.imp_right fun old => ?_)
    cases heeds with
    | starting => exact (before old.1).elim
    | supervising => exact (before old.1).elim
  | handled taken proceeds =>
    rw [stops_append, (former.2.applied taken).2.asks.2.1] at either
    exact proceeds.phaseWithdrawn (either.imp_right fun old => (before old.1).elim)
  | monitored seen => exact still rfl
  | relaunched stopping => exact still (relaunch_asks _ _ _ _ _).2.1
  | @repaired moment control board after repair failure phase effects starting proceeds =>
    rw [stops_append, (former.2.finished supervisor now failure).asks.2, List.nil_append] at either
    apply proceeds.phaseWithdrawn
    rcases either with ⟨target, member, own⟩ | ⟨old, unfilled⟩
    · exact Or.inl ⟨target, List.mem_append_right _ member, own⟩
    · -- The slot of a restart is withdrawn until the launch has succeeded.
      have same : repair.old.slot = slot := before old
      subst same
      cases failure with
      | none => exact absurd rfl unfilled
      | some reason =>
        refine Or.inr ⟨⟨_, rfl⟩, ?_⟩
        rw [← Bool.not_eq_true]
        intro contained
        exact ((routed.1 _).1 contained).1 rfl
  | monitoredMeanwhile seen => exact still rfl
  | stopped down =>
    rw [stops_append, (stopEffects_silent _ _).stops, List.nil_append] at either
    exact down.phaseWithdrawn (either.imp_right fun old => before old.1)

theorem Run.phaseWithdrawn (run : supervisor.Run mail history state) {slot : Slot}
    (withdrawn : Withdrawn history slot) : PhaseWithdrawn state.board slot state.phase := by
  induction run with
  | start =>
    rcases withdrawn with ⟨earlier, turn, later, parts, -⟩
    simp at parts
  | exchange mailbox allowed before induction => exact induction withdrawn
  | step before made induction =>
    exact phaseWithdrawn_step before.invariant before.phaseRouted induction (.of_step? made) withdrawn

/-! ## The routing table in a run -/

/-- The routing table is coherent with everything else in a run. -/
structure RoutingCoherent (supervisor : Supervisor) (history : List Turn) (state : State) :
    Prop where
  /-- While the topology is brought up, there is no traffic. -/
  starting : ∀ startup, state.phase = .starting startup → state.board.routing = .empty
  /-- There is none either as long as a service has not come up, in whatever phase. -/
  notUp : ¬AllUp supervisor history → state.board.routing = .empty
  ended : ∀ failure, state.phase = .ended failure → state.board.routing = .empty
  /-- Between two reports, exactly the slots that are watched and serve get traffic. -/
  served : ∀ control, state.phase = .supervising control → ∀ slot,
    state.board.routing.contains slot = true ↔
      ∃ watched, control.find? slot = some watched ∧ watched.health.serving = true
  /-- From the moment at which an instance is asked to stop, its slot gets no traffic until a launch
  for the slot has succeeded. -/
  withdrawn : ∀ earlier turn later, history = earlier ++ turn :: later →
    ∀ target ∈ stops turn.effects, (∀ further ∈ later, further.launched? ≠ some target.slot) →
      state.board.routing.contains target.slot = false
  /-- Only services that do not run to an end ever get traffic. -/
  endless : ∀ slot, state.board.routing.contains slot = true →
    ∃ service, supervisor.topology.service? slot.service = some service ∧
      service.role.isOneShot = false

/-- Whatever gets traffic belongs to a service that runs on, in a topology that is up. -/
theorem Run.granted (run : supervisor.Run mail history state) {slot : Slot}
    (contained : state.board.routing.contains slot = true) :
    Endless supervisor slot ∧ AllUp supervisor history := by
  have fits := run.invariant.phase
  have routed := run.phaseRouted
  have within := run.accounted.routed.within slot contained
  rcases state with ⟨moment, phase, board⟩
  cases phase with
  | starting startup =>
    have absent := routed slot
    rw [show board.routing.contains slot = true from contained] at absent
    cases absent
  | supervising control =>
    rcases List.mem_map.1 within with ⟨live, member, rfl⟩
    exact ⟨routed.2 live member, fits.1⟩
  | repairing control repair =>
    rcases List.mem_map.1 within with ⟨live, member, rfl⟩
    exact ⟨routed.2 live member, fits.1⟩
  | stopping current rest failure => exact routed slot contained
  | ended failure => exact routed slot contained

/-- In every run, the routing table is coherent. -/
theorem routing_coherent (run : supervisor.Run mail history state) :
    RoutingCoherent supervisor history state := by
  have routed := run.phaseRouted
  have within := run.accounted.routed
  have empty : (∀ slot, state.board.routing.contains slot ≠ true) →
      state.board.routing = .empty := within.tidy.eq_empty
  constructor
  · intro startup starting
    rw [starting] at routed
    apply empty
    intro slot
    rw [routed slot]
    exact Bool.false_ne_true
  · intro notUp
    apply empty
    intro slot contained
    exact notUp (run.granted contained).2
  · intro failure ended
    apply empty
    intro slot contained
    have left := within.within slot contained
    rw [State.left, ended] at left
    cases left
  · intro control supervising slot
    rw [supervising] at routed
    simpa [Control.Serves] using routed.1 slot
  · intro earlier turn later parts target asked unfilled
    have withdrawn := run.phaseWithdrawn ⟨earlier, turn, later, parts, ⟨target, asked, rfl⟩, unfilled⟩
    rcases state with ⟨moment, phase, board⟩
    cases phase with
    | starting startup => exact withdrawn.elim
    | supervising control => exact withdrawn.elim
    | repairing control repair =>
      have own : repair.old.slot = target.slot := withdrawn
      rw [← Bool.not_eq_true]
      intro contained
      exact ((routed.1 _).1 contained).1 (congrArg some own)
    | stopping current rest failure => exact withdrawn
    | ended failure => exact withdrawn
  · intro slot contained
    exact (run.granted contained).1

/-- After a restart the application of the small stack gets traffic again. -/
theorem small_routing_coherent :
    ∃ earlier turn state, small.Run .arbitrary (earlier ++ [turn]) state ∧
      state.board.routing.contains ⟨"app", 0⟩ = true ∧
      restartsOf ⟨"app", 0⟩ (earlier ++ [turn]) = [1] ∧
      RoutingCoherent small (earlier ++ [turn]) state := by
  rcases exists_run_of_replay? small .arbitrary small.mend
    (fun earlier turn state => state.board.routing.contains ⟨"app", 0⟩ &&
      decide (restartsOf ⟨"app", 0⟩ (earlier ++ [turn]) = [1]))
    (by decide +kernel) with ⟨earlier, turn, state, run, tested⟩
  rcases Bool.and_eq_true_iff.1 tested with ⟨routed, restarted⟩
  exact ⟨earlier, turn, state, run, routed, of_decide_eq_true restarted, routing_coherent run⟩

end Supervisor

end Convoy
