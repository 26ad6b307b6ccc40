import Convoy.Proofs.Supervisor.Invariant
import Convoy.Proofs.Supervisor.Requests

/-!
# No instance is left behind

At every moment of a run each instance that was launched is still to be stopped, unless it has been
asked to stop already, or its startup has awaited its exit. Only slots of instances that are still to
be stopped get traffic.
-/

namespace Convoy

namespace History

open Effect

/-- The startup of a one-shot service has awaited the exit of one of its instances. -/
def AwaitedExit (supervisor : Supervisor) (history : List Turn) (live : Instance) : Prop :=
  ∃ service, supervisor.topology.service? live.slot.service = some service ∧
    service.role.isOneShot = true ∧
    ∃ turn ∈ history, (∃ startup, turn.after.phase = .starting startup) ∧
      ∃ code, turn.happening = .exited live (.ok code)

/-- An instance has been asked to stop. -/
def StopAsked (history : List Turn) (live : Instance) : Prop :=
  ∃ turn ∈ history, live ∈ stops turn.effects

variable {supervisor : Supervisor} {history : List Turn} {turn : Turn}

theorem AwaitedExit.append {live : Instance} (awaited : AwaitedExit supervisor history live)
    (later : List Turn) : AwaitedExit supervisor (history ++ later) live := by
  rcases awaited with ⟨service, declared, oneShot, turn, member, shown⟩
  exact ⟨service, declared, oneShot, turn, List.mem_append_left later member, shown⟩

theorem StopAsked.append {live : Instance} (asked : StopAsked history live)
    (later : List Turn) : StopAsked (history ++ later) live := by
  rcases asked with ⟨turn, member, stop⟩
  exact ⟨turn, List.mem_append_left later member, stop⟩

theorem StopAsked.concat {live : Instance} (stop : live ∈ stops turn.effects) :
    StopAsked (history ++ [turn]) live :=
  ⟨turn, List.mem_append_right history (List.mem_singleton_self turn), stop⟩

end History

namespace Supervisor

open History Effect

/-- The instances that are still to be asked to stop. -/
def State.left (state : State) : List Instance :=
  match state.phase with
  | .stopping _ rest _ => rest
  | .ended _ => []
  | _ => state.board.running

/-- The instance that has been asked to stop while the topology is taken down, and has not stopped
yet. -/
def State.asked (state : State) : List Instance :=
  match state.phase with
  | .stopping current _ _ => [current]
  | _ => []

/-- No instance is left behind: each one is still to be asked to stop, unless it has been asked or
its exit has been awaited. -/
structure Accounted (supervisor : Supervisor) (history : List Turn) (state : State) : Prop where
  covered : ∀ live ∈ instances history,
    live ∈ state.left ∨ AwaitedExit supervisor history live ∨ StopAsked history live
  routed : state.board.Routed (state.left.map (·.slot))

variable {supervisor : Supervisor} {mail : Mail} {history : List Turn} {state : State}
  {now : Duration} {board after : Board} {phase : Phase} {effects : List Effect}

/-- Of the instances that are to be stopped, one is asked to and the others are left. -/
theorem Stopping.asked_append_left {failure : Option Failure} {left : List Instance}
    (down : Stopping failure board left phase after effects) (now : Duration) :
    stops effects = State.asked ⟨now, phase, after⟩ ∧
      State.asked ⟨now, phase, after⟩ ++ State.left ⟨now, phase, after⟩ = left := by
  cases down with
  | ended => exact ⟨rfl, rfl⟩
  | next => exact ⟨rfl, rfl⟩

theorem Stopping.kept {failure : Option Failure} {left : List Instance}
    (down : Stopping failure board left phase after effects) (now : Duration) {live : Instance}
    (member : live ∈ left) :
    live ∈ stops effects ∨ live ∈ State.left ⟨now, phase, after⟩ := by
  rcases down.asked_append_left now with ⟨stops, parts⟩
  rw [← parts] at member
  rw [stops]
  exact List.mem_append.1 member

theorem Stopping.routed {failure : Option Failure} {left : List Instance}
    (down : Stopping failure board left phase after effects)
    (routed : board.Routed (left.map (·.slot))) :
    after.Routed ((State.left ⟨now, phase, after⟩).map (·.slot)) := by
  cases down with
  | ended => exact routed
  | next => exact routed.unroute_head

/-- When all live instances are stopped, none of them is left behind. -/
theorem Stopping.all {failure : Option Failure}
    (down : Stopping failure { board with running := [] } board.running.reverse phase after effects)
    (now : Duration) (routed : board.Routed (board.running.map (·.slot))) :
    (∀ live ∈ board.running, live ∈ stops effects ∨ live ∈ State.left ⟨now, phase, after⟩) ∧
      after.Routed ((State.left ⟨now, phase, after⟩).map (·.slot)) := by
  have reversed : board.Routed (board.running.reverse.map (·.slot)) := routed.subset (by simp)
  refine ⟨?_, down.routed ⟨reversed.tidy, reversed.within⟩⟩
  intro live member
  exact down.kept now (List.mem_reverse.2 member)

/-- However the control loop goes on, no live instance is left behind. -/
theorem Proceeds.all {progress : Loop} (proceeds : Proceeds progress phase after effects)
    (now : Duration) (routed : progress.board.Routed (progress.board.running.map (·.slot))) :
    (∀ live ∈ progress.board.running,
        live ∈ stops effects ∨ live ∈ State.left ⟨now, phase, after⟩) ∧
      after.Routed ((State.left ⟨now, phase, after⟩).map (·.slot)) := by
  cases proceeds with
  | done => exact ⟨fun live member => Or.inr member, routed⟩
  | repairing => exact ⟨fun live member => Or.inr member, routed⟩
  | broken down => exact down.all now routed

/-- A report routes traffic only to slots that are watched. -/
theorem Applied.routed {control : Control} {report : Report} {progress : Loop} {slots : List Slot}
    (applied : Applied supervisor control board report progress effects)
    (routed : board.Routed slots) (known : ∀ watched ∈ control.watched, watched.slot ∈ slots) :
    progress.board.Routed slots := by
  cases applied with
  | stale old => exact routed
  | quiet found current finding quiet logs =>
    exact routed.reroute (known _ (Control.find?_slot found).1) _
  | exhausted found current spent logs =>
    exact routed.reroute (known _ (Control.find?_slot found).1) _
  | repair found current same left logs =>
    exact (routed.reroute (known _ (Control.find?_slot found).1) _).unroute _

/-- A new instance gets traffic only in its own slot. -/
theorem Finished.routed {control : Control} {slot : Slot} {failure : Option Failure}
    {progress : Loop}
    (finished : Finished supervisor now control board slot failure progress effects)
    (routed : board.Routed (board.running.map (·.slot)))
    (member : slot ∈ board.running.map (·.slot)) :
    progress.board.Routed (progress.board.running.map (·.slot)) := by
  cases finished with
  | failed => exact routed
  | @renewed old line found =>
    have replaced : (board.replace slot).Routed (board.running.map (·.slot)) :=
      ⟨routed.tidy, routed.within⟩
    rw [running_renewedBoard, Board.map_slot_replace]
    cases old.health.restarted.serving with
    | true => exact replaced.route member
    | false => exact replaced

/-! ## No instance is left behind -/

theorem Accounted.start : Accounted supervisor [] (.initial supervisor) where
  covered := by
    intro live member
    cases member
  routed := .of_empty rfl _

/-- A turn leaves no instance behind if it leaves none of those that were still to be stopped, nor
the one that it launches. -/
theorem Accounted.concat (accounted : Accounted supervisor history state) {turn : Turn}
    {next : State}
    (kept : ∀ live ∈ state.left, live ∈ next.left ∨
      AwaitedExit supervisor (history ++ [turn]) live ∨ StopAsked (history ++ [turn]) live)
    (launched : ∀ slot, turn.launched? = some slot →
      ⟨slot, (launches history).length⟩ ∈ next.left ∨
        StopAsked (history ++ [turn]) ⟨slot, (launches history).length⟩)
    (routed : next.board.Routed (next.left.map (·.slot))) :
    Accounted supervisor (history ++ [turn]) next := by
  have former : ∀ live ∈ instances history, live ∈ next.left ∨
      AwaitedExit supervisor (history ++ [turn]) live ∨ StopAsked (history ++ [turn]) live := by
    intro live member
    rcases accounted.covered live member with still | awaited | asked
    · exact kept live still
    · exact Or.inr (Or.inl (awaited.append [turn]))
    · exact Or.inr (Or.inr (asked.append [turn]))
  refine ⟨?_, routed⟩
  intro live member
  cases fresh : turn.launched? with
  | none =>
    rw [instances_concat_of_not_launched fresh] at member
    exact former live member
  | some slot =>
    rw [instances_concat_of_launched fresh] at member
    rcases List.mem_append.1 member with before | new
    · exact former live before
    · rw [List.mem_singleton.1 new]
      exact (launched slot fresh).imp_right Or.inr

/-- A turn that launches nothing and leaves the same instances to be stopped. -/
theorem Accounted.still (accounted : Accounted supervisor history state) {turn : Turn}
    {next : State} (still : turn.launched? = none) (left : next.left = state.left)
    (routed : next.board.Routed (state.left.map (·.slot))) :
    Accounted supervisor (history ++ [turn]) next := by
  rw [← left] at routed
  refine accounted.concat ?_ ?_ routed
  · intro live member
    rw [left]
    exact Or.inl member
  · intro slot launched
    rw [still] at launched
    cases launched

/-- A turn that launches nothing, and asks the instances to stop that are not left to be stopped. -/
theorem Accounted.down (accounted : Accounted supervisor history state) {turn : Turn}
    {next : State} (still : turn.launched? = none)
    (kept : ∀ live ∈ state.left, live ∈ stops turn.effects ∨ live ∈ next.left)
    (routed : next.board.Routed (next.left.map (·.slot))) :
    Accounted supervisor (history ++ [turn]) next := by
  refine accounted.concat ?_ ?_ routed
  · intro live member
    rcases kept live member with asked | left
    · exact Or.inr (Or.inr (.concat asked))
    · exact Or.inl left
  · intro slot launched
    rw [still] at launched
    cases launched

theorem Accounted.stage
    {moment : Duration} {startup startup' : Startup} {service : Service} {turn : Turn}
    (accounted : Accounted supervisor history ⟨moment, .starting startup, board⟩)
    (invariant : Invariant supervisor history ⟨moment, .starting startup, board⟩)
    (declared : supervisor.topology.service? service.name = some service)
    (starting : turn.after.phase = .starting startup')
    (step : BoardStep supervisor history turn service board after)
    (unrouted : after.routing = .empty) :
    Accounted supervisor (history ++ [turn]) ⟨now, .starting startup', after⟩ := by
  refine accounted.concat ?_ ?_ (.of_empty unrouted _)
  · intro live member
    cases step with
    | same still => exact Or.inl member
    | entered launched filled small cleared => exact Or.inl (List.mem_append_left _ member)
    | @forgotten exited code happened oneShot own =>
      by_cases same : live.id = exited.id
      · right
        left
        have launched := mem_instancesOf.1 own
        have equal := instances_ext (invariant.running live member) launched.1 same
        subst equal
        refine ⟨service, ?_, oneShot, turn, List.mem_append_right _ (List.mem_singleton_self _),
          ⟨startup', starting⟩, code, happened⟩
        rw [launched.2]
        exact declared
      · left
        exact List.mem_filter.2 ⟨member, by simpa using same⟩
  · intro slot launched
    cases step with
    | same still =>
      rw [still] at launched
      cases launched
    | entered entered filled small cleared =>
      rw [entered] at launched
      cases launched
      rw [← invariant.count]
      exact Or.inl (List.mem_append_right _ (List.mem_singleton_self _))
    | forgotten happened oneShot own =>
      unfold Turn.launched? at launched
      rw [happened] at launched
      cases launched

theorem Proceeds.progress_eq {progress : Loop} (proceeds : Proceeds progress phase after effects)
    {control : Control} {repair : Repair} (repairing : phase = .repairing control repair) :
    progress.progress = .repairing repair := by
  cases proceeds with
  | done => cases repairing
  | repairing =>
    cases repairing
    rfl
  | broken down => exact absurd repairing (down.ne_of_up rfl)

theorem Finished.progress_ne {control : Control} {slot : Slot} {failure : Option Failure}
    {progress : Loop}
    (finished : Finished supervisor now control board slot failure progress effects)
    (repair : Repair) : progress.progress ≠ .repairing repair := by
  cases finished <;> simp

/-- An instance that is being replaced has been asked to stop. -/
theorem Run.stopAsked_of_repairing (run : supervisor.Run mail history state) {control : Control}
    {repair : Repair} (repairing : state.phase = .repairing control repair) :
    StopAsked history repair.old := by
  induction run generalizing control repair with
  | start => cases repairing
  | exchange mailbox allowed before induction => cases repairing
  | @step history state moment happening move before made induction =>
    have step := Step.of_step? made
    have former := before.invariant.phase
    generalize move.next = next at step repairing ⊢
    generalize move.effects = effects at step ⊢
    cases step with
    | handled taken proceeds =>
      rcases former.2.applied taken with ⟨-, applied⟩
      apply StopAsked.concat
      rw [stops_append, applied.asks.2.1, proceeds.progress_eq repairing]
      exact List.mem_append_left _ (List.mem_singleton_self _)
    | @repaired _ control' board after old failure phase effects starting proceeds =>
      have finished := former.2.finished supervisor moment failure
      exact absurd (proceeds.progress_eq repairing) (finished.progress_ne repair)
    | relaunched stopping =>
      cases repairing
      exact (induction rfl).append _
    | monitoredMeanwhile seen =>
      cases repairing
      exact (induction rfl).append _
    | startupFailed settled failed down => exact absurd repairing (down.ne_of_up rfl)
    | shutdown heeds down => exact absurd repairing (down.ne_of_up rfl)
    | stopped down => exact absurd repairing (down.ne_of_up rfl)
    | _ => cases repairing

/-- Whatever the control loop does about a report, an instance that is taken away is asked to stop. -/
theorem Accounted.handled {moment : Duration} {control left : Control} {report : Report}
    (accounted : Accounted supervisor history ⟨moment, .supervising control, board⟩)
    (invariant : Invariant supervisor history ⟨moment, .supervising control, board⟩)
    (taken : supervisor.take? now control = some (report, left))
    (proceeds : Proceeds (supervisor.apply left board report).next phase after effects) :
    Accounted supervisor
      (history ++ [⟨now, .handled, (supervisor.apply left board report).effects ++ effects,
        ⟨now, phase, after⟩⟩]) ⟨now, phase, after⟩ := by
  rcases invariant.phase.2.applied taken with ⟨tended, applied⟩
  have within : (supervisor.apply left board report).next.board.Routed
      (board.running.map (·.slot)) := by
    apply applied.routed accounted.routed
    intro watched member
    exact List.mem_map_of_mem (f := Instance.slot) (tended.aligned.current_mem member)
  rw [← applied.board_eq.1] at within
  rcases proceeds.all now within with ⟨kept, routed⟩
  refine accounted.down rfl ?_ routed
  intro live member
  have running : live ∈ (supervisor.apply left board report).next.board.running := by
    rw [applied.board_eq.1]
    exact member
  rw [stops_append]
  exact (kept live running).imp_left (List.mem_append_right _)

/-- When the launch of a restart has ended, the instance that was to be replaced has been asked to
stop, and a new one is in its place. -/
theorem Accounted.repaired {moment : Duration} {control : Control} {repair : Repair}
    {failure : Option Failure}
    (accounted : Accounted supervisor history ⟨moment, .repairing control repair, board⟩)
    (invariant : Invariant supervisor history ⟨moment, .repairing control repair, board⟩)
    (asked : StopAsked history repair.old)
    (proceeds : Proceeds (supervisor.finishRepair now control board repair failure).next
      phase after effects) :
    Accounted supervisor
      (history ++ [⟨now, .startEnded repair.old.slot failure,
        (supervisor.finishRepair now control board repair failure).effects ++ effects,
        ⟨now, phase, after⟩⟩]) ⟨now, phase, after⟩ := by
  rcases invariant.phase with ⟨-, mending⟩
  have finished := mending.finished supervisor now failure
  have within := finished.routed accounted.routed
    (List.mem_map_of_mem (f := Instance.slot) mending.replaced)
  rcases proceeds.all now within with ⟨kept, routed⟩
  have placed :
      ∀ live ∈ (supervisor.finishRepair now control board repair failure).next.board.running,
      live ∈ State.left ⟨now, phase, after⟩ ∨
        StopAsked (history ++ [⟨now, .startEnded repair.old.slot failure,
          (supervisor.finishRepair now control board repair failure).effects ++ effects,
          ⟨now, phase, after⟩⟩]) live := by
    intro live member
    rcases kept live member with asked | left
    · right
      apply StopAsked.concat
      rw [stops_append]
      exact List.mem_append_right _ asked
    · exact Or.inl left
  rcases finished.board_eq with ⟨failed, same⟩ | ⟨rfl, -, replaced, -⟩
  · refine accounted.concat ?_ ?_ routed
    · intro live member
      rw [same] at placed
      exact (placed live member).imp_right Or.inr
    · intro slot launched
      rw [launched?_of_refused failed] at launched
      cases launched
  · refine accounted.concat ?_ ?_ routed
    · intro live member
      by_cases own : live.slot = repair.old.slot
      · have old := List.inj_on_of_nodup_map mending.aligned.distinct member mending.replaced own
        rw [old]
        exact Or.inr (Or.inr (asked.append _))
      · refine (placed live ?_).imp_right Or.inr
        rw [replaced]
        exact List.mem_map.2 ⟨live, member, if_neg own⟩
    · intro slot launched
      cases launched
      apply placed
      rw [replaced, ← invariant.count]
      exact List.mem_map.2 ⟨repair.old, mending.replaced, if_pos rfl⟩

theorem Accounted.step {next : State} {happening : Happening}
    (accounted : Accounted supervisor history state)
    (invariant : Invariant supervisor history state)
    (asked : ∀ control repair, state.phase = .repairing control repair →
      StopAsked history repair.old)
    (step : Step supervisor now state happening next effects) :
    Accounted supervisor (history ++ [⟨now, happening, effects, next⟩]) next := by
  have former := invariant.phase
  have later := (invariant.step step).phase
  cases step with
  | stage declared standing step =>
    have ownFits := StartupFits.stageFits former declared standing
    exact accounted.stage invariant declared rfl (step.boardStep ownFits _) later.board.unrouted
  | joined standing fresh => exact accounted.still rfl rfl accounted.routed
  | @startedUp moment startup board line settled sound =>
    rcases watchAll_board supervisor now board former.board.unrouted with ⟨running, -, routed⟩
    exact accounted.still rfl running routed
  | startupFailed settled failed down =>
    rcases down.all now accounted.routed with ⟨kept, routed⟩
    exact accounted.down rfl kept routed
  | shutdown heeds down =>
    cases heeds with
    | starting =>
      rcases down.all now accounted.routed with ⟨kept, routed⟩
      exact accounted.down rfl kept routed
    | supervising =>
      rcases down.all now accounted.routed with ⟨kept, routed⟩
      exact accounted.down rfl kept routed
  | handled taken proceeds => exact accounted.handled invariant taken proceeds
  | monitored seen =>
    exact accounted.still (launched?_of_monitorStep? seen _ _) rfl accounted.routed
  | relaunched stopping => exact accounted.still rfl rfl accounted.routed
  | @repaired moment control board after repair failure phase effects starting proceeds =>
    exact accounted.repaired invariant (asked control repair rfl) proceeds
  | monitoredMeanwhile seen =>
    exact accounted.still (launched?_of_monitorStep? seen _ _) rfl accounted.routed
  | stopped down =>
    refine accounted.down rfl ?_ (down.routed accounted.routed)
    intro live member
    rw [stops_append, (stopEffects_silent _ _).stops]
    exact down.kept now member

theorem Run.accounted (run : supervisor.Run mail history state) :
    Accounted supervisor history state := by
  induction run with
  | start => exact .start
  | exchange mailbox allowed before induction => exact ⟨induction.covered, induction.routed⟩
  | step before made induction =>
    apply induction.step before.invariant _ (.of_step? made)
    intro control repair repairing
    exact before.stopAsked_of_repairing repairing

end Supervisor

end Convoy
