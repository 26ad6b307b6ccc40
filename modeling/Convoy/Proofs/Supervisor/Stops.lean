import Convoy.Proofs.Supervisor.Restart
import Convoy.Proofs.Supervisor.Shutdown
import Mathlib.Data.List.Perm.Subperm

/-!
# How often an instance is stopped

The stops that have been asked for and the live instances that are not being stopped are, together,
among the instances that have been launched, each of which is counted once. So no instance is asked
to stop twice. The one exception is a restart whose launch fails: its old instance stays listed as
live and is stopped a second time when the topology is taken down.
-/

namespace Convoy

namespace Effect

/-- The slots that effects report as stopped. -/
def farewells (effects : List Effect) : List Slot :=
  effects.filterMap fun effect =>
    match effect with
    | .event service (.stopped index) => some ⟨service, index⟩
    | _ => none

@[simp]
theorem farewells_append (effects further : List Effect) :
    farewells (effects ++ further) = farewells effects ++ farewells further :=
  List.filterMap_append

@[simp]
theorem farewells_line (line : LogLine) (effects : List Effect) :
    farewells (.line line :: effects) = farewells effects := rfl

@[simp]
theorem farewells_request (request : Request) (effects : List Effect) :
    farewells (.request request :: effects) = farewells effects := rfl

theorem mem_farewells {effects : List Effect} {service : String} {index : Nat}
    (told : .event service (.stopped index) ∈ effects) : ⟨service, index⟩ ∈ farewells effects :=
  List.mem_filterMap.2 ⟨_, told, rfl⟩

end Effect

open Effect

theorem Logs.farewells {effects : List Effect} (logs : Logs effects) : farewells effects = [] := by
  induction effects with
  | nil => rfl
  | cons effect rest induction =>
    rcases List.forall_mem_cons.1 logs with ⟨⟨line, rfl⟩, later⟩
    exact induction later

/-- The slot of the launch that failed in a turn. -/
def Turn.refused? (turn : Turn) : Option Slot :=
  match turn.happening with
  | .startEnded slot (some _) => some slot
  | _ => none

theorem Turn.exists_of_refused {turn : Turn} {slot : Slot} (refused : turn.refused? = some slot) :
    ∃ failure, turn.happening = .startEnded slot (some failure) := by
  unfold refused? at refused
  split at refused
  · rename_i failure happened
    cases refused
    exact ⟨failure, happened⟩
  · cases refused

namespace History

/-- The instances that have been asked to stop, in order. -/
def stopsAsked (history : List Turn) : List Instance :=
  history.flatMap fun turn => stops turn.effects

/-- The instances whose stop has ended, in order. -/
def stopsEnded (history : List Turn) : List Instance := history.filterMap Turn.stopped?

/-- The launch for a slot that had been filled before has failed. -/
def RestartFailed (history : List Turn) : Prop :=
  ∃ earlier turn later slot, history = earlier ++ turn :: later ∧
    turn.refused? = some slot ∧ slot ∈ launches earlier

variable {history : List Turn} {turn : Turn}

theorem stopsAsked_concat :
    stopsAsked (history ++ [turn]) = stopsAsked history ++ stops turn.effects := by
  simp [stopsAsked]

theorem stopsEnded_concat :
    stopsEnded (history ++ [turn]) = stopsEnded history ++ turn.stopped?.toList := by
  cases stopped : turn.stopped? <;> simp [stopsEnded, stopped]

theorem mem_stopsAsked {live : Instance} : live ∈ stopsAsked history ↔ StopAsked history live :=
  List.mem_flatMap

theorem RestartFailed.append (failed : RestartFailed history) (later : List Turn) :
    RestartFailed (history ++ later) := by
  rcases failed with ⟨earlier, turn, rest, slot, rfl, refused, again⟩
  exact ⟨earlier, turn, rest ++ later, slot, by simp, refused, again⟩

theorem RestartFailed.concat {slot : Slot} (refused : turn.refused? = some slot)
    (again : slot ∈ launches history) : RestartFailed (history ++ [turn]) :=
  ⟨history, turn, [], slot, rfl, refused, again⟩

theorem instances_nodup (history : List Turn) : (instances history).Nodup := by
  apply List.Nodup.of_map (·.id)
  rw [map_id_instances]
  exact List.nodup_range

end History

/-- Replacing the instance in a slot puts another one in its place. -/
theorem Board.perm_replace {board : Board} {old : Instance}
    (distinct : (board.running.map (·.slot)).Nodup) (member : old ∈ board.running) :
    (board.replace old.slot).running.Perm
      (board.nextInstance old.slot :: board.running.erase old) := by
  rcases List.append_of_mem member with ⟨front, back, parts⟩
  rw [parts, List.map_append, List.map_cons] at distinct
  have others : ∀ live ∈ front ++ back, live.slot ≠ old.slot := by
    intro live elsewhere same
    have split := (List.perm_middle.nodup_iff).1 distinct
    apply (List.nodup_cons.1 split).1
    rw [← List.map_append, ← same]
    exact List.mem_map_of_mem elsewhere
  have absent : old ∉ front := fun inside => others old (List.mem_append_left back inside) rfl
  have kept : ∀ lives : List Instance, (∀ live ∈ lives, live.slot ≠ old.slot) →
      lives.map (fun live => if live.slot = old.slot then board.nextInstance old.slot else live) =
        lives := by
    intro lives apart
    conv_rhs => rw [← List.map_id lives]
    exact List.map_congr_left fun live inside => if_neg (apart live inside)
  rw [Board.replace, parts, List.erase_append_right _ absent, List.erase_cons_head]
  simp only [List.map_append, List.map_cons, if_true]
  rw [kept front fun live inside => others live (List.mem_append_left back inside),
    kept back fun live inside => others live (List.mem_append_right front inside)]
  exact List.perm_middle

namespace Supervisor

open History

variable {supervisor : Supervisor} {mail : Mail} {history : List Turn} {state next : State}
  {now : Duration} {control : Control} {board after : Board} {phase : Phase}
  {happening : Happening} {effects : List Effect}

/-! ## No instance is asked to stop twice -/

/-- The live instances that are not being stopped. -/
def State.unasked (state : State) : List Instance :=
  match state.phase with
  | .repairing _ repair => state.board.running.erase repair.old
  | _ => state.left

/-- The stops asked for so far and the instances that may still be asked for, each counted as often
as it occurs, are among those that have been launched. -/
def Tallied (history : List Turn) (state : State) : Prop :=
  (stopsAsked history ++ state.unasked).Subperm (instances history)

theorem Tallied.nodup (tallied : Tallied history state) :
    (stopsAsked history ++ state.unasked).Nodup := by
  rcases tallied with ⟨tallied, same, sublist⟩
  exact same.nodup_iff.1 ((instances_nodup history).sublist sublist)

/-- A turn that launches nothing, and whose stops are taken from the live instances. -/
theorem Tallied.concat (tallied : Tallied history state) {turn : Turn}
    (still : turn.launched? = none)
    (moved : (stops turn.effects ++ next.unasked).Subperm state.unasked) :
    Tallied (history ++ [turn]) next := by
  unfold Tallied
  rw [stopsAsked_concat, instances_concat_of_not_launched still, List.append_assoc]
  exact ((List.Subperm.refl _).append moved).trans tallied

/-- A turn that launches an instance. -/
theorem Tallied.launch (tallied : Tallied history state) {turn : Turn} {slot : Slot}
    (launched : turn.launched? = some slot) (silent : stops turn.effects = [])
    (moved : next.unasked.Perm (⟨slot, (launches history).length⟩ :: state.unasked)) :
    Tallied (history ++ [turn]) next := by
  unfold Tallied
  rw [stopsAsked_concat, silent, List.append_nil, instances_concat_of_launched launched]
  have added : (stopsAsked history ++ next.unasked).Perm
      ((stopsAsked history ++ state.unasked) ++ [⟨slot, (launches history).length⟩]) := by
    rw [List.append_assoc]
    exact (moved.trans (List.perm_append_singleton _ _).symm).append_left _
  exact added.subperm.trans (tallied.append (List.Subperm.refl _))

theorem Stopping.subperm {failure : Option Failure} {left : List Instance}
    (down : Stopping failure board left phase after effects) (now : Duration) :
    (stops effects ++ State.unasked ⟨now, phase, after⟩).Subperm left := by
  cases down with
  | ended => exact List.Subperm.refl _
  | next => exact List.Subperm.refl _

/-- The stops of a topology that is taken down are those of its live instances. -/
theorem Stopping.subperm_reverse {failure : Option Failure} {lives : List Instance}
    (down : Stopping failure board lives.reverse phase after effects) (now : Duration) :
    (stops effects ++ State.unasked ⟨now, phase, after⟩).Subperm lives :=
  (down.subperm now).trans (List.reverse_perm lives).subperm

/-- What a starting service does to the live instances. -/
theorem Tallied.stage {moment : Duration} {startup further : Startup} {service : Service}
    {turn : Turn} (tallied : Tallied history ⟨moment, .starting startup, board⟩)
    (count : board.launches = (launches history).length)
    (silent : stops turn.effects = [])
    (step : BoardStep supervisor history turn service board after) :
    Tallied (history ++ [turn]) ⟨now, .starting further, after⟩ := by
  cases step with
  | same still =>
    apply tallied.concat still
    rw [silent]
    exact List.Subperm.refl _
  | @entered slot launched filled small cleared =>
    apply tallied.launch launched silent
    rw [← count]
    exact List.perm_append_singleton _ _
  | forgotten happened oneShot own =>
    apply tallied.concat
    · unfold Turn.launched?
      rw [happened]
    · rw [silent]
      exact List.filter_sublist.subperm

theorem Tallied.handled {moment : Duration} {left : Control} {report : Report}
    (tallied : Tallied history ⟨moment, .supervising control, board⟩)
    (invariant : Invariant supervisor history ⟨moment, .supervising control, board⟩)
    (taken : supervisor.take? now control = some (report, left))
    (proceeds : Proceeds (supervisor.apply left board report).next phase after effects) :
    Tallied (history ++ [⟨now, .handled, (supervisor.apply left board report).effects ++ effects,
      ⟨now, phase, after⟩⟩]) ⟨now, phase, after⟩ := by
  rcases invariant.phase.2.applied taken with ⟨tended, applied⟩
  have fits := applied.loopFits tended
  have asks := applied.asks.2.1
  have running := applied.board_eq.1
  apply tallied.concat rfl
  rw [Effect.stops_append, asks]
  generalize (supervisor.apply left board report).next = progress at *
  show List.Subperm _ board.running
  rw [← running]
  cases proceeds with
  | done => exact List.Subperm.refl _
  | repairing =>
    have replaced := Mending.replaced fits
    exact (List.perm_cons_erase replaced).symm.subperm
  | broken down => exact down.subperm_reverse now

theorem Tallied.repaired {moment : Duration} {repair : Repair} {failure : Option Failure}
    (tallied : Tallied history ⟨moment, .repairing control repair, board⟩)
    (invariant : Invariant supervisor history ⟨moment, .repairing control repair, board⟩)
    (sound : failure = none)
    (proceeds : Proceeds (supervisor.finishRepair now control board repair failure).next
      phase after effects) :
    Tallied
      (history ++ [⟨now, .startEnded repair.old.slot failure,
        (supervisor.finishRepair now control board repair failure).effects ++ effects,
        ⟨now, phase, after⟩⟩]) ⟨now, phase, after⟩ := by
  have mending := invariant.phase.2
  have finished := mending.finished supervisor now failure
  rcases finished.board_eq with ⟨failed, -⟩ | ⟨-, finishes, running, -⟩
  · exact absurd sound failed
  · subst sound
    have asks := finished.asks.2
    generalize supervisor.finishRepair now control board repair none = move at *
    rcases move with ⟨⟨control, left, progress⟩, done⟩
    cases finishes
    cases proceeds with
    | done =>
      apply tallied.launch rfl
      · rw [Effect.stops_append, asks]
        rfl
      · rw [← invariant.count]
        have replaced := Board.perm_replace mending.aligned.distinct mending.replaced
        rw [← running] at replaced
        exact replaced

theorem Tallied.step (tallied : Tallied history state)
    (invariant : Invariant supervisor history state)
    (step : Step supervisor now state happening next effects)
    (sound : ¬RestartFailed (history ++ [⟨now, happening, effects, next⟩])) :
    Tallied (history ++ [⟨now, happening, effects, next⟩]) next := by
  have former := invariant.phase
  cases step with
  | stage declared standing step =>
    have fits := StartupFits.stageFits former declared standing
    exact tallied.stage invariant.count step.silent.1 (step.boardStep fits _)
  | joined standing fresh => exact tallied.concat rfl (List.Subperm.refl _)
  | @startedUp moment startup board line settled sound =>
    apply tallied.concat rfl
    rw [Effect.stops_line, (watchAll_silent supervisor now board).stops]
    show List.Subperm (supervisor.watchAll now board).next.2.running _
    rw [(watchAll_board supervisor now board former.board.unrouted).1]
    exact List.Subperm.refl _
  | startupFailed settled failed down =>
    exact tallied.concat rfl (down.subperm_reverse now)
  | shutdown heeds down =>
    cases heeds with
    | starting => exact tallied.concat rfl (down.subperm_reverse now)
    | supervising =>
      exact tallied.concat rfl (down.subperm_reverse now)
  | handled taken proceeds => exact tallied.handled invariant taken proceeds
  | monitored seen =>
    exact tallied.concat (launched?_of_monitorStep? seen _ _) (List.Subperm.refl _)
  | @relaunched moment control board repair failure stopping =>
    apply tallied.concat rfl
    cases failure <;> exact List.Subperm.refl _
  | @repaired moment control board after repair failure phase effects starting proceeds =>
    have known := slot_mem_launches (invariant.running repair.old former.2.replaced)
    apply tallied.repaired invariant _ proceeds
    cases failure with
    | none => rfl
    | some reason => exact absurd (RestartFailed.concat rfl known) sound
  | monitoredMeanwhile seen =>
    exact tallied.concat (launched?_of_monitorStep? seen _ _) (List.Subperm.refl _)
  | stopped down =>
    apply tallied.concat rfl
    rw [Effect.stops_append, (stopEffects_silent _ _).stops]
    exact down.subperm now

/-- As long as no restart has failed to launch its instance, none is asked to stop twice. -/
theorem Run.tallied (run : supervisor.Run mail history state) (sound : ¬RestartFailed history) :
    Tallied history state := by
  induction run with
  | start => exact List.Subperm.refl _
  | exchange mailbox allowed before induction => exact induction sound
  | step before made induction =>
    exact (induction fun failed => sound (failed.append _)).step before.invariant (.of_step? made)
      sound

/-! ## The stops that have ended -/

/-- The instance that has been asked to stop, and has not stopped yet. -/
def State.pending (state : State) : List Instance :=
  match state.phase with
  | .repairing _ repair => if repair.stage = .stopping then [repair.old] else []
  | _ => state.asked

/-- One stop after another is asked for, and ends. -/
def Matched (history : List Turn) (state : State) : Prop :=
  stopsEnded history ++ state.pending = stopsAsked history

theorem Matched.concat (matched : Matched history state) {turn : Turn}
    (moved : turn.stopped?.toList ++ next.pending = state.pending ++ stops turn.effects) :
    Matched (history ++ [turn]) next := by
  show _ = _
  rw [stopsEnded_concat, stopsAsked_concat, List.append_assoc, moved, ← List.append_assoc]
  exact congrArg (· ++ stops turn.effects) matched

theorem Stopping.pending {failure : Option Failure} {left : List Instance}
    (down : Stopping failure board left phase after effects) (now : Duration) :
    State.pending ⟨now, phase, after⟩ = stops effects := by
  cases down with
  | ended => rfl
  | next => rfl

/-- Whether the control loop goes on or the topology is taken down, what is pending is what has been
asked for. -/
theorem Proceeds.pending {progress : Loop}
    (proceeds : Proceeds progress phase after effects)
    (stopping : ∀ repair, progress.progress = .repairing repair → repair.stage = .stopping)
    (now : Duration) :
    State.pending ⟨now, phase, after⟩ = progress.progress.stops ++ stops effects := by
  cases proceeds with
  | done => rfl
  | @repairing control board repair =>
    rcases repair with ⟨old, stage, rest⟩
    have stage := stopping _ rfl
    cases stage
    rfl
  | broken down => exact down.pending now

theorem stopped?_of_stageStep {startup : Startup} {service : Service} {stage further : Stage}
    (step : StageStep supervisor now startup board service stage happening further after effects)
    (state : State) : Turn.stopped? ⟨now, happening, effects, state⟩ = none := by
  cases step <;> rfl

theorem stopped?_of_monitorStep? {further : Control}
    (seen : supervisor.monitorStep? now control happening = some further) (state : State) :
    Turn.stopped? ⟨now, happening, effects, state⟩ = none := by
  cases happening with
  | stopEnded target failure => cases seen
  | _ => rfl

theorem Matched.step (matched : Matched history state)
    (invariant : Invariant supervisor history state)
    (step : Step supervisor now state happening next effects) :
    Matched (history ++ [⟨now, happening, effects, next⟩]) next := by
  have former := invariant.phase
  apply matched.concat
  cases step with
  | stage declared standing step =>
    rw [stopped?_of_stageStep step]
    exact step.silent.1.symm
  | joined standing fresh => rfl
  | startedUp settled sound => exact (watchAll_silent _ _ _).stops.symm
  | startupFailed settled failed down => exact down.pending now
  | shutdown heeds down =>
    cases heeds with
    | starting => exact down.pending now
    | supervising => exact down.pending now
  | handled taken proceeds =>
    have applied := (former.2.applied taken).2
    rw [Effect.stops_append, applied.asks.2.1]
    exact proceeds.pending (fun repair => applied.stage_eq) now
  | monitored seen =>
    rw [stopped?_of_monitorStep? seen]
    rfl
  | @relaunched moment control board repair failure stopping =>
    rcases repair with ⟨old, stage, rest⟩
    cases stopping
    cases failure <;> rfl
  | @repaired moment control board after repair failure phase effects starting proceeds =>
    rcases repair with ⟨old, stage, rest⟩
    cases starting
    have finished := former.2.finished supervisor now failure
    have silent : ∀ repair,
        (supervisor.finishRepair now control board ⟨old, .starting, rest⟩ failure).next.progress =
          .repairing repair → repair.stage = .stopping :=
      fun repair repairing => absurd repairing (finished.progress_ne repair)
    have none : (supervisor.finishRepair now control board ⟨old, .starting, rest⟩
        failure).next.progress.stops = [] := by
      cases progress : (supervisor.finishRepair now control board ⟨old, .starting, rest⟩
          failure).next.progress with
      | repairing repair => exact absurd progress (finished.progress_ne repair)
      | _ => rfl
    rw [Effect.stops_append, finished.asks.2, proceeds.pending silent now, none]
    rfl
  | @monitoredMeanwhile moment control further board repair happening seen =>
    rw [stopped?_of_monitorStep? seen]
    refine Eq.trans ?_ (List.append_nil _).symm
    rfl
  | stopped down =>
    rw [Effect.stops_append, (stopEffects_silent _ _).stops, down.pending now]
    rfl

theorem Run.matched (run : supervisor.Run mail history state) : Matched history state := by
  induction run with
  | start => rfl
  | exchange mailbox allowed before induction => exact induction
  | step before made induction => exact induction.step before.invariant (.of_step? made)

/-! ## The reports of stops -/

theorem attempt_farewells (supervisor : Supervisor) (service : Service) (visit : Visit)
    (dependency : Dependency) (rest : List Dependency) (now : Duration) :
    farewells (supervisor.attempt service visit dependency rest now).effects = [] := by
  rcases supervisor.attempt_cases service visit dependency rest now with
    ⟨-, -, equal⟩ | ⟨-, -, equal⟩ | ⟨-, equal⟩ <;> simp [equal, farewells]

theorem drain_farewells (service : Service) (launched : List Instance) :
    farewells (drain service launched).effects = [] := by
  cases launched <;> rfl

theorem launch_farewells (supervisor : Supervisor) (service : Service) (index : Nat)
    (launched : List Instance) :
    farewells (supervisor.launch service index launched).effects = [] := by
  rcases launch_cases supervisor service index launched with
    ⟨-, equal⟩ | ⟨-, -, equal⟩ | ⟨-, -, equal⟩
  · rw [equal]
    rfl
  · rw [equal]
    exact drain_farewells service launched
  · rw [equal]
    rfl

theorem StageStep.farewells {startup : Startup} {service : Service} {stage further : Stage}
    (step : StageStep supervisor now startup board service stage happening further after effects) :
    farewells effects = [] := by
  cases step with
  | begun settled sound reachable found => exact attempt_farewells _ _ _ _ _ _
  | retried ready => exact attempt_farewells _ _ _ _ _ _
  | cleared => exact launch_farewells _ _ _ _
  | launched => exact launch_farewells _ _ _ _
  | exitedWell => exact drain_farewells _ _
  | _ => rfl

theorem watchAll_farewells (supervisor : Supervisor) (now : Duration) (board : Board) :
    farewells (supervisor.watchAll now board).effects = [] := by
  show farewells (List.map _ _) = []
  simp [farewells, List.filterMap_map, Function.comp_def]

theorem Applied.farewells {report : Report} {progress : Loop}
    (applied : Applied supervisor control board report progress effects) :
    farewells effects = [] := by
  cases applied with
  | stale old => rfl
  | quiet found current finding quiet logs => exact logs.farewells
  | exhausted found current spent logs condemned => exact logs.farewells
  | repair found current same left logs condemned =>
    rw [farewells_append, logs.farewells]
    rfl

theorem Finished.farewells {slot : Slot} {failure : Option Failure} {progress : Loop}
    (finished : Finished supervisor now control board slot failure progress effects) :
    farewells effects = [] := by
  cases finished with
  | failed => rfl
  | renewed found => rfl

theorem Stopping.farewells {failure : Option Failure} {left : List Instance}
    (down : Stopping failure board left phase after effects) : farewells effects = [] := by
  cases down with
  | ended => rfl
  | next => rfl

theorem Proceeds.farewells {progress : Loop}
    (proceeds : Proceeds progress phase after effects) : farewells effects = [] := by
  cases proceeds with
  | done => rfl
  | repairing => rfl
  | broken down => exact down.farewells

/-- Only the end of a stop is reported as one. -/
theorem Step.exists_stopped (invariant : Invariant supervisor history state)
    (step : Step supervisor now state happening next effects) {slot : Slot}
    (told : slot ∈ farewells effects) :
    ∃ live, happening = .stopEnded live none ∧ live.slot = slot := by
  have former := invariant.phase
  have silent : farewells effects = [] → ∃ live, happening = .stopEnded live none ∧
      live.slot = slot := by
    intro none
    rw [none] at told
    cases told
  cases step with
  | stage declared standing step => exact silent step.farewells
  | joined standing fresh => exact silent rfl
  | startedUp settled sound => exact silent (watchAll_farewells _ _ _)
  | startupFailed settled failed down => exact silent down.farewells
  | shutdown heeds down => exact silent down.farewells
  | handled taken proceeds =>
    apply silent
    rw [farewells_append, (former.2.applied taken).2.farewells, proceeds.farewells]
    rfl
  | monitored seen => exact silent rfl
  | @relaunched moment control board repair failure stopping =>
    apply silent
    cases failure <;> rfl
  | @repaired moment control board after repair failure phase effects starting proceeds =>
    apply silent
    rw [farewells_append, (former.2.finished supervisor now failure).farewells, proceeds.farewells]
    rfl
  | monitoredMeanwhile seen => exact silent rfl
  | @stopped moment current rest board after failure refusal phase effects down =>
    rw [farewells_append, down.farewells, List.append_nil] at told
    cases refusal with
    | none => exact ⟨current, rfl, (List.mem_singleton.1 told).symm⟩
    | some reason => cases told

/-! ## The list of live instances -/

/-- The list of live instances is exact. -/
structure LiveListExact (history : List Turn) : Prop where
  /-- When a restart is over, however it has ended, no instance is listed that had been asked to
  stop before. Instances that are taken down count as listed until their turn has come. -/
  listed : ∀ earlier turn later, history = earlier ++ turn :: later →
    (∀ control repair, turn.after.phase ≠ .repairing control repair) →
      ∀ live ∈ turn.after.asked ++ turn.after.left, ¬StopAsked earlier live
  /-- No instance is asked to stop twice. -/
  once : (stopsAsked history).Nodup
  /-- A stop is reported when it has ended, and only if no stop of the instance had ended before. -/
  reported : ∀ earlier turn later, history = earlier ++ turn :: later →
    ∀ service index, .event service (.stopped index) ∈ turn.effects →
      ∃ live, turn.happening = .stopEnded live none ∧ live.slot = ⟨service, index⟩ ∧
        live ∉ stopsEnded earlier

theorem State.asked_eq_nil (up : state.phase.isDown = false) : state.asked = [] := by
  rcases state with ⟨moment, phase, board⟩
  cases phase with
  | stopping current rest failure => cases up
  | _ => rfl

/-- The instance that is being stopped while the topology is taken down was asked in the latest
turn. -/
theorem Run.asked_subset {turn : Turn} (run : supervisor.Run mail (history ++ [turn]) state) :
    state.asked ⊆ stops turn.effects := by
  cases down : state.phase.isDown with
  | true =>
    rw [(run.course.down down).latest history turn rfl]
    exact List.Subset.refl _
  | false =>
    rw [State.asked_eq_nil down]
    exact List.nil_subset _

theorem Run.not_stopAsked {turn : Turn} (run : supervisor.Run mail (history ++ [turn]) state)
    (sound : ¬RestartFailed (history ++ [turn]))
    (calm : ∀ control repair, state.phase ≠ .repairing control repair) {live : Instance}
    (member : live ∈ state.asked ++ state.left) : ¬StopAsked history live := by
  have distinct := (run.tallied sound).nodup
  have unasked : state.unasked = state.left := by
    rcases state with ⟨moment, phase, board⟩
    cases phase with
    | repairing control repair => exact absurd rfl (calm control repair)
    | _ => rfl
  rw [unasked, stopsAsked_concat, List.append_assoc] at distinct
  rw [← mem_stopsAsked]
  intro asked
  apply (List.nodup_append.1 distinct).2.2 live asked live _ rfl
  rcases List.mem_append.1 member with current | left
  · exact List.mem_append_left _ (run.asked_subset current)
  · exact List.mem_append_right _ left

/-- When a restart has failed to launch its instance, the old one is still listed, though it has
been asked to stop. -/
theorem Step.listed_of_failed (run : supervisor.Run mail history state) {slot : Slot}
    {failure : Failure}
    (step : Step supervisor now state (.startEnded slot (some failure)) next effects)
    (again : slot ∈ launches history) :
    (∀ control repair, next.phase ≠ .repairing control repair) ∧
      ∃ live ∈ next.asked ++ next.left, live.slot = slot ∧ StopAsked history live := by
  have former := run.invariant.phase
  cases step with
  | stage declared standing step =>
    have fits := StartupFits.stageFits former declared standing
    -- A service that starts has filled only the slots before the one that it asks for.
    cases step with
    | launchFailed => exact absurd (Filled.index_lt fits.2.1 again) (Nat.lt_irrefl _)
  | monitored seen => cases seen
  | monitoredMeanwhile seen => cases seen
  | @repaired moment control board after repair _ phase effects starting proceeds =>
    have mending := former.2
    have finished := mending.finished supervisor now (some failure)
    generalize supervisor.finishRepair now control board repair (some failure) = move at *
    rcases move with ⟨progress, done⟩
    cases finished with
    | failed =>
      cases proceeds with
      | broken down =>
        refine ⟨fun control repair => down.ne_of_up rfl, repair.old, ?_, rfl,
          run.stopAsked_of_repairing rfl⟩
        rw [(down.asked_append_left now).2]
        exact List.mem_reverse.2 mending.replaced

/-- The list of live instances is exact in a run unless the launch of a restart fails. -/
theorem live_list_exact_iff (run : supervisor.Run mail history state) :
    LiveListExact history ↔ ¬RestartFailed history := by
  constructor
  · rintro ⟨unstopped, -, -⟩ ⟨earlier, turn, later, slot, parts, refused, again⟩
    rcases run.split parts with ⟨before, past, made⟩
    rcases Turn.exists_of_refused refused with ⟨failure, happened⟩
    rw [happened] at made
    rcases Step.listed_of_failed past (.of_step? made) again with ⟨calm, live, member, -, asked⟩
    exact unstopped earlier turn later parts calm live member asked
  · intro sound
    have reached : ∀ earlier turn later, history = earlier ++ turn :: later →
        supervisor.Run mail (earlier ++ [turn]) turn.after ∧
          ¬RestartFailed (earlier ++ [turn]) := by
      rintro earlier turn later rfl
      rcases run.split rfl with ⟨before, past, made⟩
      refine ⟨past.step made, fun failed => sound ?_⟩
      simpa using failed.append later
    refine ⟨?_, (List.nodup_append.1 (run.tallied sound).nodup).1, ?_⟩
    · intro earlier turn later parts calm live member
      rcases reached earlier turn later parts with ⟨run, sound⟩
      exact run.not_stopAsked sound calm member
    · intro earlier turn later parts service index told
      rcases run.split parts with ⟨before, past, made⟩
      rcases Step.exists_stopped past.invariant (.of_step? made) (mem_farewells told) with
        ⟨live, happened, slot⟩
      refine ⟨live, happened, slot, ?_⟩
      rcases reached earlier turn later parts with ⟨run, sound⟩
      have distinct := (List.nodup_append.1 (run.tallied sound).nodup).1
      have ended : turn.stopped? = some live := by
        unfold Turn.stopped?
        rw [happened]
      rw [← run.matched, stopsEnded_concat, ended, List.append_assoc] at distinct
      intro former
      exact (List.nodup_append.1 distinct).2.2 live former live
        (List.mem_append_left _ (List.mem_singleton_self live)) rfl

/-- In the run of the small stack with a restart and a shutdown, the list is exact. -/
theorem small_live_list_exact :
    ∃ earlier turn state, small.Run .monitored (earlier ++ [turn]) state ∧
      stopsAsked (earlier ++ [turn]) =
        [⟨⟨"app", 0⟩, 2⟩, ⟨⟨"app", 0⟩, 3⟩, ⟨⟨"db", 0⟩, 0⟩] ∧
      ¬RestartFailed (earlier ++ [turn]) ∧ LiveListExact (earlier ++ [turn]) := by
  rcases exists_run_of_replay? small .monitored small.descend
    (fun earlier turn _ => decide (stopsAsked (earlier ++ [turn]) =
      [⟨⟨"app", 0⟩, 2⟩, ⟨⟨"app", 0⟩, 3⟩, ⟨⟨"db", 0⟩, 0⟩]) &&
      (earlier ++ [turn]).all (·.refused?.isNone))
    (by decide +kernel) with ⟨earlier, turn, state, run, tested⟩
  rcases Bool.and_eq_true_iff.1 tested with ⟨asked, launched⟩
  have sound : ¬RestartFailed (earlier ++ [turn]) := by
    rintro ⟨front, refusing, rest, slot, parts, refused, -⟩
    have clean := List.all_eq_true.1 launched refusing (by simp [parts])
    rw [refused] at clean
    cases clean
  exact ⟨earlier, turn, state, run, of_decide_eq_true asked, sound,
    (live_list_exact_iff run).2 sound⟩

/-- The application of the small stack exits, and its restart fails to launch another instance. -/
def small.relapse : List (Duration × Happening) :=
  small.mend.dropLast ++
  [(.ofSeconds 7, .startEnded ⟨"app", 0⟩ (some small.obstacle)),
    (.ofSeconds 7, .stopEnded ⟨⟨"app", 0⟩, 2⟩ none),
    (.ofSeconds 8, .stopEnded ⟨⟨"db", 0⟩, 0⟩ none)]

/-- Then the old instance is asked to stop twice. -/
theorem small_live_list_inexact :
    ∃ earlier turn state, small.Run .monitored (earlier ++ [turn]) state ∧
      stopsAsked (earlier ++ [turn]) =
        [⟨⟨"app", 0⟩, 2⟩, ⟨⟨"app", 0⟩, 2⟩, ⟨⟨"db", 0⟩, 0⟩] ∧
      ¬LiveListExact (earlier ++ [turn]) := by
  rcases exists_run_of_replay? small .monitored small.relapse
    (fun earlier turn _ => decide (stopsAsked (earlier ++ [turn]) =
      [⟨⟨"app", 0⟩, 2⟩, ⟨⟨"app", 0⟩, 2⟩, ⟨⟨"db", 0⟩, 0⟩]))
    (by decide +kernel) with ⟨earlier, turn, state, run, tested⟩
  have asked := of_decide_eq_true tested
  refine ⟨earlier, turn, state, run, asked, fun listed => ?_⟩
  have distinct := listed.once
  rw [asked] at distinct
  revert distinct
  decide

end Supervisor

end Convoy
