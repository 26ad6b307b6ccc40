import Convoy.Proofs.Supervisor.Control
import Convoy.Proofs.Supervisor.Founded

/-!
# What holds in every phase

`Invariant` holds at the end of every history of a run. While the topology starts it is
`StartupFits`. After that every service is up for good, and the control loop watches exactly the live
instances.
-/

namespace Convoy.Supervisor

open History

/-- Between two reports, the control loop watches the live instances, all of which start or run. -/
structure Tended (control : Control) (board : Board) : Prop where
  aligned : Aligned control board
  active : ∀ watched ∈ control.watched, watched.health.lifecycle.isActive = true

/-- While an instance is replaced, the other ones are watched as before. Nothing is left to do after
the restart. -/
structure Mending (control : Control) (board : Board) (repair : Repair) : Prop where
  aligned : Aligned control board
  others : ∀ watched ∈ control.watched, watched.slot ≠ repair.old.slot →
    watched.health.lifecycle.isActive = true
  replaced : repair.old ∈ board.running
  last : repair.rest = []

/-- What holds after the control loop has acted. -/
def LoopFits (progress : Loop) : Prop :=
  match progress.progress with
  | .done => Tended progress.control progress.board
  | .repairing repair => Mending progress.control progress.board repair
  | .broken _ => True

variable (supervisor : Supervisor)

/-- What holds in a phase. -/
def PhaseFits (history : List Turn) (board : Board) : Phase → Prop
  | .starting startup => StartupFits supervisor history startup board
  | .supervising control => AllUp supervisor history ∧ Tended control board
  | .repairing control repair => AllUp supervisor history ∧ Mending control board repair
  | .stopping .. => board.running = []
  | .ended _ => board.running = []

/-- What holds at the end of every history of a run. -/
structure Invariant (history : List Turn) (state : State) : Prop where
  founded : Founded supervisor history
  count : state.board.launches = (launches history).length
  running : ∀ live ∈ state.board.running, live ∈ instances history
  phase : PhaseFits supervisor history state.board state.phase

variable {supervisor} {control : Control} {board : Board} {now : Duration}

/-! ## The control loop -/

theorem Tended.agrees (tended : Tended control board) {other : Control}
    (agrees : control.Agrees other) : Tended other board := by
  refine ⟨tended.aligned.agrees agrees, ?_⟩
  intro watched member
  rcases agrees.exists_mem member with ⟨former, formerMember, same⟩
  rw [← (Watched.known_of_unmonitored same).2.2]
  exact tended.active former formerMember

theorem Mending.agrees {repair : Repair} (mending : Mending control board repair) {other : Control}
    (agrees : control.Agrees other) : Mending other board repair := by
  refine ⟨mending.aligned.agrees agrees, ?_, mending.replaced, mending.last⟩
  intro watched member different
  rcases agrees.exists_mem member with ⟨former, formerMember, same⟩
  rw [← (Watched.known_of_unmonitored same).2.2]
  apply mending.others former formerMember
  rw [Watched.slot_eq_of_unmonitored same]
  exact different

/-- The instance that is replaced is watched. -/
theorem Mending.exists_find? {repair : Repair} (mending : Mending control board repair) :
    ∃ watched, control.find? repair.old.slot = some watched ∧ watched.current = repair.old := by
  have replaced := mending.replaced
  rw [← mending.aligned.currents] at replaced
  rcases List.mem_map.1 replaced with ⟨watched, member, current⟩
  refine ⟨watched, ?_, current⟩
  rw [← current]
  exact mending.aligned.find?_eq member

/-- What the control loop does about the report that it takes. -/
theorem Tended.applied (tended : Tended control board) {report : Report} {left : Control}
    (taken : supervisor.take? now control = some (report, left)) :
    Tended left board ∧
      Applied supervisor left board report (supervisor.apply left board report).next
        (supervisor.apply left board report).effects := by
  have tendedLeft := tended.agrees (agrees_take? tended.aligned.watched_distinct taken)
  exact ⟨tendedLeft, .of_apply report tendedLeft.active⟩

/-- What the control loop does when the launch of a restart has ended. -/
theorem Mending.finished {repair : Repair} (mending : Mending control board repair)
    (supervisor : Supervisor) (now : Duration) (failure : Option Failure) :
    Finished supervisor now control board repair.old.slot failure
      (supervisor.finishRepair now control board repair failure).next
      (supervisor.finishRepair now control board repair failure).effects := by
  rcases mending.exists_find? with ⟨watched, found, -⟩
  exact .of_finishRepair found mending.last failure

/-- A report leaves the list of live instances and their count as they are. -/
theorem Applied.board_eq {report : Report} {progress : Loop} {effects : List Effect}
    (applied : Applied supervisor control board report progress effects) :
    progress.board.running = board.running ∧ progress.board.launches = board.launches := by
  cases applied <;> simp

theorem Applied.loopFits {report : Report} {progress : Loop} {effects : List Effect}
    (applied : Applied supervisor control board report progress effects)
    (tended : Tended control board) : LoopFits progress := by
  cases applied with
  | stale old => exact tended
  | @quiet watched kind success effects found current finding quiet logs =>
    have foundMember := Control.find?_slot found
    have self : control.find? watched.slot = some watched := by
      rw [foundMember.2]
      exact found
    have aligned := tended.aligned.put
      { watched with health := (watched.health.observe kind success).1 } self rfl
    refine ⟨aligned.board_eq (Board.running_reroute _), ?_⟩
    intro other member
    rcases Control.mem_put member with rfl | ⟨former, -⟩
    · exact quiet.1
    · exact tended.active other former
  | exhausted found current spent logs => trivial
  | @repair watched health mailbox actions effects found current same left logs =>
    have foundMember := Control.find?_slot found
    have self : control.find? watched.slot = some watched := by
      rw [foundMember.2]
      exact found
    have exchanged : Aligned { control with mailbox := mailbox } board := tended.aligned.agrees rfl
    have aligned := exchanged.put (Watched.unmonitored { watched with health := health }) self rfl
    refine ⟨aligned.board_eq (by simp), ?_, ?_, rfl⟩
    · intro other member different
      rcases Control.mem_put member with rfl | ⟨former, -⟩
      · exact absurd rfl different
      · exact tended.active other former
    · have current := tended.aligned.current_mem foundMember.1
      simpa using current

theorem Finished.loopFits {repair : Repair} {failure : Option Failure} {progress : Loop}
    {effects : List Effect}
    (finished : Finished supervisor now control board repair.old.slot failure progress effects)
    (mending : Mending control board repair) : LoopFits progress := by
  cases finished with
  | failed => trivial
  | @renewed old line found =>
    have slot := (Control.find?_slot found).2
    have aligned := mending.aligned.replace
      ((old.renewed board.launches).monitored (supervisor.probesOf repair.old.slot) now) rfl
    rw [show ((old.renewed board.launches).monitored (supervisor.probesOf repair.old.slot) now).slot =
      repair.old.slot from slot] at aligned
    refine ⟨aligned.board_eq (by simp), ?_⟩
    intro other member
    rcases Control.mem_put member with rfl | ⟨former, different⟩
    · exact Health.isActive_enter _ _
    · apply mending.others other former
      rw [← slot]
      exact different

/-- A launch that has failed changes nothing; one that has succeeded replaces the instance. -/
theorem Finished.board_eq {slot : Slot} {failure : Option Failure} {progress : Loop}
    {effects : List Effect}
    (finished : Finished supervisor now control board slot failure progress effects) :
    (failure ≠ none ∧ progress.board = board) ∨
      (failure = none ∧ progress.progress = .done ∧
        progress.board.running = (board.replace slot).running ∧
        progress.board.launches = board.launches + 1) := by
  cases finished with
  | failed =>
    left
    exact ⟨by simp, rfl⟩
  | renewed found =>
    right
    simp

/-! ## Phases -/

/-- Taking instances down changes only the routing, and leads to no other phase. -/
theorem Stopping.result {failure : Option Failure} {after : Board} {left : List Instance}
    {phase : Phase} {effects : List Effect}
    (down : Stopping failure board left phase after effects) :
    after.running = board.running ∧ after.launches = board.launches ∧
      ((∃ current rest, phase = .stopping current rest failure) ∨ phase = .ended failure) := by
  cases down with
  | ended => exact ⟨rfl, rfl, Or.inr rfl⟩
  | next => exact ⟨rfl, rfl, Or.inl ⟨_, _, rfl⟩⟩

theorem Stopping.ne_of_up {failure : Option Failure} {after : Board} {left : List Instance}
    {phase other : Phase} {effects : List Effect}
    (down : Stopping failure board left phase after effects) (up : other.isDown = false) :
    phase ≠ other := by
  rintro rfl
  rw [down.isDown] at up
  cases up

theorem Proceeds.ne_starting {progress : Loop} {phase : Phase} {after : Board}
    {effects : List Effect} {startup : Startup}
    (proceeds : Proceeds progress phase after effects) : phase ≠ .starting startup := by
  cases proceeds with
  | broken down => exact down.ne_of_up rfl
  | _ =>
    intro equal
    cases equal

theorem Stopping.phaseFits (supervisor : Supervisor) (history : List Turn)
    {failure : Option Failure} {after : Board} {left : List Instance} {phase : Phase}
    {effects : List Effect}
    (down : Stopping failure { board with running := [] } left phase after effects) :
    PhaseFits supervisor history after phase ∧ after.running = [] := by
  cases down with
  | ended => exact ⟨rfl, rfl⟩
  | next => exact ⟨rfl, rfl⟩

/-- The phase that the control loop goes on to is in order, and its board lists no other instances
than the loop left. -/
theorem Proceeds.phaseFits {history : List Turn} {progress : Loop} {phase : Phase} {after : Board}
    {effects : List Effect}
    (proceeds : Proceeds progress phase after effects) (up : AllUp supervisor history)
    (fits : LoopFits progress) :
    PhaseFits supervisor history after phase ∧
      (∀ live ∈ after.running, live ∈ progress.board.running) ∧
      after.launches = progress.board.launches := by
  cases proceeds with
  | done => exact ⟨⟨up, fits⟩, fun _ member => member, rfl⟩
  | repairing => exact ⟨⟨up, fits⟩, fun _ member => member, rfl⟩
  | broken down =>
    have result := down.result
    have fits := down.phaseFits supervisor history
    refine ⟨fits.1, ?_, result.2.1⟩
    rw [fits.2]
    intro live member
    cases member

/-- No phase but the first shows how far the services are. -/
theorem Stopping.stage?_eq_none {failure : Option Failure} {after : Board} {left : List Instance}
    {phase : Phase} {effects : List Effect}
    (down : Stopping failure board left phase after effects)
    (happening : Happening) (done : List Effect) (name : String) :
    Turn.stage? ⟨now, happening, done, ⟨now, phase, after⟩⟩ name = none := by
  cases down <;> rfl

theorem Proceeds.stage?_eq_none {progress : Loop} {phase : Phase} {after : Board}
    {effects : List Effect} (proceeds : Proceeds progress phase after effects)
    (happening : Happening) (done : List Effect) (name : String) :
    Turn.stage? ⟨now, happening, done, ⟨now, phase, after⟩⟩ name = none := by
  cases proceeds with
  | done => rfl
  | repairing => rfl
  | broken down => exact down.stage?_eq_none happening done name

theorem launched?_of_refused {slot : Slot} {failure : Option Failure} {effects : List Effect}
    {state : State} (refused : failure ≠ none) :
    Turn.launched? ⟨now, .startEnded slot failure, effects, state⟩ = none := by
  cases failure with
  | none => exact absurd rfl refused
  | some reason => rfl

theorem launched?_of_monitorStep? {happening : Happening} {next : Control}
    (seen : supervisor.monitorStep? now control happening = some next)
    (effects : List Effect) (state : State) :
    Turn.launched? ⟨now, happening, effects, state⟩ = none := by
  cases happening with
  | startEnded slot failure => cases seen
  | _ => rfl

/-- When the startup is over, traffic is routed to some of the live instances. -/
theorem watchAll_board (supervisor : Supervisor) (now : Duration) (board : Board)
    (unrouted : board.routing = .empty) :
    (supervisor.watchAll now board).next.2.running = board.running ∧
      (supervisor.watchAll now board).next.2.launches = board.launches ∧
      (supervisor.watchAll now board).next.2.Routed (board.running.map (·.slot)) := by
  have routed : ∀ (serving : List Watched) (board : Board),
      (serving.foldl (fun board found => board.route found.slot) board).running = board.running ∧
        (serving.foldl (fun board found => board.route found.slot) board).launches =
          board.launches := by
    intro serving
    induction serving with
    | nil => exact fun board => ⟨rfl, rfl⟩
    | cons found rest induction => exact fun board => induction (board.route found.slot)
  refine ⟨(routed _ board).1, (routed _ board).2, ?_⟩
  apply (Board.Routed.of_empty unrouted _).foldl_route
  intro watched member
  rcases List.mem_map.1 (List.mem_filter.1 member).1 with ⟨live, liveMember, rfl⟩
  exact List.mem_map_of_mem liveMember

/-- When the startup is over, the control loop begins to watch the live instances. -/
theorem Tended.watchAll (supervisor : Supervisor) (now : Duration)
    (distinct : (board.running.map (·.slot)).Nodup)
    (kept : (supervisor.watchAll now board).next.2.running = board.running) :
    Tended (supervisor.watchAll now board).next.1 (supervisor.watchAll now board).next.2 := by
  have aligned : Aligned (supervisor.watchAll now board).next.1 board := by
    refine ⟨?_, distinct⟩
    have current : Watched.current ∘ supervisor.watch now = id := rfl
    show (board.running.map (supervisor.watch now)).map Watched.current = board.running
    rw [List.map_map, current, List.map_id]
  refine ⟨aligned.board_eq kept, ?_⟩
  intro watched member
  rcases List.mem_map.1 member with ⟨live, -, rfl⟩
  exact Health.isActive_enter _ _

/-! ## Runs -/

theorem Invariant.start : Invariant supervisor [] (.initial supervisor) where
  founded := .start
  count := rfl
  running := by
    intro live member
    cases member
  phase := .start

/-- A turn that launches nothing and does not leave the topology starting. -/
theorem Invariant.still {history : List Turn} {state next : State}
    (invariant : Invariant supervisor history state) {turn : Turn}
    (hidden : ∀ name, turn.stage? name = none) (still : turn.launched? = none)
    (launches : next.board.launches = state.board.launches)
    (running : ∀ live ∈ next.board.running, live ∈ state.board.running)
    (phase : PhaseFits supervisor (history ++ [turn]) next.board next.phase) :
    Invariant supervisor (history ++ [turn]) next where
  founded := by
    apply invariant.founded.concat hidden
    intro slot launched
    rw [still] at launched
    cases launched
  count := by
    rw [launches, launches_concat_of_not_launched still]
    exact invariant.count
  running := by
    intro live member
    rw [instances_concat_of_not_launched still]
    exact invariant.running live (running live member)
  phase := phase

theorem Invariant.down {history : List Turn} {state : State} {phase : Phase} {after : Board}
    (invariant : Invariant supervisor history state) {failure : Option Failure}
    {left : List Instance} {happening : Happening} {done effects : List Effect}
    (still : Turn.launched? ⟨now, happening, done, ⟨now, phase, after⟩⟩ = none)
    (down : Stopping failure { state.board with running := [] } left phase after effects) :
    Invariant supervisor (history ++ [⟨now, happening, done, ⟨now, phase, after⟩⟩])
      ⟨now, phase, after⟩ := by
  have result := down.phaseFits supervisor
    (history ++ [⟨now, happening, done, ⟨now, phase, after⟩⟩])
  apply invariant.still (down.stage?_eq_none happening done) still down.result.2.1 _ result.1
  rw [result.2]
  intro live member
  cases member

/-- The launch of a restart has ended; if it has succeeded, the new instance is in the place of the
old one. -/
theorem Invariant.repaired {history : List Turn} {moment : Duration} {repair : Repair}
    {after : Board} {failure : Option Failure} {phase : Phase} {effects : List Effect}
    (invariant : Invariant supervisor history ⟨moment, .repairing control repair, board⟩)
    (proceeds : Proceeds (supervisor.finishRepair now control board repair failure).next
      phase after effects) :
    Invariant supervisor
      (history ++ [⟨now, .startEnded repair.old.slot failure,
        (supervisor.finishRepair now control board repair failure).effects ++ effects,
        ⟨now, phase, after⟩⟩]) ⟨now, phase, after⟩ := by
  rcases invariant.phase with ⟨up, mending⟩
  have finished := mending.finished supervisor now failure
  rcases proceeds.phaseFits (up.append _) (finished.loopFits mending) with
    ⟨fits, running, launches⟩
  have known : repair.old.slot ∈ History.launches history :=
    slot_mem_launches (invariant.running repair.old mending.replaced)
  rcases finished.board_eq with ⟨failed, same⟩ | ⟨rfl, -, replaced, counted⟩
  · rw [same] at running launches
    exact invariant.still (proceeds.stage?_eq_none _ _) (launched?_of_refused failed) launches
      running fits
  · refine ⟨invariant.founded.concat (proceeds.stage?_eq_none _ _) ?_, ?_, ?_, fits⟩
    · intro slot launched
      cases launched
      exact known
    · rw [launches_concat_of_launched rfl, List.length_append]
      rw [counted, invariant.count] at launches
      exact launches
    · intro live member
      rw [instances_concat_of_launched rfl, ← invariant.count]
      have placed := running live member
      rw [replaced] at placed
      rcases List.mem_map.1 placed with ⟨former, formerMember, rfl⟩
      split
      · exact List.mem_append_right _ (List.mem_singleton_self _)
      · exact List.mem_append_left _ (invariant.running former formerMember)

theorem Invariant.step {history : List Turn} {state next : State} {happening : Happening}
    {effects : List Effect}
    (invariant : Invariant supervisor history state)
    (step : Step supervisor now state happening next effects) :
    Invariant supervisor (history ++ [⟨now, happening, effects, next⟩]) next := by
  have former := invariant.phase
  cases step with
  | @stage moment startup board after service stage next _ effects declared standing step =>
    have fits := StartupFits.step former declared standing step
    refine ⟨invariant.founded.concat_starting rfl fits ?_, fits.board.count,
      fun live member => fits.board.running.subset member, fits⟩
    intro slot launched
    exact former.ready_of_launched declared standing step launched
  | joined standing hasEnded fresh =>
    have fits := StartupFits.join former standing hasEnded now
    refine ⟨invariant.founded.concat_starting rfl fits ?_, fits.board.count,
      fun live member => fits.board.running.subset member, fits⟩
    intro slot launched
    cases launched
  | @startedUp moment startup board line settled sound =>
    have distinct : (board.running.map (·.slot)).Nodup := by
      apply List.Nodup.sublist _ former.board.distinct
      rw [← map_slot_instances]
      exact former.board.running.map _
    rcases watchAll_board supervisor now board former.board.unrouted with ⟨running, launches, -⟩
    have tended := Tended.watchAll supervisor now distinct running
    refine invariant.still (fun name => rfl) rfl launches ?_ ⟨?_, tended⟩
    · rw [running]
      exact fun live member => member
    · exact (former.allUp settled sound).append _
  | startupFailed settled failed down => exact invariant.down rfl down
  | shutdown heeds down => exact invariant.down rfl down
  | @handled moment control left board after report phase effects taken proceeds =>
    rcases former with ⟨up, tended⟩
    rcases tended.applied taken with ⟨tendedLeft, applied⟩
    rcases proceeds.phaseFits (up.append _) (applied.loopFits tendedLeft) with
      ⟨fits, running, launches⟩
    refine invariant.still (proceeds.stage?_eq_none _ _) rfl
      (launches.trans applied.board_eq.2) ?_ fits
    intro live member
    have kept := running live member
    rw [applied.board_eq.1] at kept
    exact kept
  | monitored seen =>
    rcases former with ⟨up, tended⟩
    have agrees := agrees_monitorStep? tended.aligned.watched_distinct seen
    exact invariant.still (fun name => rfl) (launched?_of_monitorStep? seen _ _) rfl
      (fun live member => member) ⟨up.append _, tended.agrees agrees⟩
  | @relaunched moment control board repair failure stopping =>
    rcases former with ⟨up, mending⟩
    exact invariant.still (fun name => rfl) rfl rfl (fun live member => member)
      ⟨up.append _, mending.aligned, mending.others, mending.replaced, mending.last⟩
  | repaired starting proceeds => exact invariant.repaired proceeds
  | monitoredMeanwhile seen =>
    rcases former with ⟨up, mending⟩
    have agrees := agrees_monitorStep? mending.aligned.watched_distinct seen
    exact invariant.still (fun name => rfl) (launched?_of_monitorStep? seen _ _) rfl
      (fun live member => member) ⟨up.append _, mending.agrees agrees⟩
  | @stopped moment current rest board after failure refusal phase effects down =>
    have emptied : { board with running := [] } = board := by
      rw [← show board.running = [] from former]
    rw [← emptied] at down
    exact invariant.down rfl down

/-- The invariant holds at the end of every history of a run. -/
theorem Run.invariant {mail : Mail} {history : List Turn} {state : State}
    (run : supervisor.Run mail history state) : Invariant supervisor history state := by
  induction run with
  | start => exact .start
  | step before made induction => exact induction.step (.of_step? made)
  | exchange mailbox allowed before induction =>
    rcases induction with ⟨founded, count, running, up, tended⟩
    exact ⟨founded, count, running, up, tended.agrees rfl⟩

end Convoy.Supervisor
