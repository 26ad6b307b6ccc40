import Convoy.Proofs.Supervisor.Accounted
import Convoy.Proofs.Supervisor.Order

/-!
# Taking a topology down

However a run ends, the live instances are stopped in the reverse of the order in which their slots
were filled first. Since that order respects the dependencies, so does the order of the stops.
-/

namespace Convoy

/-- Whether a turn belongs to taking the topology down. -/
def Turn.takesDown (turn : Turn) : Bool := turn.after.phase.isDown

/-- The instance whose stop has ended in a turn. -/
def Turn.stopped? (turn : Turn) : Option Instance :=
  match turn.happening with
  | .stopEnded target _ => some target
  | _ => none

namespace History

open Effect

/-- The instances that have been asked to stop while the topology was taken down, in order. -/
def finalStops (history : List Turn) : List Instance :=
  (history.filter Turn.takesDown).flatMap fun turn => stops turn.effects

/-- The instances whose stop has ended while the topology was taken down, in order. -/
def finallyStopped (history : List Turn) : List Instance :=
  (history.filter Turn.takesDown).filterMap Turn.stopped?

variable {supervisor : Supervisor} {history : List Turn} {turn : Turn}

theorem finalStops_append (history later : List Turn) :
    finalStops (history ++ later) = finalStops history ++ finalStops later := by
  simp [finalStops]

theorem finallyStopped_append (history later : List Turn) :
    finallyStopped (history ++ later) = finallyStopped history ++ finallyStopped later := by
  simp [finallyStopped]

theorem finalStops_singleton (down : turn.takesDown = true) :
    finalStops [turn] = stops turn.effects := by
  simp [finalStops, down]

theorem finallyStopped_singleton (down : turn.takesDown = true) :
    finallyStopped [turn] = turn.stopped?.toList := by
  cases stopped : turn.stopped? <;> simp [finallyStopped, down, stopped]

/-- Before the topology is taken down nothing has been stopped for good. -/
theorem finalStops_eq_nil (up : ∀ turn ∈ history, turn.takesDown = false) :
    finalStops history = [] ∧ finallyStopped history = [] := by
  have none : history.filter Turn.takesDown = [] := by
    apply List.filter_eq_nil_iff.2
    intro turn member
    simp [up turn member]
  rw [finalStops, finallyStopped, none]
  exact ⟨rfl, rfl⟩

end History

namespace Supervisor

open History Effect

variable (supervisor : Supervisor) (mail : Mail)

/-- How far the topology has been taken down: the stops so far and the instances that are left make
up the live instances in reverse, and one stop after another has ended. -/
structure Descent (history : List Turn) (state : State) : Prop where
  origin : ∃ earlier later before, history = earlier ++ later ∧
    supervisor.Run mail earlier before ∧
    (∀ turn ∈ earlier, turn.takesDown = false) ∧ (∀ turn ∈ later, turn.takesDown = true) ∧
    finalStops history ++ state.left = before.board.running.reverse ∧
    (before.board.running.map (·.slot)).Sublist (firstLaunches history)
  stopped : finallyStopped history ++ state.asked = finalStops history
  latest : ∀ earlier turn, history = earlier ++ [turn] → stops turn.effects = state.asked

/-- Where a run stands with regard to taking the topology down. -/
structure Course (history : List Turn) (state : State) : Prop where
  up : state.phase.isDown = false →
    (∀ turn ∈ history, turn.takesDown = false) ∧
      (state.board.running.map (·.slot)).Sublist (firstLaunches history)
  down : state.phase.isDown = true → Descent supervisor mail history state

variable {supervisor mail} {history : List Turn} {state next : State} {now : Duration}
  {board after : Board} {phase : Phase} {happening : Happening} {effects done : List Effect}

theorem Course.of_up (before : ∀ turn ∈ history, turn.takesDown = false)
    (up : next.phase.isDown = false)
    (sublist : (next.board.running.map (·.slot)).Sublist
      (firstLaunches (history ++ [⟨now, happening, effects, next⟩]))) :
    Course supervisor mail (history ++ [⟨now, happening, effects, next⟩]) next := by
  constructor
  · intro _
    refine ⟨?_, sublist⟩
    intro turn member
    rcases List.mem_append.1 member with former | new
    · exact before turn former
    · rw [List.mem_singleton.1 new]
      exact up
  · intro down
    rw [up] at down
    cases down

theorem Course.of_down (up : next.phase.isDown = true)
    (descent : Descent supervisor mail history next) : Course supervisor mail history next := by
  constructor
  · intro down
    rw [up] at down
    cases down
  · intro _
    exact descent

theorem Course.begin (course : Course supervisor mail history state)
    (run : supervisor.Run mail history state) (up : state.phase.isDown = false)
    {failure : Option Failure} {left : Board}
    (down : Stopping failure left state.board.running.reverse phase after effects)
    (still : Turn.launched? ⟨now, happening, done, ⟨now, phase, after⟩⟩ = none)
    (silent : Turn.stopped? ⟨now, happening, done, ⟨now, phase, after⟩⟩ = none)
    (asks : stops done = stops effects) :
    Course supervisor mail (history ++ [⟨now, happening, done, ⟨now, phase, after⟩⟩])
      ⟨now, phase, after⟩ := by
  rcases course.up up with ⟨former, sublist⟩
  rcases finalStops_eq_nil former with ⟨noStops, noneStopped⟩
  rcases down.asked_append_left now with ⟨asked, parts⟩
  have takesDown : Turn.takesDown ⟨now, happening, done, ⟨now, phase, after⟩⟩ = true := down.isDown
  have final : finalStops (history ++ [⟨now, happening, done, ⟨now, phase, after⟩⟩]) =
      State.asked ⟨now, phase, after⟩ := by
    rw [finalStops_append, noStops, finalStops_singleton takesDown, ← asked]
    exact asks
  apply Course.of_down down.isDown
  constructor
  · refine ⟨history, _, state, rfl, run, former, ?_, ?_, ?_⟩
    · intro turn member
      rw [List.mem_singleton.1 member]
      exact takesDown
    · rw [final, parts]
    · rw [firstLaunches_concat_of_not_launched still]
      exact sublist
  · rw [final, finallyStopped_append, noneStopped, finallyStopped_singleton takesDown, silent]
    rfl
  · intro earlier turn equal
    have last := (List.append_inj' equal rfl).2
    cases last
    exact asks.trans asked

theorem Descent.step {moment : Duration} {current : Instance} {rest : List Instance}
    {failure refusal : Option Failure}
    (descent : Descent supervisor mail history ⟨moment, .stopping current rest failure, board⟩)
    (down : Stopping failure board rest phase after effects) :
    Descent supervisor mail
      (history ++ [⟨now, .stopEnded current refusal, stopEffects current refusal ++ effects,
        ⟨now, phase, after⟩⟩]) ⟨now, phase, after⟩ := by
  rcases descent.origin with ⟨earlier, later, before, rfl, run, former, latter, split, sublist⟩
  rcases down.asked_append_left now with ⟨asked, parts⟩
  have stopped := descent.stopped
  have takesDown : Turn.takesDown ⟨now, .stopEnded current refusal,
      stopEffects current refusal ++ effects, ⟨now, phase, after⟩⟩ = true := down.isDown
  have asks : stops (stopEffects current refusal ++ effects) = State.asked ⟨now, phase, after⟩ := by
    rw [stops_append, (stopEffects_silent current refusal).stops, asked]
    rfl
  constructor
  · refine ⟨earlier, later ++ [_], before, List.append_assoc _ _ _, run, former, ?_, ?_, ?_⟩
    · intro turn member
      rcases List.mem_append.1 member with old | new
      · exact latter turn old
      · rw [List.mem_singleton.1 new]
        exact takesDown
    · rw [finalStops_append, finalStops_singleton takesDown, asks, List.append_assoc, parts]
      exact split
    · rw [firstLaunches_concat_of_not_launched rfl]
      exact sublist
  · rw [finallyStopped_append, finallyStopped_singleton takesDown, finalStops_append,
      finalStops_singleton takesDown, asks, ← stopped]
    rfl
  · intro front turn equal
    have last := (List.append_inj' equal rfl).2
    cases last
    exact asks

/-- While the topology starts, the live instances are in the order of their launches. -/
theorem BoardFits.sublist_firstLaunches (fits : BoardFits history board) :
    (board.running.map (·.slot)).Sublist (firstLaunches history) := by
  rw [firstLaunches, eraseDups_eq_self fits.distinct, ← map_slot_instances]
  exact fits.running.map _

/-- The control loop goes on, or the topology begins to be taken down. -/
theorem Course.proceeds {progress : Loop}
    (course : Course supervisor mail history state) (run : supervisor.Run mail history state)
    (up : state.phase.isDown = false)
    (proceeds : Proceeds progress phase after effects)
    (running : progress.board.running.map (·.slot) = state.board.running.map (·.slot))
    (same : (∃ failure, progress.progress = .broken failure) →
      progress.board.running = state.board.running ∧
        Turn.launched? ⟨now, happening, done ++ effects, ⟨now, phase, after⟩⟩ = none ∧
        stops done = [])
    (first : firstLaunches (history ++ [⟨now, happening, done ++ effects, ⟨now, phase, after⟩⟩]) =
      firstLaunches history)
    (silent : Turn.stopped? ⟨now, happening, done ++ effects, ⟨now, phase, after⟩⟩ = none) :
    Course supervisor mail
      (history ++ [⟨now, happening, done ++ effects, ⟨now, phase, after⟩⟩])
      ⟨now, phase, after⟩ := by
  rcases course.up up with ⟨former, sublist⟩
  rw [← first, ← running] at sublist
  cases proceeds with
  | done => exact .of_up former rfl sublist
  | repairing => exact .of_up former rfl sublist
  | broken down =>
    rcases same ⟨_, rfl⟩ with ⟨running, still, noStops⟩
    rw [show _ = state.board.running from running] at down
    apply course.begin run up down still silent
    rw [stops_append, noStops]
    rfl

theorem Course.step
    (course : Course supervisor mail history state) (run : supervisor.Run mail history state)
    (step : Step supervisor now state happening next effects) :
    Course supervisor mail (history ++ [⟨now, happening, effects, next⟩]) next := by
  have invariant := run.invariant
  have former := invariant.phase
  have later := (invariant.step step).phase
  cases step with
  | stage declared standing step =>
    exact .of_up (course.up rfl).1 rfl later.board.sublist_firstLaunches
  | joined standing fresh => exact .of_up (course.up rfl).1 rfl later.board.sublist_firstLaunches
  | @startedUp moment startup board line settled sound =>
    rcases course.up rfl with ⟨up, sublist⟩
    rcases watchAll_board supervisor now board former.board.unrouted with ⟨running, -, -⟩
    apply Course.of_up up rfl
    rw [firstLaunches_concat_of_not_launched rfl, running]
    exact sublist
  | startupFailed settled failed down => exact course.begin run rfl down rfl rfl rfl
  | shutdown heeds down =>
    cases heeds with
    | starting => exact course.begin run rfl down rfl rfl rfl
    | supervising => exact course.begin run rfl down rfl rfl rfl
  | handled taken proceeds =>
    rcases former.2.applied taken with ⟨-, applied⟩
    refine course.proceeds run rfl proceeds ?_ ?_ (firstLaunches_concat_of_not_launched rfl) rfl
    · rw [applied.board_eq.1]
    · rintro ⟨failure, broken⟩
      refine ⟨applied.board_eq.1, rfl, ?_⟩
      rw [applied.asks.2.1, broken]
      rfl
  | monitored seen =>
    rcases course.up rfl with ⟨up, sublist⟩
    apply Course.of_up up rfl
    rw [firstLaunches_concat_of_not_launched (launched?_of_monitorStep? seen _ _)]
    exact sublist
  | relaunched stopping =>
    rcases course.up rfl with ⟨up, sublist⟩
    apply Course.of_up up rfl
    rw [firstLaunches_concat_of_not_launched rfl]
    exact sublist
  | @repaired moment control board after repair failure phase effects starting proceeds =>
    rcases former with ⟨-, mending⟩
    have finished := mending.finished supervisor now failure
    have known := slot_mem_launches (invariant.running repair.old mending.replaced)
    rcases finished.board_eq with ⟨failed, same⟩ | ⟨rfl, finishes, replaced, -⟩
    · have still : Turn.launched? ⟨now, .startEnded repair.old.slot failure,
          (supervisor.finishRepair now control board repair failure).effects ++ effects,
          ⟨now, phase, after⟩⟩ = none := launched?_of_refused failed
      refine course.proceeds run rfl proceeds ?_ ?_ (firstLaunches_concat_of_not_launched still) rfl
      · rw [same]
      · intro broken
        exact ⟨by rw [same], still, finished.asks.2⟩
    · refine course.proceeds run rfl proceeds ?_ ?_ (firstLaunches_concat_of_mem rfl known) rfl
      · rw [replaced, Board.map_slot_replace]
      · rintro ⟨failure, broken⟩
        rw [finishes] at broken
        cases broken
  | monitoredMeanwhile seen =>
    rcases course.up rfl with ⟨up, sublist⟩
    apply Course.of_up up rfl
    rw [firstLaunches_concat_of_not_launched (launched?_of_monitorStep? seen _ _)]
    exact sublist
  | stopped down => exact .of_down down.isDown ((course.down rfl).step down)

theorem Run.course (run : supervisor.Run mail history state) :
    Course supervisor mail history state := by
  induction run with
  | start =>
    constructor
    · intro up
      exact ⟨by simp, List.Sublist.refl _⟩
    · intro down
      cases down
  | exchange mailbox allowed before induction =>
    constructor
    · intro up
      exact induction.up rfl
    · intro down
      cases down
  | step before made induction => exact induction.step before (.of_step? made)

/-- The final stops respect the dependencies. -/
theorem Descent.pairwise (descent : Descent supervisor mail history state)
    (layered : Layered supervisor history) :
    (finalStops history).Pairwise (fun first second =>
      ¬supervisor.topology.Requires second.slot.service first.slot.service) ∧
    ∀ live ∈ finalStops history,
      ¬supervisor.topology.Requires live.slot.service live.slot.service := by
  rcases descent.origin with ⟨earlier, later, before, -, -, -, -, split, sublist⟩
  constructor
  · have order := List.pairwise_reverse.2 (List.pairwise_map.1 (layered.order.sublist sublist))
    rw [← split] at order
    exact (List.pairwise_append.1 order).1
  · intro live member
    have placed : live ∈ before.board.running.reverse := by
      rw [← split]
      exact List.mem_append_left _ member
    have slot := List.mem_map_of_mem (f := Instance.slot) (List.mem_reverse.1 placed)
    exact layered.acyclic live.slot (mem_firstLaunches.1 (sublist.subset slot))

/-- When an instance is asked to stop, all those have stopped that were asked before. -/
theorem Descent.stopped_before {earlier : List Turn} {turn : Turn}
    (descent : Descent supervisor mail (earlier ++ [turn]) state)
    (takesDown : turn.takesDown = true) :
    finallyStopped (earlier ++ [turn]) = finalStops earlier ∧ stops turn.effects = state.asked := by
  have latest := descent.latest earlier turn rfl
  have stopped := descent.stopped
  rw [finalStops_append, finalStops_singleton takesDown, latest] at stopped
  exact ⟨List.append_cancel_right stopped, latest⟩

theorem State.eq_of_mem_asked {live target : Instance} (first : live ∈ state.asked)
    (second : target ∈ state.asked) : live = target := by
  rcases state with ⟨moment, phase, board⟩
  cases phase with
  | stopping current rest failure =>
    exact (List.mem_singleton.1 first).trans (List.mem_singleton.1 second).symm
  | _ => cases first

/-- When an instance was asked to stop, all those had stopped that require its service. -/
theorem Run.finallyStopped_of_requires {earlier later : List Turn} {turn : Turn}
    (run : supervisor.Run mail (earlier ++ turn :: later) state)
    (down : state.phase.isDown = true) (takesDown : turn.takesDown = true)
    {target live : Instance} (asked : target ∈ stops turn.effects)
    (member : live ∈ finalStops (earlier ++ turn :: later))
    (requires : supervisor.topology.Requires live.slot.service target.slot.service) :
    live ∈ finallyStopped (earlier ++ [turn]) := by
  rcases (run.course.down down).pairwise run.layered with ⟨ordered, acyclic⟩
  rcases run.split rfl with ⟨before, past, made⟩
  have reached : supervisor.Run mail (earlier ++ [turn]) turn.after := past.step made
  rcases (reached.course.down takesDown).stopped_before takesDown with ⟨stopped, latest⟩
  have parts : finalStops (earlier ++ turn :: later) =
      finalStops earlier ++ (stops turn.effects ++ finalStops later) := by
    rw [← List.singleton_append, finalStops_append, finalStops_append,
      finalStops_singleton takesDown]
  rw [parts] at member ordered acyclic
  rw [stopped]
  rcases List.mem_append.1 member with before | after
  · exact before
  · rcases List.mem_append.1 after with now | later
    · rw [latest] at now asked
      have same := State.eq_of_mem_asked now asked
      subst same
      exact absurd requires (acyclic live member)
    · have following := (List.pairwise_append.1 (List.pairwise_append.1 ordered).2.1).2.2
      exact absurd requires (following target asked live later)

/-- The topology has been taken down. -/
structure TakenDown (supervisor : Supervisor) (mail : Mail) (history : List Turn) (state : State) :
    Prop where
  /-- The exit of every instance has been awaited while its service started, or the instance has been
  asked to stop. -/
  covered : ∀ live ∈ instances history,
    AwaitedExit supervisor history live ∨ StopAsked history live
  running : state.board.running = []
  routing : state.board.routing = .empty
  /-- The instances that were live when the topology began to be taken down have been asked to stop,
  in the reverse of the order in which their slots were filled first. -/
  reversed : ∃ earlier later before, history = earlier ++ later ∧
    supervisor.Run mail earlier before ∧
    (∀ turn ∈ earlier, turn.takesDown = false) ∧ (∀ turn ∈ later, turn.takesDown = true) ∧
    finalStops history = before.board.running.reverse ∧
    (before.board.running.map (·.slot)).Sublist (firstLaunches history)
  /-- When an instance was asked to stop, all those had stopped that require its service. -/
  ordered : ∀ earlier turn later, history = earlier ++ turn :: later → turn.takesDown = true →
    ∀ target ∈ stops turn.effects, ∀ live ∈ finalStops history,
      supervisor.topology.Requires live.slot.service target.slot.service →
        live ∈ finallyStopped (earlier ++ [turn])

/-- However a run has ended, no instance is left behind, and the order of the stops has respected the
dependencies. -/
theorem nothing_left_behind
    (run : supervisor.Run mail history state) {failure : Option Failure}
    (ended : state.phase = .ended failure) : TakenDown supervisor mail history state := by
  have accounted := run.accounted
  have none : state.left = [] := by
    unfold State.left
    rw [ended]
  have down : state.phase.isDown = true := by
    rw [ended]
    rfl
  have descent := run.course.down down
  constructor
  · intro live member
    have covered := accounted.covered live member
    rw [none] at covered
    exact covered.resolve_left (List.not_mem_nil)
  · have phase := run.invariant.phase
    rw [ended] at phase
    exact phase
  · have routed := accounted.routed
    rw [none] at routed
    apply routed.tidy.eq_empty
    intro slot contained
    cases routed.within slot contained
  · rcases descent.origin with ⟨earlier, later, before, split, past, former, latter, stops, sublist⟩
    rw [none, List.append_nil] at stops
    exact ⟨earlier, later, before, split, past, former, latter, stops, sublist⟩
  · rintro earlier turn later rfl takesDown target asked live member requires
    exact run.finallyStopped_of_requires down takesDown asked member requires

/-- After a restart and a shutdown, no instance of the small stack is left behind. -/
theorem small_nothing_left_behind :
    ∃ earlier turn state, small.Run .monitored (earlier ++ [turn]) state ∧
      state.phase = .ended none ∧
      finalStops (earlier ++ [turn]) = [⟨⟨"app", 0⟩, 3⟩, ⟨⟨"db", 0⟩, 0⟩] ∧
      TakenDown small .monitored (earlier ++ [turn]) state := by
  rcases exists_run_of_replay? small .monitored small.descend
    (fun earlier turn state => decide (state.phase = .ended none) && decide
      (finalStops (earlier ++ [turn]) = [⟨⟨"app", 0⟩, 3⟩, ⟨⟨"db", 0⟩, 0⟩]))
    (by decide +kernel) with ⟨earlier, turn, state, run, tested⟩
  rcases Bool.and_eq_true_iff.1 tested with ⟨down, stopped⟩
  have ended : state.phase = .ended none := of_decide_eq_true down
  exact ⟨earlier, turn, state, run, ended, of_decide_eq_true stopped, nothing_left_behind run ended⟩

end Supervisor

end Convoy
