import Convoy.Proofs.Supervisor.Invariant

/-!
# Reports handled one after another

A control loop that is given reports handles each of them to its end: a restart that follows from a
report is gone through with before the next report is taken. What is handled in this way is what a
run with arbitrary mail can do, so that statements about lists of reports are statements about runs.
-/

namespace Convoy

/-- A report, and what comes of a restart that follows from it. -/
structure Delivery where
  report : Report
  /-- When the control loop is through with the report. -/
  moment : Duration
  /-- How the stop of the old instance ends. -/
  stopped : Option Failure
  /-- How the launch of the new instance ends. -/
  launched : Option Failure

/-- One after another, from some moment on. -/
def Delivery.Timely (now : Duration) : List Delivery → Prop
  | [] => True
  | delivery :: rest => now ≤ delivery.moment ∧ Timely delivery.moment rest

namespace Loop

/-- A control loop between two reports, whatever else is on its way to it. -/
def between (control : Control) (board : Board) : Loop :=
  ⟨{ control with mailbox := .empty }, board, .done⟩

/-- A report is about a slot that is not watched, or about an instance that has been replaced. -/
def isStale (loop : Loop) (report : Report) : Bool :=
  match loop.control.find? report.slot with
  | none => true
  | some watched => watched.generation != report.generation

end Loop

namespace Supervisor

/-- Goes through with a restart that has begun. -/
def mend (supervisor : Supervisor) (delivery : Delivery) (loop : Loop) : Move Loop :=
  match loop.progress with
  | .repairing repair =>
    (supervisor.relaunch loop.control loop.board repair delivery.stopped).andThen fun waiting =>
      supervisor.finishRepair delivery.moment waiting.control waiting.board repair
        delivery.launched
  | _ => .still loop

/-- Handles a report to its end; a control loop that has broken off handles none. -/
def handle (supervisor : Supervisor) (loop : Loop) (delivery : Delivery) : Move Loop :=
  match loop.progress with
  | .done =>
    (supervisor.apply loop.control loop.board delivery.report).andThen (supervisor.mend delivery)
  | _ => .still loop

def handleAll (supervisor : Supervisor) : Loop → List Delivery → Move Loop
  | loop, [] => .still loop
  | loop, delivery :: rest =>
    (supervisor.handle loop delivery).andThen fun next => supervisor.handleAll next rest

/-- What is left of some deliveries without those that are stale when their turn comes. -/
def withoutStale (supervisor : Supervisor) : Loop → List Delivery → List Delivery
  | _, [] => []
  | loop, delivery :: rest =>
    if loop.isStale delivery.report then supervisor.withoutStale loop rest
    else delivery :: supervisor.withoutStale (supervisor.handle loop delivery).next rest

variable {supervisor : Supervisor} {loop : Loop} {control : Control} {board : Board}

/-! ## Stale reports -/

theorem handle_of_not_done (broken : loop.progress ≠ .done) (delivery : Delivery) :
    supervisor.handle loop delivery = .still loop := by
  unfold handle
  split
  · rename_i done
    exact absurd done broken
  · rfl

theorem handleAll_of_not_done (broken : loop.progress ≠ .done) (deliveries : List Delivery) :
    supervisor.handleAll loop deliveries = .still loop := by
  induction deliveries with
  | nil => rfl
  | cons delivery rest induction =>
    rw [handleAll, handle_of_not_done broken]
    exact induction

/-- A stale report does nothing. -/
theorem handle_of_isStale {delivery : Delivery} (stale : loop.isStale delivery.report = true) :
    supervisor.handle loop delivery = .still loop := by
  rcases loop with ⟨control, board, progress⟩
  cases progress with
  | done =>
    have applied : supervisor.apply control board delivery.report =
        .still ⟨control, board, .done⟩ := by
      unfold Loop.isStale at stale
      unfold apply
      split at stale
      · rename_i absent
        rw [show control.find? delivery.report.slot = none from absent]
      · rename_i watched found
        rw [show control.find? delivery.report.slot = some watched from found]
        exact if_pos (by simpa using stale)
    show (supervisor.apply control board delivery.report).andThen _ = _
    rw [applied]
    rfl
  | repairing repair => exact handle_of_not_done (by simp) delivery
  | broken failure => exact handle_of_not_done (by simp) delivery

/-- Without the reports that are stale when their turn comes, exactly the same is done. -/
theorem handleAll_withoutStale (supervisor : Supervisor) (loop : Loop)
    (deliveries : List Delivery) :
    supervisor.handleAll loop (supervisor.withoutStale loop deliveries) =
      supervisor.handleAll loop deliveries := by
  induction deliveries generalizing loop with
  | nil => rfl
  | cons delivery rest induction =>
    unfold withoutStale
    split
    · rename_i stale
      rw [induction, handleAll, handle_of_isStale stale]
      rfl
    · simp only [handleAll, Move.andThen, induction]

/-! ## What handling a report comes to -/

/-- How a report has been handled, and what has been done. -/
inductive Handled (supervisor : Supervisor) (control : Control) (board : Board)
    (delivery : Delivery) : Loop → List Effect → Prop where
  | applied {next : Loop} {effects : List Effect}
      (applied : Applied supervisor control board delivery.report next effects)
      (ended : ∀ repair, next.progress ≠ .repairing repair) :
      Handled supervisor control board delivery next effects
  | mended {begun next : Loop} {repair : Repair} {effects further : List Effect}
      (applied : Applied supervisor control board delivery.report begun effects)
      (repairing : begun.progress = .repairing repair)
      (finished : Finished supervisor delivery.moment begun.control begun.board repair.old.slot
        delivery.launched next further) :
      Handled supervisor control board delivery next
        (effects ++ ((supervisor.relaunch begun.control begun.board repair
          delivery.stopped).effects ++ further))

theorem Handled.of_handle (supervisor : Supervisor) (tended : Tended control board)
    (delivery : Delivery) :
    Handled supervisor control board delivery
      (supervisor.handle ⟨control, board, .done⟩ delivery).next
      (supervisor.handle ⟨control, board, .done⟩ delivery).effects := by
  have applied : Applied supervisor control board delivery.report _ _ :=
    .of_apply delivery.report tended.active
  have fits := applied.loopFits tended
  unfold handle
  dsimp only
  generalize supervisor.apply control board delivery.report = move at applied fits ⊢
  rcases move with ⟨⟨after, left, progress⟩, effects⟩
  cases progress with
  | done =>
    have handled := Handled.applied applied (by simp)
    simpa [Move.andThen, mend, Move.still, Move.after] using handled
  | broken failure =>
    have handled := Handled.applied applied (by simp)
    simpa [Move.andThen, mend, Move.still, Move.after] using handled
  | repairing repair =>
    have finished := Mending.finished fits supervisor delivery.moment delivery.launched
    exact .mended applied rfl finished

/-- Where a report has been handled without a breakdown, the instances are tended again. -/
theorem Handled.tended {delivery : Delivery} {next : Loop} {effects : List Effect}
    (handled : Handled supervisor control board delivery next effects)
    (tended : Tended control board) (done : next.progress = .done) :
    Tended next.control next.board := by
  have fits : LoopFits next := by
    cases handled with
    | applied applied ended => exact applied.loopFits tended
    | mended applied repairing finished =>
      have mending := applied.loopFits tended
      unfold LoopFits at mending
      rw [repairing] at mending
      exact finished.loopFits mending
  unfold LoopFits at fits
  rw [done] at fits
  exact fits

/-! ## Handling reports in a run -/

/-- Nothing is put into an empty mailbox by handling a report. -/
theorem mailbox_beginRepair {watched : Watched} (empty : control.mailbox = .empty)
    (rest : List HealthAction) :
    (supervisor.beginRepair control board watched rest).next.control.mailbox = .empty := by
  unfold beginRepair
  split
  · exact empty
  · show control.mailbox.withdraw watched.slot = .empty
    rw [empty]
    rfl

theorem mailbox_perform {watched : Watched} (empty : control.mailbox = .empty)
    (actions : List HealthAction) :
    (supervisor.perform control watched board actions).next.control.mailbox = .empty := by
  induction actions generalizing board with
  | nil => exact empty
  | cons action rest induction =>
    cases action with
    | started => exact induction
    | addToRouting => exact induction
    | removeFromRouting => exact induction
    | startupFailed => exact mailbox_beginRepair empty rest
    | restart => exact mailbox_beginRepair empty rest

theorem mailbox_apply (empty : control.mailbox = .empty) (report : Report) :
    (supervisor.apply control board report).next.control.mailbox = .empty := by
  unfold apply
  split
  · exact empty
  · split
    · exact empty
    · split
      · dsimp only
        apply mailbox_perform
        exact empty
      · exact mailbox_perform empty _

theorem mailbox_mend (empty : loop.control.mailbox = .empty) (delivery : Delivery) :
    (supervisor.mend delivery loop).next.control.mailbox = .empty := by
  unfold mend
  split
  · rename_i repair repairing
    show (supervisor.finishRepair delivery.moment loop.control loop.board repair
      delivery.launched).next.control.mailbox = .empty
    unfold finishRepair
    split
    · exact empty
    · dsimp only
      split
      · exact empty
      · apply mailbox_perform
        exact empty
  · exact empty

theorem mailbox_handle (empty : loop.control.mailbox = .empty) (delivery : Delivery) :
    (supervisor.handle loop delivery).next.control.mailbox = .empty := by
  unfold handle
  split
  · exact mailbox_mend (mailbox_apply empty _) delivery
  · exact empty

/-- What is done about a report, a run with arbitrary mail can do in a few turns. -/
theorem Run.handle {history : List Turn} {now : Duration} {delivery : Delivery}
    (run : supervisor.Run .arbitrary history ⟨now, .supervising control, board⟩)
    (timely : now ≤ delivery.moment) :
    ∃ further,
      supervisor.Run .arbitrary (history ++ further)
        ⟨delivery.moment,
          (ofLoop (supervisor.handle (.between control board) delivery).next).next.1,
          (ofLoop (supervisor.handle (.between control board) delivery).next).next.2⟩ ∧
      further.flatMap (·.effects) =
        ((supervisor.handle (.between control board) delivery).andThen ofLoop).effects := by
  have delivered := run.exchange ⟨[delivery.report], []⟩ rfl
  have made : supervisor.step? delivery.moment
      ⟨now, .supervising { control with mailbox := ⟨[delivery.report], []⟩ }, board⟩ .handled =
      some (((supervisor.apply { control with mailbox := .empty } board delivery.report).andThen
        ofLoop).map fun reached => ⟨delivery.moment, reached.1, reached.2⟩) := by
    unfold step?
    rw [if_pos timely]
    rfl
  have handled := delivered.step made
  rcases run.invariant.phase with ⟨-, tended⟩
  have applied : Applied supervisor { control with mailbox := .empty } board delivery.report _ _ :=
    .of_apply delivery.report tended.active
  unfold Supervisor.handle Loop.between
  dsimp only
  generalize supervisor.apply { control with mailbox := .empty } board delivery.report = move
    at applied handled ⊢
  rcases move with ⟨⟨after, left, progress⟩, effects⟩
  cases progress with
  | done => exact ⟨[_], handled, by simp [Move.andThen, Move.after, Move.map, mend, Move.still]⟩
  | broken failure =>
    exact ⟨[_], handled, by simp [Move.andThen, Move.after, Move.map, mend, Move.still]⟩
  | repairing repair =>
    have stopping := applied.stage_eq rfl
    have here : delivery.moment ≤ delivery.moment := Nat.le_refl _
    have stopMade : supervisor.step? delivery.moment
        ⟨delivery.moment, .repairing after repair, left⟩
        (.stopEnded repair.old delivery.stopped) =
        some (((supervisor.relaunch after left repair delivery.stopped).andThen ofLoop).map
          fun reached => ⟨delivery.moment, reached.1, reached.2⟩) := by
      refine (if_pos here).trans ?_
      simp [stopping]
    have launchMade : supervisor.step? delivery.moment
        ⟨delivery.moment, .repairing after { repair with stage := .starting }, left⟩
        (.startEnded repair.old.slot delivery.launched) =
        some (((supervisor.finishRepair delivery.moment after left repair
          delivery.launched).andThen ofLoop).map
          fun reached => ⟨delivery.moment, reached.1, reached.2⟩) := by
      refine (if_pos here).trans ?_
      simp
      rfl
    have finished := (handled.step stopMade).step launchMade
    simp only [List.append_assoc] at finished
    refine ⟨_, finished, ?_⟩
    simp [Move.andThen, Move.after, Move.map, mend, Move.still, ofLoop, relaunch]

/-- Whatever reports are handled one after another, a run with arbitrary mail can do the same. -/
theorem Run.handleAll {history : List Turn} {now : Duration} {deliveries : List Delivery}
    (run : supervisor.Run .arbitrary history ⟨now, .supervising control, board⟩)
    (timely : Delivery.Timely now deliveries) :
    ∃ further moment,
      supervisor.Run .arbitrary (history ++ further)
        ⟨moment,
          (ofLoop (supervisor.handleAll (.between control board) deliveries).next).next.1,
          (ofLoop (supervisor.handleAll (.between control board) deliveries).next).next.2⟩ ∧
      further.flatMap (·.effects) =
        ((supervisor.handleAll (.between control board) deliveries).andThen ofLoop).effects := by
  induction deliveries generalizing history now control board with
  | nil =>
    refine ⟨[], now, ?_, rfl⟩
    rw [List.append_nil]
    exact run.exchange .empty rfl
  | cons delivery rest induction =>
    rcases timely with ⟨first, later⟩
    rcases run.handle first with ⟨turns, reached, effects⟩
    have empty : (supervisor.handle (.between control board) delivery).next.control.mailbox =
        .empty := mailbox_handle rfl delivery
    rw [Supervisor.handleAll]
    generalize supervisor.handle (.between control board) delivery = move at reached effects empty ⊢
    rcases move with ⟨⟨after, left, progress⟩, done⟩
    by_cases ongoing : progress = .done
    · subst ongoing
      have same : Loop.between after left = ⟨after, left, .done⟩ := by
        rcases after with ⟨watched, mailbox⟩
        cases empty
        rfl
      have between : supervisor.Run .arbitrary (history ++ turns)
          ⟨delivery.moment, .supervising after, left⟩ := reached
      rcases induction between later with ⟨further, moment, run, told⟩
      rw [same] at run told
      refine ⟨turns ++ further, moment, ?_, ?_⟩
      · rw [← List.append_assoc]
        exact run
      · rw [List.flatMap_append, effects, told]
        simp [Move.andThen, Move.after, ofLoop, Move.still]
    · -- A loop that has broken off handles none of the other reports.
      have ignored : supervisor.handleAll ⟨after, left, progress⟩ rest =
          .still ⟨after, left, progress⟩ := handleAll_of_not_done ongoing rest
      refine ⟨turns, delivery.moment, ?_⟩
      simpa [Move.andThen, ignored, Move.still, Move.after] using ⟨reached, effects⟩

end Supervisor

end Convoy
