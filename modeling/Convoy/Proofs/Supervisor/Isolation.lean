import Convoy.Proofs.Supervisor.Delivery
import Convoy.Proofs.Supervisor.Traffic

/-!
# Reports about different slots

A report concerns its own slot and no other one: whatever comes of it is decided by what is known
about this slot, and leaves everything about the other slots as it is. Two reports about different
slots may therefore be handled in either order.
-/

namespace Convoy

/-! ## Nothing changes but one slot -/

/-- Two loops agree on all slots but one. -/
structure Loop.SameBut (slot : Slot) (loop next : Loop) : Prop where
  watched : ∀ other, other ≠ slot → next.control.find? other = loop.control.find? other
  routed : ∀ other, other ≠ slot →
    next.board.routing.contains other = loop.board.routing.contains other
  running : ∀ other, other ≠ slot →
    next.board.running.filter (·.slot = other) = loop.board.running.filter (·.slot = other)

namespace Loop.SameBut

variable {slot : Slot} {first second third : Loop}

theorem refl (loop : Loop) : SameBut slot loop loop :=
  ⟨fun _ _ => rfl, fun _ _ => rfl, fun _ _ => rfl⟩

theorem trans (same : SameBut slot first second) (further : SameBut slot second third) :
    SameBut slot first third where
  watched other different := (further.watched other different).trans (same.watched other different)
  routed other different := (further.routed other different).trans (same.routed other different)
  running other different := (further.running other different).trans (same.running other different)

end Loop.SameBut

namespace Control

theorem find?_put_of_ne (control : Control) {watched : Watched} {slot : Slot}
    (different : slot ≠ watched.slot) : (control.put watched).find? slot = control.find? slot := by
  rw [find?, find?, put]
  induction control.watched with
  | nil => rfl
  | cons first rest induction =>
    rw [List.map_cons, List.find?_cons, List.find?_cons, induction]
    by_cases own : first.slot = watched.slot
    · simp [own, Ne.symm different]
    · simp [own]

end Control

namespace Board

variable (board : Board) {slot other : Slot}

theorem contains_route_of_ne (different : other ≠ slot) :
    (board.route slot).routing.contains other = board.routing.contains other := by
  rw [Bool.eq_iff_iff, contains_route]
  simp [different]

theorem contains_unroute_of_ne (different : other ≠ slot) :
    (board.unroute slot).routing.contains other = board.routing.contains other := by
  rw [Bool.eq_iff_iff, contains_unroute]
  simp [different]

theorem filter_replace_of_ne (different : other ≠ slot) :
    (board.replace slot).running.filter (·.slot = other) =
      board.running.filter (·.slot = other) := by
  rw [replace]
  induction board.running with
  | nil => rfl
  | cons live rest induction =>
    dsimp only at induction
    rw [List.map_cons, List.filter_cons, List.filter_cons, induction]
    by_cases own : live.slot = slot
    · simp [own, nextInstance, Ne.symm different]
    · simp [own]

end Board

namespace Supervisor

open History Effect

variable {supervisor : Supervisor} {control : Control} {board : Board} {slot : Slot}

theorem sameBut_idle (mailbox : Mailbox) (progress further : Progress) :
    Loop.SameBut slot ⟨control, board, progress⟩
      ⟨{ control with mailbox := mailbox }, board, further⟩ where
  watched _ _ := rfl
  routed _ _ := rfl
  running _ _ := rfl

theorem sameBut_route (progress further : Progress) :
    Loop.SameBut slot ⟨control, board, progress⟩ ⟨control, board.route slot, further⟩ where
  watched _ _ := rfl
  routed _ different := board.contains_route_of_ne different
  running _ _ := rfl

theorem sameBut_unroute (progress further : Progress) :
    Loop.SameBut slot ⟨control, board, progress⟩ ⟨control, board.unroute slot, further⟩ where
  watched _ _ := rfl
  routed _ different := board.contains_unroute_of_ne different
  running _ _ := rfl

theorem sameBut_put (watched : Watched) (own : watched.slot = slot)
    (progress further : Progress) :
    Loop.SameBut slot ⟨control, board, progress⟩ ⟨control.put watched, board, further⟩ where
  watched _ different := by
    subst own
    exact control.find?_put_of_ne different
  routed _ _ := rfl
  running _ _ := rfl

theorem sameBut_replace (progress further : Progress) :
    Loop.SameBut slot ⟨control, board, progress⟩ ⟨control, board.replace slot, further⟩ where
  watched _ _ := rfl
  routed _ _ := rfl
  running _ different := board.filter_replace_of_ne different

theorem sameBut_beginRepair {watched : Watched} (own : watched.slot = slot)
    (rest : List HealthAction) (progress : Progress) :
    Loop.SameBut slot ⟨control, board, progress⟩
      (supervisor.beginRepair control board watched rest).next := by
  unfold beginRepair
  split
  · exact sameBut_idle _ _ _
  · subst own
    have withdrawn : Loop.SameBut watched.slot ⟨control, board, progress⟩
        ⟨{ control with mailbox := control.mailbox.withdraw watched.slot }, board, progress⟩ :=
      sameBut_idle _ _ _
    have noted := withdrawn.trans (sameBut_put watched.unmonitored rfl _ progress)
    exact noted.trans (sameBut_unroute _ _)

theorem sameBut_perform {watched : Watched} (own : watched.slot = slot)
    (actions : List HealthAction) (progress : Progress) :
    Loop.SameBut slot ⟨control, board, progress⟩
      (supervisor.perform control watched board actions).next := by
  induction actions generalizing board with
  | nil => exact sameBut_idle _ _ _
  | cons action rest induction =>
    cases action with
    | started => exact induction
    | addToRouting =>
      subst own
      exact (sameBut_route progress progress).trans induction
    | removeFromRouting =>
      subst own
      exact (sameBut_unroute progress progress).trans induction
    | startupFailed => exact sameBut_beginRepair own rest progress
    | restart => exact sameBut_beginRepair own rest progress

theorem sameBut_apply (report : Report) (progress : Progress) :
    Loop.SameBut report.slot ⟨control, board, progress⟩
      (supervisor.apply control board report).next := by
  unfold apply
  split
  · exact sameBut_idle _ _ _
  · rename_i watched found
    have own := (Control.find?_slot found).2
    split
    · exact sameBut_idle _ _ _
    · split
      · rename_i kind passed finding
        have observed : Loop.SameBut report.slot ⟨control, board, progress⟩
            ⟨control.put { watched with health := (watched.health.observe kind passed).1 }, board,
              progress⟩ := by
          apply sameBut_put
          exact own
        apply observed.trans
        apply sameBut_perform
        exact own
      · exact sameBut_perform own _ progress

theorem sameBut_finishRepair (now : Duration) (repair : Repair) (failure : Option Failure)
    (progress : Progress) :
    Loop.SameBut repair.old.slot ⟨control, board, progress⟩
      (supervisor.finishRepair now control board repair failure).next := by
  unfold finishRepair
  split
  · exact sameBut_idle _ _ _
  · dsimp only
    split
    · exact sameBut_idle _ _ _
    · rename_i old found
      have own := (Control.find?_slot found).2
      have noted : ∀ watched : Watched, watched.slot = repair.old.slot →
          Loop.SameBut repair.old.slot ⟨control, board, progress⟩
            ⟨control.put watched, board.replace repair.old.slot, progress⟩ :=
        fun watched own => (sameBut_put watched own progress progress).trans (sameBut_replace _ _)
      dsimp only [Move.after]
      refine Loop.SameBut.trans ?_ (sameBut_perform ?_ _ progress)
      · split
        · refine (noted _ ?_).trans (sameBut_route progress progress)
          exact own
        · apply noted
          exact own
      · exact own

/-- A restart concerns the instance whose report it follows from. -/
theorem perform_repairing {watched : Watched} {actions : List HealthAction} {repair : Repair}
    (repairing :
      (supervisor.perform control watched board actions).next.progress = .repairing repair) :
    repair.old = watched.current := by
  have begun : ∀ board rest,
      (supervisor.beginRepair control board watched rest).next.progress = .repairing repair →
        repair.old = watched.current := by
    intro board rest begun
    unfold beginRepair at begun
    split at begun
    · cases begun
    · cases begun
      rfl
  induction actions generalizing board with
  | nil => cases repairing
  | cons action rest induction =>
    cases action with
    | started => exact induction repairing
    | addToRouting => exact induction repairing
    | removeFromRouting => exact induction repairing
    | startupFailed => exact begun board rest repairing
    | restart => exact begun board rest repairing

theorem apply_repairing {report : Report} {repair : Repair}
    (repairing : (supervisor.apply control board report).next.progress = .repairing repair) :
    repair.old.slot = report.slot := by
  unfold apply at repairing
  split at repairing
  · cases repairing
  · rename_i watched found
    have own := (Control.find?_slot found).2
    split at repairing
    · cases repairing
    · split at repairing
      · rw [perform_repairing repairing]
        exact own
      · rw [perform_repairing repairing]
        exact own

/-- Whatever comes of a report, nothing changes but its own slot. -/
theorem sameBut_handle (loop : Loop) (delivery : Delivery) :
    Loop.SameBut delivery.report.slot loop (supervisor.handle loop delivery).next := by
  rcases loop with ⟨control, board, progress⟩
  cases progress with
  | done =>
    have applied : Loop.SameBut delivery.report.slot ⟨control, board, .done⟩
        (supervisor.apply control board delivery.report).next := sameBut_apply _ _
    unfold handle
    refine applied.trans ?_
    dsimp only [Move.andThen, Move.after]
    unfold mend
    split
    · rename_i repair repairing
      rw [← apply_repairing repairing]
      exact sameBut_finishRepair _ _ _ _
    · exact .refl _
  | repairing repair => exact .refl _
  | broken failure => exact .refl _

end Supervisor

/-! ## What a report comes to -/

/-- What is known about a slot, whichever instance is in it. -/
structure View where
  slot : Slot
  generation : Nat
  health : Health
  deriving DecidableEq

def Watched.view (watched : Watched) : View := ⟨watched.slot, watched.generation, watched.health⟩

/-- What is known about all slots, in their order. -/
def Loop.views (loop : Loop) : List View := loop.control.watched.map Watched.view

/-- What comes of a report about a slot. -/
inductive Judgement where
  | ignored
  | noted (health : Health)
  /-- The instance is replaced after its health has been noted. -/
  | replaced (health : Health)
  /-- The instance would have to be replaced, but no restart is left or the launch fails. -/
  | failed
  deriving DecidableEq

namespace Judgement

/-- What is known about the slot afterwards. -/
def renew (judgement : Judgement) (view : View) : View :=
  match judgement with
  | noted health => { view with health := health }
  | replaced health =>
    { view with generation := view.generation + 1, health := health.restarted }
  | _ => view

/-- The slots for which an instance is stopped and another one launched. -/
def renews (slot : Slot) : Judgement → List Slot
  | replaced _ => [slot]
  | _ => []

/-- What is reported about the slot. -/
def events (slot : Slot) : Judgement → List (String × Occurrence)
  | replaced health => [(slot.service, .restarted slot.index (health.restarts + 1))]
  | _ => []

@[simp]
theorem slot_renew (judgement : Judgement) (view : View) :
    (judgement.renew view).slot = view.slot := by
  cases judgement <;> rfl

end Judgement

/-- Two deliveries of one report, the launch after which ends in the same way. -/
structure Delivery.Alike (first second : Delivery) : Prop where
  report : second.report = first.report
  launched : second.launched = first.launched

namespace Effect

/-- The events among effects. -/
def events (effects : List Effect) : List (String × Occurrence) :=
  effects.filterMap fun effect =>
    match effect with
    | .event service occurrence => some (service, occurrence)
    | _ => none

@[simp]
theorem events_append (effects further : List Effect) :
    events (effects ++ further) = events effects ++ events further :=
  List.filterMap_append

end Effect

theorem Logs.events {effects : List Effect} (logs : Logs effects) :
    Effect.events effects = [] := by
  induction effects with
  | nil => rfl
  | cons effect rest induction =>
    rcases List.forall_mem_cons.1 logs with ⟨⟨line, rfl⟩, later⟩
    exact induction later

namespace Supervisor

open History Effect

variable {supervisor : Supervisor} {loop next : Loop} {control : Control} {board : Board}
  {delivery : Delivery} {effects : List Effect}

/-- What comes of an instance that has to be replaced. -/
def sentence (supervisor : Supervisor) (delivery : Delivery) (health : Health) : Judgement :=
  if supervisor.options.maxRestarts ≤ health.restarts ∨ delivery.launched ≠ none then .failed
  else .replaced health

/-- What comes of a report about an instance that is watched. -/
def judge (supervisor : Supervisor) (delivery : Delivery) (watched : Watched) : Judgement :=
  if watched.generation ≠ delivery.report.generation then .ignored
  else
    match delivery.report.finding with
    | .probe kind passed =>
      let (health, actions) := watched.health.observe kind passed
      if actions.any HealthAction.repairs then supervisor.sentence delivery health
      else .noted health
    | .exited _ => supervisor.sentence delivery watched.health

/-- What comes of a report. -/
def judgement (supervisor : Supervisor) (loop : Loop) (delivery : Delivery) : Judgement :=
  match loop.control.find? delivery.report.slot with
  | none => .ignored
  | some watched => supervisor.judge delivery watched

/-- What comes of a report is decided by its own slot. -/
theorem judgement_congr {other : Delivery} (alike : delivery.Alike other)
    (same : next.control.find? delivery.report.slot = loop.control.find? delivery.report.slot) :
    supervisor.judgement next other = supervisor.judgement loop delivery := by
  unfold judgement judge sentence
  rw [alike.report, alike.launched, same]

/-- What handling a report comes to, as its judgement says. -/
structure Executed (loop : Loop) (slot : Slot) (judgement : Judgement) (next : Loop)
    (effects : List Effect) : Prop where
  done : next.progress = .done
  views : next.views = loop.views.map fun view =>
    if view.slot = slot then judgement.renew view else view
  starts : starts effects = judgement.renews slot
  stops : (stops effects).map (·.slot) = judgement.renews slot
  events : events effects = judgement.events slot

theorem views_put {watched former : Watched} {slot : Slot}
    (distinct : (control.watched.map (·.slot)).Nodup)
    (found : control.find? slot = some former) {judgement : Judgement}
    (view : watched.view = judgement.renew former.view) :
    (control.put watched).watched.map Watched.view =
      (control.watched.map Watched.view).map fun view =>
        if view.slot = slot then judgement.renew view else view := by
  rcases Control.find?_slot found with ⟨foundMember, rfl⟩
  have own : watched.slot = former.slot := by
    have slots := congrArg View.slot view
    rw [Judgement.slot_renew] at slots
    exact slots
  rw [Control.put, List.map_map, List.map_map]
  refine List.map_congr_left fun other member => ?_
  dsimp only [Function.comp_apply]
  rw [own]
  split
  · rename_i equal
    rw [List.inj_on_of_nodup_map distinct member foundMember equal, view]
    exact (if_pos rfl).symm
  · rename_i different
    exact (if_neg different).symm

theorem judge_of_quiet {watched : Watched} {kind : ProbeKind} {success : Bool}
    (current : watched.generation = delivery.report.generation)
    (finding : delivery.report.finding = .probe kind success)
    (quiet : Health.Quiet (watched.health.observe kind success)) :
    supervisor.judge delivery watched = .noted (watched.health.observe kind success).1 := by
  have harmless : (watched.health.observe kind success).2.any HealthAction.repairs = false := by
    simpa using quiet.2
  unfold judge
  rw [if_neg (by simp [current]), finding]
  simp [harmless]

theorem judge_of_condemns {watched : Watched} {health : Health}
    (current : watched.generation = delivery.report.generation)
    (condemned : Condemns watched delivery.report.finding health) :
    supervisor.judge delivery watched = supervisor.sentence delivery health := by
  unfold judge
  rw [if_neg (by simp [current])]
  generalize delivery.report.finding = finding at condemned
  cases condemned with
  | @probe kind success repairing =>
    rcases repairing with ⟨front, last, actions, repairs, -⟩
    simp [actions, repairs]
  | exited => rfl

theorem relaunch_tells (repair : Repair) (failure : Option Failure) :
    starts (supervisor.relaunch control board repair failure).effects = [repair.old.slot] ∧
      stops (supervisor.relaunch control board repair failure).effects = [] ∧
      events (supervisor.relaunch control board repair failure).effects = [] := by
  have asked := relaunch_asks supervisor control board repair failure
  exact ⟨asked.1, asked.2.1, by cases failure <;> rfl⟩

/-- A restart whose launch succeeds replaces the instance in its slot. -/
theorem Executed.of_repair {watched old : Watched} {health : Health} {mailbox : Mailbox}
    {left : Board} {lines further : List Effect} {line : LogLine} {slot : Slot}
    (distinct : (control.watched.map (·.slot)).Nodup)
    (found : control.find? slot = some watched) (logs : Logs lines)
    (again : (Control.put { control with mailbox := mailbox }
      (Watched.unmonitored { watched with health := health })).find? watched.slot = some old)
    (asked : Effect.starts further = [watched.slot] ∧ Effect.stops further = [] ∧
      Effect.events further = []) (now : Duration) :
    Executed ⟨control, board, .done⟩ slot (.replaced health)
      ⟨(Control.put { control with mailbox := mailbox }
          (Watched.unmonitored { watched with health := health })).put
            ((old.renewed left.launches).monitored (supervisor.probesOf watched.slot) now),
        renewedBoard left watched.slot old.health.restarted.serving, .done⟩
      (lines ++ [.request (.stop watched.current)] ++ (further ++
        [.line line, .event watched.slot.service (.restarted watched.slot.index
          (old.health.restarts + 1)), .request (.awaitExit (left.nextInstance watched.slot))])) := by
  have own := (Control.find?_slot found).2
  subst own
  have exchanged : Control.find? { control with mailbox := mailbox }
      (Watched.unmonitored { watched with health := health }).slot = some watched := found
  have noted := (Control.find?_put exchanged watched.slot).trans (if_pos rfl)
  rw [again] at noted
  cases noted
  have silent := logs.silent
  rcases asked with ⟨starts, stops, events⟩
  constructor
  · rfl
  · refine Eq.trans (congrArg (fun further : Control => further.watched.map Watched.view)
      (Control.put_put _ ?_)) ?_
    · rfl
    · apply views_put _ exchanged
      · rfl
      · exact distinct
  · simp only [starts_append, silent.starts, starts]
    rfl
  · simp only [stops_append, silent.stops, stops]
    rfl
  · simp only [events_append, logs.events, events]
    rfl

/-- Every report is handled as its judgement says, unless that is a failure. -/
theorem Handled.executed (handled : Handled supervisor control board delivery next effects)
    (tended : Tended control board) :
    (supervisor.judgement ⟨control, board, .done⟩ delivery = .failed ∧ next.progress ≠ .done) ∨
      (supervisor.judgement ⟨control, board, .done⟩ delivery ≠ .failed ∧
        Executed ⟨control, board, .done⟩ delivery.report.slot
          (supervisor.judgement ⟨control, board, .done⟩ delivery) next effects) := by
  have distinct := tended.aligned.watched_distinct
  have judged : ∀ watched, control.find? delivery.report.slot = some watched →
      supervisor.judgement ⟨control, board, .done⟩ delivery = supervisor.judge delivery watched := by
    intro watched found
    unfold judgement
    rw [found]
  cases handled with
  | applied applied ended =>
    cases applied with
    | stale old =>
      have ignored : supervisor.judgement ⟨control, board, .done⟩ delivery = .ignored := by
        cases found : control.find? delivery.report.slot with
        | none =>
          unfold judgement
          rw [found]
        | some watched =>
          rw [judged watched found]
          exact if_pos (old watched found)
      rw [ignored]
      right
      refine ⟨by simp, rfl, ?_, rfl, rfl, rfl⟩
      refine Eq.trans (List.map_id _).symm (List.map_congr_left fun view member => ?_)
      split <;> rfl
    | @quiet watched kind success effects found current finding quiet logs =>
      have own := (Control.find?_slot found).2
      rw [judged watched found, judge_of_quiet current finding quiet]
      right
      refine ⟨by simp, rfl, views_put distinct found rfl, logs.silent.starts, ?_, logs.events⟩
      rw [logs.silent.stops]
      rfl
    | @exhausted watched after actions effects found current spent logs health condemned =>
      rw [judged watched found, judge_of_condemns current condemned]
      left
      rw [← condemned.restarts_eq] at spent
      exact ⟨if_pos (Or.inl spent), by simp⟩
    | repair found current same left logs condemned => exact absurd rfl (ended _)
  | @mended begun next repair effects further applied repairing finished =>
    cases applied with
    | stale old => cases repairing
    | quiet found current finding quiet logs => cases repairing
    | exhausted found current spent logs condemned => cases repairing
    | @repair watched health mailbox actions lines found current same left logs condemned =>
      cases repairing
      rw [judged watched found, judge_of_condemns current condemned]
      generalize launched : delivery.launched = outcome at finished
      cases finished with
      | failed =>
        left
        exact ⟨if_pos (Or.inr (by simp [launched])), by simp⟩
      | renewed again =>
        right
        have replaced : supervisor.sentence delivery health = .replaced health := by
          apply if_neg
          rw [same, launched]
          simpa using left
        rw [replaced]
        exact ⟨by simp, .of_repair distinct found logs again (relaunch_tells _ _) _⟩

/-! ## Reports in either order -/

/-- What holds between two reports. -/
structure Settled (loop : Loop) : Prop where
  done : loop.progress = .done
  tended : Tended loop.control loop.board
  served : Served loop.control loop.board none
  routed : loop.board.Routed (loop.board.running.map (·.slot))

theorem Run.settled {mail : Mail} {history : List Turn} {state : State}
    (run : supervisor.Run mail history state) (supervising : state.phase = .supervising control) :
    Settled (.between control state.board) := by
  have phase := run.invariant.phase
  have served := run.phaseRouted
  have routed := run.accounted.routed
  rw [supervising] at phase served
  unfold State.left at routed
  rw [supervising] at routed
  exact ⟨rfl, phase.2.agrees rfl, served.1, routed⟩

theorem Handled.settled (handled : Handled supervisor control board delivery next effects)
    (settled : Settled ⟨control, board, .done⟩) (done : next.progress = .done) : Settled next := by
  have tended : Tended control board := settled.tended
  have routed : board.Routed (board.running.map (·.slot)) := settled.routed
  have known : ∀ watched ∈ control.watched, watched.slot ∈ board.running.map (·.slot) :=
    fun watched member =>
      List.mem_map_of_mem (f := Instance.slot) (tended.aligned.current_mem member)
  refine ⟨done, handled.tended tended done, ?_, ?_⟩
  · have served : LoopServed next := by
      cases handled with
      | applied applied ended => exact applied.loopServed settled.served
      | mended applied repairing finished =>
        have begun := applied.loopServed settled.served
        unfold LoopServed at begun
        rw [repairing] at begun
        exact finished.loopServed begun
    unfold LoopServed at served
    rw [done] at served
    exact served
  · cases handled with
    | applied applied ended =>
      rw [applied.board_eq.1]
      exact applied.routed routed known
    | mended applied repairing finished =>
      have mending := applied.loopFits tended
      unfold LoopFits at mending
      rw [repairing] at mending
      have begun := applied.routed routed known
      rw [← applied.board_eq.1] at begun
      exact finished.routed begun (List.mem_map_of_mem (f := Instance.slot) mending.replaced)

/-- A report that does not fail is handled as its judgement says. -/
theorem Settled.executed (settled : Settled loop)
    (sound : supervisor.judgement loop delivery ≠ .failed) :
    Executed loop delivery.report.slot (supervisor.judgement loop delivery)
        (supervisor.handle loop delivery).next (supervisor.handle loop delivery).effects ∧
      Settled (supervisor.handle loop delivery).next := by
  rcases loop with ⟨control, board, progress⟩
  cases settled.done
  have handled := Handled.of_handle supervisor settled.tended delivery
  rcases handled.executed settled.tended with ⟨failed, -⟩ | ⟨-, executed⟩
  · exact absurd failed sound
  · exact ⟨executed, handled.settled settled executed.done⟩

theorem Settled.judgement_ne_failed (settled : Settled loop)
    (done : (supervisor.handle loop delivery).next.progress = .done) :
    supervisor.judgement loop delivery ≠ .failed := by
  rcases loop with ⟨control, board, progress⟩
  cases settled.done
  have handled := Handled.of_handle supervisor settled.tended delivery
  rcases handled.executed settled.tended with ⟨-, broken⟩ | ⟨sound, -⟩
  · exact absurd done broken
  · exact sound

/-- Traffic goes to the slots in which an instance is known to serve. -/
theorem Settled.contains_iff (settled : Settled loop) (slot : Slot) :
    loop.board.routing.contains slot = true ↔
      ∃ view ∈ loop.views, view.slot = slot ∧ view.health.serving = true := by
  rw [settled.served slot]
  constructor
  · rintro ⟨-, watched, found, serving⟩
    rcases Control.find?_slot found with ⟨member, own⟩
    exact ⟨watched.view, List.mem_map_of_mem member, own, serving⟩
  · rintro ⟨view, member, own, serving⟩
    rcases List.mem_map.1 member with ⟨watched, watchedMember, rfl⟩
    have found := settled.tended.aligned.find?_eq watchedMember
    rw [show watched.slot = slot from own] at found
    exact ⟨by simp, watched, found, serving⟩

/-- What is known decides about the routing table. -/
theorem Settled.routing_eq (settled : Settled loop) (further : Settled next)
    (views : next.views = loop.views) : next.board.routing = loop.board.routing := by
  apply further.routed.tidy.ext settled.routed.tidy
  intro slot
  rw [further.contains_iff, settled.contains_iff, views]

theorem handleAll_pair (supervisor : Supervisor) (loop : Loop) (first second : Delivery) :
    supervisor.handleAll loop [first, second] =
      ⟨(supervisor.handle (supervisor.handle loop first).next second).next,
        (supervisor.handle loop first).effects ++
          (supervisor.handle (supervisor.handle loop first).next second).effects⟩ := by
  simp [handleAll, Move.andThen, Move.after, Move.still]

/-- What two reports about different slots come to, one after the other. -/
structure ExecutedBoth (loop : Loop) (first second : Slot) (judgement further : Judgement)
    (next : Loop) (effects : List Effect) : Prop where
  settled : Settled next
  views : next.views = (loop.views.map fun view =>
    if view.slot = first then judgement.renew view else view).map fun view =>
      if view.slot = second then further.renew view else view
  starts : starts effects = judgement.renews first ++ further.renews second
  stops : (stops effects).map (·.slot) = judgement.renews first ++ further.renews second
  events : events effects = judgement.events first ++ further.events second

theorem Settled.executedBoth {first second : Delivery} (settled : Settled loop)
    (different : first.report.slot ≠ second.report.slot)
    (firstSound : supervisor.judgement loop first ≠ .failed)
    (secondSound : supervisor.judgement loop second ≠ .failed) :
    ExecutedBoth loop first.report.slot second.report.slot (supervisor.judgement loop first)
      (supervisor.judgement loop second) (supervisor.handleAll loop [first, second]).next
      (supervisor.handleAll loop [first, second]).effects := by
  rcases settled.executed firstSound with ⟨firstExecuted, between⟩
  have same : supervisor.judgement (supervisor.handle loop first).next second =
      supervisor.judgement loop second :=
    judgement_congr ⟨rfl, rfl⟩ ((sameBut_handle loop first).watched _ different.symm)
  rw [← same] at secondSound ⊢
  rcases between.executed secondSound with ⟨secondExecuted, after⟩
  rw [handleAll_pair]
  constructor
  · exact after
  · rw [← firstExecuted.views]
    exact secondExecuted.views
  · rw [starts_append, firstExecuted.starts, secondExecuted.starts]
  · rw [stops_append, List.map_append, firstExecuted.stops, secondExecuted.stops]
  · rw [events_append, firstExecuted.events, secondExecuted.events]

/-- Changes to different slots can be made in either order. -/
theorem map_renew_comm {first second : Slot} (different : first ≠ second)
    (judgement further : Judgement) (views : List View) :
    ((views.map fun view => if view.slot = first then judgement.renew view else view).map
        fun view => if view.slot = second then further.renew view else view) =
      (views.map fun view => if view.slot = second then further.renew view else view).map
        fun view => if view.slot = first then judgement.renew view else view := by
  rw [List.map_map, List.map_map]
  refine List.map_congr_left fun view _ => ?_
  dsimp only [Function.comp_apply]
  by_cases own : view.slot = first
  · simp [own, different]
  · by_cases other : view.slot = second
    · simp [other, Ne.symm different]
    · simp [own, other]

/-- Two ways to go come to the same, up to the numbers of new instances and the order of what is
done. -/
structure SameOutcome (move other : Move Loop) : Prop where
  done : other.next.progress = .done
  views : other.next.views = move.next.views
  routing : other.next.board.routing = move.next.board.routing
  starts : (starts other.effects).Perm (starts move.effects)
  stops : ((stops other.effects).map (·.slot)).Perm ((stops move.effects).map (·.slot))
  events : (events other.effects).Perm (events move.effects)

theorem ExecutedBoth.sameOutcome {first second : Slot} {judgement further : Judgement}
    {move other : Move Loop} (different : first ≠ second)
    (executed : ExecutedBoth loop first second judgement further move.next move.effects)
    (swapped : ExecutedBoth loop second first further judgement other.next other.effects) :
    SameOutcome move other := by
  have views : other.next.views = move.next.views := by
    rw [executed.views, swapped.views, map_renew_comm different]
  refine ⟨swapped.settled.done, views, executed.settled.routing_eq swapped.settled views,
    ?_, ?_, ?_⟩
  · rw [executed.starts, swapped.starts]
    exact List.perm_append_comm
  · rw [executed.stops, swapped.stops]
    exact List.perm_append_comm
  · rw [executed.events, swapped.events]
    exact List.perm_append_comm

/-- Two reports about different slots that both succeed can be handled in either order. -/
theorem Settled.sameOutcome {first second firstAgain secondAgain : Delivery}
    (settled : Settled loop) (different : first.report.slot ≠ second.report.slot)
    (firstAlike : first.Alike firstAgain) (secondAlike : second.Alike secondAgain)
    (done : (supervisor.handleAll loop [first, second]).next.progress = .done) :
    SameOutcome (supervisor.handleAll loop [first, second])
      (supervisor.handleAll loop [secondAgain, firstAgain]) := by
  rw [handleAll_pair] at done
  have firstDone : (supervisor.handle loop first).next.progress = .done := by
    by_contra broken
    rw [handle_of_not_done broken] at done
    exact broken done
  have firstSound := settled.judgement_ne_failed firstDone
  have between := (settled.executed firstSound).2
  have same : supervisor.judgement (supervisor.handle loop first).next second =
      supervisor.judgement loop second :=
    judgement_congr ⟨rfl, rfl⟩ ((sameBut_handle loop first).watched _ different.symm)
  have secondSound : supervisor.judgement loop second ≠ .failed := by
    rw [← same]
    exact between.judgement_ne_failed done
  have executed := settled.executedBoth different firstSound secondSound
  have judged : ∀ {delivery again : Delivery}, delivery.Alike again →
      supervisor.judgement loop again = supervisor.judgement loop delivery :=
    fun alike => judgement_congr alike rfl
  have firstJudged := judged firstAlike
  have secondJudged := judged secondAlike
  rw [← firstJudged] at firstSound
  rw [← secondJudged] at secondSound
  have swapped : ExecutedBoth loop second.report.slot first.report.slot
      (supervisor.judgement loop second) (supervisor.judgement loop first)
      (supervisor.handleAll loop [secondAgain, firstAgain]).next
      (supervisor.handleAll loop [secondAgain, firstAgain]).effects := by
    rw [← firstJudged, ← secondJudged, ← firstAlike.report, ← secondAlike.report]
    apply settled.executedBoth _ secondSound firstSound
    rw [firstAlike.report, secondAlike.report]
    exact different.symm
  exact executed.sameOutcome different swapped

/-- In a control loop between two reports, reports are isolated from each other. -/
structure ReportsIsolated (supervisor : Supervisor) (history : List Turn) (now : Duration)
    (loop : Loop) : Prop where
  /-- Whatever is done about reports that come one after another, a run can do. -/
  possible : ∀ deliveries, Delivery.Timely now deliveries → ∃ further moment,
    supervisor.Run .arbitrary (history ++ further)
      ⟨moment, (ofLoop (supervisor.handleAll loop deliveries).next).next.1,
        (ofLoop (supervisor.handleAll loop deliveries).next).next.2⟩ ∧
    further.flatMap (·.effects) = ((supervisor.handleAll loop deliveries).andThen ofLoop).effects
  /-- Without the reports that are stale when their turn comes, the same is done and comes of it. -/
  stale : ∀ deliveries, supervisor.handleAll loop (supervisor.withoutStale loop deliveries) =
    supervisor.handleAll loop deliveries
  /-- A report changes nothing about the other slots, even if it fails. -/
  untouched : ∀ delivery,
    Loop.SameBut delivery.report.slot loop (supervisor.handle loop delivery).next
  /-- Two reports about different slots that both succeed can come in either order, whenever they
  are handled and however the stops of old instances end. -/
  swapped : ∀ first second firstAgain secondAgain : Delivery,
    first.report.slot ≠ second.report.slot → first.Alike firstAgain → second.Alike secondAgain →
      (supervisor.handleAll loop [first, second]).next.progress = .done →
        SameOutcome (supervisor.handleAll loop [first, second])
          (supervisor.handleAll loop [secondAgain, firstAgain])

/-- In every state of a control loop that a run can reach, reports are isolated from each other. -/
theorem reports_isolated {history : List Turn} {state : State}
    (run : supervisor.Run .arbitrary history state)
    (supervising : state.phase = .supervising control) :
    ReportsIsolated supervisor history state.now (.between control state.board) := by
  have settled := run.settled supervising
  rcases state with ⟨now, phase, board⟩
  cases supervising
  exact
    { possible := fun deliveries timely => run.handleAll timely
      stale := handleAll_withoutStale supervisor _
      untouched := sameBut_handle _
      swapped := fun first second firstAgain secondAgain different firstAlike secondAlike done =>
        settled.sameOutcome different firstAlike secondAlike done }

/-- An instance of the small stack exits, and its restart succeeds at some moment. -/
def small.exit (service : String) (moment : Duration) : Delivery where
  report := ⟨⟨service, 0⟩, 0, .exited (some 1)⟩
  moment := moment
  stopped := none
  launched := none

/-- When the small stack is up, its database and its application may exit in either order. -/
theorem small_reports_isolated :
    ∃ earlier turn state control, small.Run .arbitrary (earlier ++ [turn]) state ∧
      state.phase = .supervising control ∧
      (small.handleAll (.between control state.board)
        [small.exit "db" (.ofSeconds 5), small.exit "app" (.ofSeconds 6)]).next.progress = .done ∧
      ReportsIsolated small (earlier ++ [turn]) state.now (.between control state.board) := by
  rcases exists_run_of_replay? small .arbitrary (small.mend.take 16)
    (fun _ _ state =>
      match state.phase with
      | .supervising control =>
        small.judgement (.between control state.board) (small.exit "db" (.ofSeconds 5)) ≠ .failed &&
          small.judgement (.between control state.board) (small.exit "app" (.ofSeconds 6)) ≠ .failed
      | _ => false)
    (by decide +kernel) with ⟨earlier, turn, state, run, tested⟩
  split at tested
  · rename_i control supervising
    rcases Bool.and_eq_true_iff.1 tested with ⟨first, second⟩
    have executed := (run.settled supervising).executedBoth (by decide)
      (of_decide_eq_true first) (of_decide_eq_true second)
    exact ⟨earlier, turn, state, control, run, supervising, executed.settled.done,
      reports_isolated run supervising⟩
  · cases tested

end Supervisor

end Convoy
