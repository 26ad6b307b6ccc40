import Convoy.Proofs.Supervisor.Answers

/-!
# Restarts take their time

An instance is given up because of the answers to a probe only after enough failures in a row, all
of them its own. Since its monitors keep their distance, a restart for such a reason cannot come
early.
-/

namespace Convoy

namespace Supervisor

open History Effect

variable {supervisor : Supervisor} {history : List Turn} {state next : State}
  {control left : Control} {board after : Board} {now later : Duration} {effects : List Effect}
  {watched : Watched} {turn : Turn} {report : Report}

/-! ## Why instances are replaced -/

/-- An instance that has been watched since a turn is given up because of a report: of all its
answers to a probe, those up to the report end with enough failures, and it is not too early. -/
def GivenUp (supervisor : Supervisor) (report : Report) (kind : ProbeKind) (began : Turn)
    (watch : List Turn) (waiting : List Report) (moment : Duration) : Prop :=
  ∃ probe front, (supervisor.probesOf report.slot).get kind = some probe ∧
    answers report.slot kind watch =
      front ++ List.replicate (max probe.failureThreshold 1) false ++
        answered report.slot report.generation kind waiting ∧
    probe.earliest began.moment (max probe.failureThreshold 1 - 1) ≤ moment

/-- How an instance has come to be replaced. -/
structure Dismissal where
  live : Instance
  start : List Turn
  /-- The turn since which the instance has been watched. -/
  began : Turn
  watch : List Turn
  /-- The turn in which the report is handled that the restart follows from. -/
  handled : Turn
  report : Report
  /-- The reports that were still on their way after it. -/
  waiting : List Report
  mending : List Turn

namespace Dismissal

def turns (dismissal : Dismissal) : List Turn :=
  dismissal.start ++
    dismissal.began :: (dismissal.watch ++ dismissal.handled :: dismissal.mending)

/-- An instance is replaced because of one report about it. If an answer to a probe is reported,
the instance has been given up because of this probe. -/
structure Justified (supervisor : Supervisor) (dismissal : Dismissal) (moment : Duration) :
    Prop where
  tenure : Tenure dismissal.live dismissal.start dismissal.began
    (dismissal.watch ++ dismissal.handled :: dismissal.mending)
  taken : ∃ now control board left,
    supervisor.Run .monitored (dismissal.start ++ dismissal.began :: dismissal.watch)
      ⟨now, .supervising control, board⟩ ∧
    supervisor.take? dismissal.handled.moment control = some (dismissal.report, left) ∧
    left.mailbox.reports = dismissal.waiting
  happening : dismissal.handled.happening = .handled
  stopped : stops dismissal.handled.effects = [dismissal.live]
  last : ∀ turn ∈ dismissal.mending, turn.happening ≠ .handled
  about : dismissal.report.slot = dismissal.live.slot
  grounds : ∀ kind passed, dismissal.report.finding = .probe kind passed →
    passed = false ∧ (kind = .startup ∨ kind = .liveness) ∧
      GivenUp supervisor dismissal.report kind dismissal.began dismissal.watch dismissal.waiting
        moment

end Dismissal

theorem GivenUp.mono {kind : ProbeKind} {began : Turn} {watch : List Turn} {waiting : List Report}
    (given : GivenUp supervisor report kind began watch waiting now) (passes : now ≤ later) :
    GivenUp supervisor report kind began watch waiting later := by
  rcases given with ⟨probe, front, known, equal, paced⟩
  exact ⟨probe, front, known, equal, Nat.le_trans paced passes⟩

/-- An instance that has to be replaced has failed often enough, if it has not exited. -/
theorem Minded.givenUp (minded : Minded supervisor history now control none [report])
    (found : control.find? report.slot = some watched)
    (current : watched.generation = report.generation) {health : Health}
    (condemned : Condemns watched report.finding health) :
    ∃ start began watch, history = start ++ began :: watch ∧
      Tenure watched.current start began watch ∧
      ∀ kind passed, report.finding = .probe kind passed →
        passed = false ∧ (kind = .startup ∨ kind = .liveness) ∧
          GivenUp supervisor report kind began watch control.mailbox.reports now := by
  rcases Control.find?_slot found with ⟨member, own⟩
  have minds := minded.minds watched member
  rcases (minds.watch (by simp)).attended with ⟨start, began, watch, parts, tenure, attended⟩
  refine ⟨start, began, watch, parts, tenure, ?_⟩
  intro kind passed finding
  rw [finding] at condemned
  cases condemned with
  | probe repairing =>
    rcases Health.failed_of_repairing repairing with ⟨rfl, critical, thresholds, known, reached⟩
    refine ⟨rfl, critical, ?_⟩
    rw [minds.thresholds, PerKind.get_map] at known
    rcases Option.map_eq_some_iff.1 known with ⟨probe, declared, rfl⟩
    have heard := attended kind
    rcases report with ⟨slot, generation, finding'⟩
    cases own
    cases current
    cases finding
    rw [declared, List.singleton_append, answered_cons, Report.answer?_eq_some_iff.2 rfl] at heard
    rcases heard.fail reached with ⟨⟨front, equal⟩, paced⟩
    exact ⟨probe, front, declared, equal, paced⟩

theorem Dismissal.Justified.mono {dismissal : Dismissal}
    (justified : dismissal.Justified supervisor now) (passes : now ≤ later) :
    dismissal.Justified supervisor later := by
  refine { justified with grounds := ?_ }
  intro kind passed finding
  rcases justified.grounds kind passed finding with ⟨failed, critical, given⟩
  exact ⟨failed, critical, given.mono passes⟩

theorem Dismissal.Justified.concat {dismissal : Dismissal}
    (justified : dismissal.Justified supervisor now) (still : turn.launched? = none)
    (silent : ∀ slot, restarts slot turn.effects = []) (other : turn.happening ≠ .handled) :
    { dismissal with mending := dismissal.mending ++ [turn] }.Justified supervisor now := by
  have tenure := justified.tenure.concat (by simp [still]) (silent _)
  rw [List.append_assoc, List.cons_append] at tenure
  refine { justified with tenure := tenure, last := ?_ }
  intro member former
  rcases List.mem_append.1 former with former | last
  · exact justified.last member former
  · rw [List.mem_singleton.1 last]
    exact other

/-! ## Runs -/

/-- The instance that is being replaced is dismissed for a reason. -/
def Dismissed (supervisor : Supervisor) (history : List Turn) (now : Duration) (live : Instance) :
    Prop :=
  ∃ dismissal : Dismissal, dismissal.turns = history ∧ dismissal.live = live ∧
    dismissal.Justified supervisor now

theorem Dismissed.mono {live : Instance} (dismissed : Dismissed supervisor history now live)
    (passes : now ≤ later) : Dismissed supervisor history later live := by
  rcases dismissed with ⟨dismissal, parts, same, justified⟩
  exact ⟨dismissal, parts, same, justified.mono passes⟩

theorem Dismissed.concat {live : Instance} (dismissed : Dismissed supervisor history now live)
    (still : turn.launched? = none) (silent : ∀ slot, restarts slot turn.effects = [])
    (other : turn.happening ≠ .handled) :
    Dismissed supervisor (history ++ [turn]) now live := by
  rcases dismissed with ⟨dismissal, rfl, same, justified⟩
  refine ⟨{ dismissal with mending := dismissal.mending ++ [turn] }, ?_, same,
    justified.concat still silent other⟩
  simp [Dismissal.turns]

/-- What is known about the watched instances, and about the one that is replaced, after the control
loop has acted. -/
def LoopMinded (supervisor : Supervisor) (history : List Turn) (now : Duration) (progress : Loop) :
    Prop :=
  match progress.progress with
  | .done => Minded supervisor history now progress.control none []
  | .repairing repair =>
    Minded supervisor history now progress.control (some repair.old.slot) [] ∧
      Dismissed supervisor history now repair.old
  | .broken _ => True

def PhaseMinded (supervisor : Supervisor) (history : List Turn) (now : Duration) : Phase → Prop
  | .supervising control => Minded supervisor history now control none []
  | .repairing control repair =>
    Minded supervisor history now control (some repair.old.slot) [] ∧
      Dismissed supervisor history now repair.old
  | _ => True

theorem PhaseMinded.mono {phase : Phase} (minded : PhaseMinded supervisor history now phase)
    (passes : now ≤ later) : PhaseMinded supervisor history later phase := by
  cases phase with
  | supervising control => exact Minded.mono minded passes
  | repairing control repair => exact ⟨minded.1.mono passes, minded.2.mono passes⟩
  | _ => trivial

theorem Stopping.phaseMinded {failure : Option Failure} {lives : List Instance} {phase : Phase}
    (down : Stopping failure board lives phase after effects) :
    PhaseMinded supervisor history now phase := by
  cases down with
  | ended => trivial
  | next => trivial

theorem Proceeds.phaseMinded {progress : Loop} {phase : Phase}
    (proceeds : Proceeds progress phase after effects)
    (minded : LoopMinded supervisor history now progress) :
    PhaseMinded supervisor history now phase := by
  cases proceeds with
  | done => exact minded
  | repairing => exact minded
  | broken down => exact down.phaseMinded

theorem Proceeds.effects_eq_nil {progress : Loop} {phase : Phase} {repair : Repair}
    (proceeds : Proceeds progress phase after effects)
    (repairing : progress.progress = .repairing repair) : effects = [] := by
  cases proceeds with
  | done => rfl
  | repairing => rfl
  | broken down => cases repairing

theorem Applied.loopMinded {progress : Loop}
    (applied : Applied supervisor left board report progress effects)
    (minded : Minded supervisor history turn.moment left none [report])
    (aligned : Aligned left board)
    (taken : ∃ now control board,
      supervisor.Run .monitored history ⟨now, .supervising control, board⟩ ∧
        supervisor.take? turn.moment control = some (report, left))
    (happening : turn.happening = .handled) (silent : ∀ slot, restarts slot turn.effects = [])
    (stopped : ∀ repair, progress.progress = .repairing repair →
      stops turn.effects = [repair.old]) :
    LoopMinded supervisor (history ++ [turn]) turn.moment progress := by
  have still : turn.launched? = none := by
    unfold Turn.launched?
    rw [happening]
  have unasked : ∀ slot kind, turn.answer? slot kind = none := by
    intro slot kind
    unfold Turn.answer?
    rw [happening]
  cases applied with
  | stale old => exact (minded.stale aligned old).pass still silent unasked
  | quiet found current finding quiet logs =>
    exact (minded.quiet found current finding quiet).pass still silent unasked
  | exhausted found current spent logs => trivial
  | @repair watched health mailbox actions lines found current same allowed logs condemned
      withdrawn =>
    subst withdrawn
    refine ⟨(minded.repair found condemned).pass still silent unasked, ?_⟩
    rcases minded.givenUp found current condemned with ⟨start, began, watch, rfl, tenure, grounds⟩
    rcases taken with ⟨now, control, board, run, taken⟩
    refine ⟨⟨watched.current, start, began, watch, turn, report, left.mailbox.reports, []⟩, ?_, rfl,
      ?_⟩
    · simp [Dismissal.turns]
    · constructor
      · exact tenure.concat (by simp [still]) (silent _)
      · exact ⟨now, control, board, _, run, taken, rfl⟩
      · exact happening
      · exact stopped _ rfl
      · simp
      · exact (Control.find?_slot found).2.symm
      · exact grounds

theorem Finished.loopMinded {slot : Slot} {failure : Option Failure} {progress : Loop}
    (finished : Finished supervisor turn.moment control board slot failure progress effects)
    (minded : Minded supervisor history turn.moment control (some slot) [])
    (count : board.launches = (launches history).length)
    (happened : turn.happening = .startEnded slot failure) {rest : List Effect}
    (done : turn.effects = effects ++ rest) (silent : ∀ slot, restarts slot rest = []) :
    LoopMinded supervisor (history ++ [turn]) turn.moment progress := by
  cases finished with
  | failed => trivial
  | @renewed old line found =>
    have launched : turn.launched? = some slot := by
      unfold Turn.launched?
      rw [happened]
    have reported : ∀ other, restarts other turn.effects =
        if slot = other then [old.health.restarts + 1] else [] := by
      intro other
      rw [done, restarts_append, silent, List.append_nil, restarts_line, restarts_report]
    apply Minded.renew minded found launched
    · rw [instancesIn_concat_of_launched launched, List.getLast?_concat, count]
    · simp [reported]
    · intro other different
      rw [reported, if_neg different.symm]
    · intro other kind
      unfold Turn.answer?
      rw [happened]

theorem phaseMinded_handled {moment : Duration} {phase : Phase}
    (run : supervisor.Run .monitored history ⟨moment, .supervising control, board⟩)
    (minded : Minded supervisor history now control none [])
    (taken : supervisor.take? now control = some (report, left))
    (proceeds : Proceeds (supervisor.apply left board report).next phase after effects) :
    PhaseMinded supervisor (history ++ [⟨now, .handled,
      (supervisor.apply left board report).effects ++ effects, ⟨now, phase, after⟩⟩]) now phase := by
  have former := run.invariant.phase
  rcases former.2.applied taken with ⟨tended, applied⟩
  have stopped : ∀ repair,
      (supervisor.apply left board report).next.progress = .repairing repair →
        stops ((supervisor.apply left board report).effects ++ effects) = [repair.old] := by
    intro repair repairing
    rw [stops_append, applied.asks.2.1, repairing, proceeds.effects_eq_nil repairing]
    rfl
  have taking := minded.take former.2.aligned.watched_distinct taken
  have acted : LoopMinded supervisor (history ++ [⟨now, .handled, _, ⟨now, phase, after⟩⟩]) now
      (supervisor.apply left board report).next :=
    applied.loopMinded taking tended.aligned ⟨moment, control, board, run, taken⟩ rfl
      (applied.unrestarted proceeds) stopped
  exact proceeds.phaseMinded acted

theorem phaseMinded_step
    (run : supervisor.Run .monitored history state)
    (minded : PhaseMinded supervisor history now state.phase)
    {happening : Happening} (step : Step supervisor now state happening next effects) :
    PhaseMinded supervisor (history ++ [⟨now, happening, effects, next⟩]) now next.phase := by
  have former := run.invariant.phase
  have fresh := run.phaseBooked
  cases step with
  | stage declared standing step => trivial
  | joined standing fresh => trivial
  | @startedUp moment startup board line settled sound =>
    apply Minded.watchAll rfl ⟨_, rfl⟩ fresh
    intro live member
    have booked : Booked supervisor history (supervisor.watch now live) :=
      .watch former.board member (fresh live.slot)
    rw [instancesIn_concat_of_not_launched rfl]
    exact booked.latest
  | startupFailed settled failed down => exact down.phaseMinded
  | shutdown heeds down => exact down.phaseMinded
  | stopped down => exact down.phaseMinded
  | handled taken proceeds => exact phaseMinded_handled run minded taken proceeds
  | monitored seen => exact minded.monitored former.2.aligned.watched_distinct seen _
  | @relaunched moment control board repair failure stopping =>
    have silent := (relaunch_asks supervisor control board repair failure).2.2
    exact ⟨minded.1.pass rfl silent fun _ _ => rfl, minded.2.concat rfl silent (by simp)⟩
  | @repaired moment control board after repair failure phase effects starting proceeds =>
    have finished : LoopMinded supervisor
        (history ++ [⟨now, .startEnded repair.old.slot failure, _, ⟨now, phase, after⟩⟩]) now
        (supervisor.finishRepair now control board repair failure).next :=
      (former.2.finished supervisor now failure).loopMinded minded.1 run.invariant.count rfl rfl
        proceeds.asks.2
    exact proceeds.phaseMinded finished
  | @monitoredMeanwhile moment control next board repair happening seen =>
    refine ⟨minded.1.monitored former.2.aligned.watched_distinct seen _, ?_⟩
    apply minded.2.concat (launched?_of_monitorStep? seen _ _) fun _ => rfl
    rintro ⟨⟩
    cases seen

theorem Run.phaseMinded (run : supervisor.Run .monitored history state) :
    PhaseMinded supervisor history state.now state.phase := by
  induction run with
  | start => trivial
  | exchange mailbox allowed before induction => cases allowed
  | @step history state moment happening move before made induction =>
    have step := Step.of_step? made
    have minded := induction.mono (le_of_step? made)
    rw [step.now_eq]
    exact phaseMinded_step before minded step

/-- What the control loop knows. -/
def State.control? (state : State) : Option Control :=
  match state.phase with
  | .supervising control => some control
  | .repairing control _ => some control
  | _ => none

/-- Whatever has happened to an instance, it is judged by the probes of its service. -/
theorem Run.thresholds_eq (run : supervisor.Run .monitored history state)
    (knows : state.control? = some control) (member : watched ∈ control.watched) :
    watched.health.thresholds =
      (supervisor.probesOf watched.slot).map (·.map Thresholds.ofProbe) := by
  have minded := run.phaseMinded
  unfold State.control? at knows
  generalize state.phase = phase at minded knows
  cases phase with
  | supervising current =>
    cases knows
    exact (minded.minds watched member).thresholds
  | repairing current repair =>
    cases knows
    exact (minded.1.minds watched member).thresholds
  | _ => cases knows

/-! ## Restarts -/

/-- A restart is reported when the instance that is being replaced has been launched anew. -/
theorem Step.repairing_of_restarts (invariant : Invariant supervisor history state)
    {happening : Happening} (step : Step supervisor now state happening next effects) {slot : Slot}
    (restarted : restarts slot effects ≠ []) :
    ∃ control repair, state.phase = .repairing control repair ∧ repair.old.slot = slot := by
  have former := invariant.phase
  cases step with
  | stage declared standing step => exact absurd (step.silent.2 slot) restarted
  | joined standing fresh => exact absurd rfl restarted
  | startedUp settled sound => exact absurd ((watchAll_silent _ _ _).restarts slot) restarted
  | startupFailed settled failed down => exact absurd (down.asks.2.2 slot) restarted
  | shutdown heeds down => exact absurd (down.asks.2.2 slot) restarted
  | stopped down =>
    rw [restarts_append, (stopEffects_silent _ _).restarts, down.asks.2.2] at restarted
    exact absurd rfl restarted
  | handled taken proceeds =>
    exact absurd ((former.2.applied taken).2.unrestarted proceeds slot) restarted
  | monitored seen => exact absurd rfl restarted
  | relaunched stopping => exact absurd ((relaunch_asks _ _ _ _ _).2.2 slot) restarted
  | @repaired moment control board after repair failure phase effects starting proceeds =>
    refine ⟨control, repair, rfl, ?_⟩
    rw [restarts_append, proceeds.asks.2, List.append_nil] at restarted
    have finished := former.2.finished supervisor now failure
    generalize supervisor.finishRepair now control board repair failure = move
      at finished restarted
    rcases move with ⟨loop, done⟩
    cases finished with
    | failed => exact absurd rfl restarted
    | renewed found =>
      by_contra different
      rw [restarts_line, restarts_report, if_neg different] at restarted
      exact restarted rfl
  | monitoredMeanwhile seen => exact absurd rfl restarted

/-- A probe that gives an instance two seconds at first, and ten between two failures. -/
def brisk.probe : Probe :=
  { Probe.ofHandler (.tcpSocket 80) with initialDelay := .ofSeconds 2, failureThreshold := 2 }

/-- A stack of one application, which has a liveness probe. -/
def brisk : Supervisor where
  topology := {
    name := "brisk"
    services := [{ Service.plain "app" .appServer [] with
      probes := ProbeSet.none.set .liveness (some brisk.probe) }]
    volumes := .empty
    secrets := .ofList []
    edge := .standard
    fits := by decide +kernel }
  environments := .empty
  options := .standard
  instanceText := toString
  crashText := fun _ => "panicked"

/-- The application fails two times, and is restarted. -/
def brisk.falter : List (Duration × Happening) :=
  [(.zero, .resumed "app"),
    (.ofSeconds 1, .startEnded ⟨"app", 0⟩ none),
    (.ofSeconds 1, .joined "app"),
    (.ofSeconds 1, .settled),
    (.ofSeconds 3, .probed ⟨"app", 0⟩ .liveness false),
    (.ofSeconds 4, .handled),
    (.ofSeconds 13, .probed ⟨"app", 0⟩ .liveness false),
    (.ofSeconds 13, .handled),
    (.ofSeconds 14, .stopEnded ⟨⟨"app", 0⟩, 0⟩ none),
    (.ofSeconds 15, .startEnded ⟨"app", 0⟩ none)]

end Supervisor

end Convoy
