import Convoy.Proofs.Supervisor.Gating

/-!
# Restarts are booked

What the control loop knows about a slot agrees with the history: the generation and the number of
restarts count the launches and the reports of restarts, and the instance that is watched is the one
that was launched last. The mailbox plays no part in this, so that the reports may come from anywhere.
-/

namespace Convoy

/-- Among entries with distinct keys, a key selects its entry. -/
theorem filter_slot_eq_singleton {lives : List Instance} {live : Instance}
    (distinct : (lives.map (·.slot)).Nodup) (member : live ∈ lives) :
    lives.filter (·.slot = live.slot) = [live] := by
  induction lives with
  | nil => cases member
  | cons first rest induction =>
    rcases List.nodup_cons.1 distinct with ⟨fresh, distinct⟩
    rcases List.mem_cons.1 member with rfl | later
    · rw [List.filter_cons_of_pos (by simp), List.filter_eq_nil_iff.2]
      intro other otherMember
      have different : other.slot ≠ live.slot := fun same =>
        fresh (List.mem_map.2 ⟨other, otherMember, same⟩)
      simpa using different
    · have different : first.slot ≠ live.slot := fun same =>
        fresh (List.mem_map.2 ⟨live, later, same.symm⟩)
      rw [List.filter_cons_of_neg (by simpa using different), induction distinct later]

namespace History

open Effect

/-- The numbers under which restarts of a slot have been reported, in order. -/
def restartsOf (slot : Slot) (history : List Turn) : List Nat :=
  history.flatMap fun turn => restarts slot turn.effects

variable {history : List Turn} {turn : Turn} {slot : Slot}

theorem restartsOf_concat :
    restartsOf slot (history ++ [turn]) =
      restartsOf slot history ++ restarts slot turn.effects := by
  simp [restartsOf]

theorem instancesIn_concat_of_not_launched (none : turn.launched? = none) :
    instancesIn slot (history ++ [turn]) = instancesIn slot history := by
  rw [instancesIn, instances_concat_of_not_launched none, instancesIn]

theorem instancesIn_concat_of_ne {other : Slot} (launched : turn.launched? = some other)
    (different : other ≠ slot) :
    instancesIn slot (history ++ [turn]) = instancesIn slot history := by
  simp [instancesIn, instances_concat_of_launched launched, different]

theorem instancesIn_concat_of_launched (launched : turn.launched? = some slot) :
    instancesIn slot (history ++ [turn]) =
      instancesIn slot history ++ [⟨slot, (launches history).length⟩] := by
  simp [instancesIn, instances_concat_of_launched launched]

end History

namespace Supervisor

open History Effect

/-- What is known about a slot agrees with the history. -/
structure Booked (supervisor : Supervisor) (history : List Turn) (watched : Watched) : Prop where
  generation : watched.generation = watched.health.restarts
  within : watched.health.restarts ≤ supervisor.options.maxRestarts
  launched : (instancesIn watched.slot history).length = watched.health.restarts + 1
  latest : (instancesIn watched.slot history).getLast? = some watched.current
  reported : restartsOf watched.slot history = List.range' 1 watched.health.restarts

variable {supervisor : Supervisor} {mail : Mail} {history : List Turn} {state next : State}
  {control : Control} {board after : Board} {now : Duration} {effects : List Effect}
  {watched other : Watched}

/-- Only the instance, its generation and its restarts count. -/
theorem Booked.congr (booked : Booked supervisor history watched)
    (current : other.current = watched.current) (generation : other.generation = watched.generation)
    (restarts : other.health.restarts = watched.health.restarts) :
    Booked supervisor history other := by
  have slot : other.slot = watched.slot := congrArg Instance.slot current
  constructor
  · rw [generation, restarts]
    exact booked.generation
  · rw [restarts]
    exact booked.within
  · rw [slot, restarts]
    exact booked.launched
  · rw [slot, current]
    exact booked.latest
  · rw [slot, restarts]
    exact booked.reported

/-- What happens to other slots changes nothing. -/
theorem Booked.concat (booked : Booked supervisor history watched) {turn : Turn}
    (still : ∀ slot, turn.launched? = some slot → slot ≠ watched.slot)
    (silent : restarts watched.slot turn.effects = []) :
    Booked supervisor (history ++ [turn]) watched := by
  have same : instancesIn watched.slot (history ++ [turn]) = instancesIn watched.slot history := by
    cases launched : turn.launched? with
    | none => exact instancesIn_concat_of_not_launched launched
    | some slot => exact instancesIn_concat_of_ne launched (still slot launched)
  refine ⟨booked.generation, booked.within, ?_, ?_, ?_⟩
  · rw [same]
    exact booked.launched
  · rw [same]
    exact booked.latest
  · rw [restartsOf_concat, silent, List.append_nil]
    exact booked.reported

/-- A restart is booked if the slot had restarts left. -/
theorem Booked.renew (booked : Booked supervisor history watched)
    (left : watched.health.restarts < supervisor.options.maxRestarts) {turn : Turn}
    (launched : turn.launched? = some watched.slot)
    (reported : restarts watched.slot turn.effects = [watched.health.restarts + 1]) :
    Booked supervisor (history ++ [turn]) (watched.renewed (launches history).length) := by
  constructor
  · exact congrArg (· + 1) booked.generation
  · exact left
  · show (instancesIn watched.slot (history ++ [turn])).length = _
    rw [instancesIn_concat_of_launched launched, List.length_append, booked.launched]
    rfl
  · show (instancesIn watched.slot (history ++ [turn])).getLast? = _
    rw [instancesIn_concat_of_launched launched, List.getLast?_concat]
    rfl
  · show restartsOf watched.slot (history ++ [turn]) = List.range' 1 (watched.health.restarts + 1)
    rw [restartsOf_concat, reported, booked.reported, List.range'_concat, Nat.add_comm, Nat.one_mul]

/-- All that the control loop knows is booked, and an instance that is being replaced had restarts
left. -/
structure Ledger (supervisor : Supervisor) (history : List Turn) (control : Control)
    (replaced : List Slot) : Prop where
  booked : ∀ watched ∈ control.watched, Booked supervisor history watched
  left : ∀ watched ∈ control.watched, watched.slot ∈ replaced →
    watched.health.restarts < supervisor.options.maxRestarts

theorem Ledger.agrees {replaced : List Slot} (ledger : Ledger supervisor history control replaced)
    {further : Control} (agrees : control.Agrees further) :
    Ledger supervisor history further replaced := by
  constructor
  · intro watched member
    rcases agrees.exists_mem member with ⟨former, formerMember, same⟩
    rcases Watched.known_of_unmonitored same with ⟨current, generation, health⟩
    apply (ledger.booked former formerMember).congr current.symm generation.symm
    rw [health]
  · intro watched member own
    rcases agrees.exists_mem member with ⟨former, formerMember, same⟩
    rw [← Watched.slot_eq_of_unmonitored same] at own
    rw [← (Watched.known_of_unmonitored same).2.2]
    exact ledger.left former formerMember own

theorem Ledger.concat {replaced : List Slot} (ledger : Ledger supervisor history control replaced)
    {turn : Turn} (still : turn.launched? = none)
    (silent : ∀ slot, restarts slot turn.effects = []) :
    Ledger supervisor (history ++ [turn]) control replaced := by
  refine ⟨?_, ledger.left⟩
  intro watched member
  apply (ledger.booked watched member).concat _ (silent watched.slot)
  intro slot launched
  rw [still] at launched
  cases launched

/-- What is booked after the control loop has acted. -/
def LoopBooked (supervisor : Supervisor) (history : List Turn) (progress : Loop) : Prop :=
  match progress.progress with
  | .done => Ledger supervisor history progress.control []
  | .repairing repair => Ledger supervisor history progress.control [repair.old.slot]
  | .broken _ => True

/-- What is booked in a phase; nothing is restarted while the topology starts. -/
def PhaseBooked (supervisor : Supervisor) (history : List Turn) : Phase → Prop
  | .starting _ => ∀ slot, restartsOf slot history = []
  | .supervising control => Ledger supervisor history control []
  | .repairing control repair => Ledger supervisor history control [repair.old.slot]
  | _ => True

theorem Applied.loopBooked {report : Report} {progress : Loop}
    (applied : Applied supervisor control board report progress effects)
    (ledger : Ledger supervisor history control []) : LoopBooked supervisor history progress := by
  cases applied with
  | stale old => exact ledger
  | @quiet watched kind success effects found current finding quiet logs =>
    refine ⟨?_, by simp⟩
    intro other member
    rcases Control.mem_put member with rfl | ⟨former, -⟩
    · have booked := ledger.booked watched (Control.find?_slot found).1
      exact booked.congr rfl rfl (Health.restarts_observe kind success)
    · exact ledger.booked other former
  | exhausted found current spent logs => trivial
  | @repair watched health mailbox actions effects found current same left logs =>
    constructor
    · intro other member
      rcases Control.mem_put member with rfl | ⟨former, -⟩
      · have booked := ledger.booked watched (Control.find?_slot found).1
        exact booked.congr rfl rfl same
      · exact ledger.booked other former
    · intro other member own
      rcases Control.mem_put member with rfl | ⟨former, different⟩
      · rw [← same] at left
        exact left
      · exact absurd (List.mem_singleton.1 own) different

theorem Finished.loopBooked {slot : Slot} {failure : Option Failure} {progress : Loop}
    (finished : Finished supervisor now control board slot failure progress effects)
    (ledger : Ledger supervisor history control [slot])
    (count : board.launches = (launches history).length) {turn : Turn} {further : List Effect}
    (happened : turn.happening = .startEnded slot failure)
    (done : turn.effects = effects ++ further) (silent : ∀ slot, restarts slot further = []) :
    LoopBooked supervisor (history ++ [turn]) progress := by
  cases finished with
  | failed => trivial
  | @renewed old line found =>
    rcases Control.find?_slot found with ⟨oldMember, own⟩
    have launched : turn.launched? = some slot := by
      unfold Turn.launched?
      rw [happened]
    have reported : ∀ other, restarts other turn.effects =
        if slot = other then [old.health.restarts + 1] else [] := by
      intro other
      rw [done, restarts_append, silent, List.append_nil, restarts_line, restarts_report]
    refine ⟨?_, by simp⟩
    intro other member
    rcases Control.mem_put member with rfl | ⟨former, different⟩
    · have left := ledger.left old oldMember (List.mem_singleton.2 own)
      have renewed : Booked supervisor (history ++ [turn])
          (old.renewed (launches history).length) := by
        apply (ledger.booked old oldMember).renew left
        · rw [own]
          exact launched
        · rw [reported, if_pos own.symm]
      rw [count]
      exact renewed.congr rfl rfl rfl
    · have elsewhere : slot ≠ other.slot := by
        rw [← own]
        exact Ne.symm different
      apply (ledger.booked other former).concat
      · intro filled equal
        rw [launched] at equal
        cases equal
        exact elsewhere
      · rw [reported, if_neg elsewhere]

theorem Stopping.phaseBooked {failure : Option Failure} {left : List Instance} {phase : Phase}
    (down : Stopping failure board left phase after effects) :
    PhaseBooked supervisor history phase := by
  cases down with
  | ended => trivial
  | next => trivial

theorem Proceeds.phaseBooked {progress : Loop} {phase : Phase}
    (proceeds : Proceeds progress phase after effects)
    (booked : LoopBooked supervisor history progress) : PhaseBooked supervisor history phase := by
  cases proceeds with
  | done => exact booked
  | repairing => exact booked
  | broken down => exact down.phaseBooked

/-- What is booked before the first report. -/
theorem Booked.watch (fits : BoardFits history board) {live : Instance}
    (member : live ∈ board.running) (none : restartsOf live.slot history = []) :
    Booked supervisor history (supervisor.watch now live) := by
  have distinct : ((instances history).map (·.slot)).Nodup := by
    rw [map_slot_instances]
    exact fits.distinct
  have only : instancesIn live.slot history = [live] :=
    filter_slot_eq_singleton distinct (fits.running.subset member)
  constructor
  · rfl
  · exact Nat.zero_le _
  · show (instancesIn live.slot history).length = 1
    rw [only]
    rfl
  · show (instancesIn live.slot history).getLast? = some live
    rw [only]
    rfl
  · exact none

theorem phaseBooked_step
    (invariant : Invariant supervisor history state)
    (booked : PhaseBooked supervisor history state.phase)
    {happening : Happening} (step : Step supervisor now state happening next effects) :
    PhaseBooked supervisor (history ++ [⟨now, happening, effects, next⟩]) next.phase := by
  have former := invariant.phase
  cases step with
  | stage declared standing step =>
    intro slot
    rw [restartsOf_concat, booked slot, step.silent.2 slot]
    rfl
  | joined standing fresh =>
    intro slot
    rw [restartsOf_concat, booked slot]
    rfl
  | @startedUp moment startup board line settled sound =>
    have ledger : Ledger supervisor history (supervisor.watchAll now board).next.1 [] := by
      refine ⟨?_, by simp⟩
      intro watched member
      rcases List.mem_map.1 member with ⟨live, liveMember, rfl⟩
      exact .watch former.board liveMember (booked live.slot)
    exact ledger.concat rfl (watchAll_silent supervisor now board).restarts
  | startupFailed settled failed down => exact down.phaseBooked
  | shutdown heeds down => exact down.phaseBooked
  | stopped down => exact down.phaseBooked
  | @handled moment control left board after report phase effects taken proceeds =>
    rcases former.2.applied taken with ⟨-, applied⟩
    have agrees := agrees_take? former.2.aligned.watched_distinct taken
    apply proceeds.phaseBooked
    apply applied.loopBooked
    exact (Ledger.agrees booked agrees).concat rfl (applied.unrestarted proceeds)
  | monitored seen =>
    have agrees := agrees_monitorStep? former.2.aligned.watched_distinct seen
    exact (Ledger.agrees booked agrees).concat (launched?_of_monitorStep? seen _ _) fun slot => rfl
  | @relaunched moment control board repair failure stopping =>
    exact Ledger.concat booked rfl (relaunch_asks supervisor control board repair failure).2.2
  | @repaired moment control board after repair failure phase effects starting proceeds =>
    have finished := former.2.finished supervisor now failure
    exact proceeds.phaseBooked
      (finished.loopBooked booked invariant.count rfl rfl proceeds.asks.2)
  | monitoredMeanwhile seen =>
    have agrees := agrees_monitorStep? former.2.aligned.watched_distinct seen
    exact (Ledger.agrees booked agrees).concat (launched?_of_monitorStep? seen _ _) fun slot => rfl

theorem Run.phaseBooked (run : supervisor.Run mail history state) :
    PhaseBooked supervisor history state.phase := by
  induction run with
  | start =>
    intro slot
    rfl
  | exchange mailbox allowed before induction => exact Ledger.agrees induction rfl
  | step before made induction => exact phaseBooked_step before.invariant induction (.of_step? made)

/-! ## Launches of restarts -/

/-- A service that has filled its first slots has filled no other one. -/
theorem Filled.index_lt {service : Service} {count : Nat} (filled : Filled history service count)
    {index : Nat} (launched : ⟨service.name, index⟩ ∈ launches history) : index < count := by
  rw [← map_slot_instances] at launched
  rcases List.mem_map.1 launched with ⟨live, member, slot⟩
  have own : live ∈ instancesOf service.name history := mem_instancesOf.2 ⟨member, by rw [slot]⟩
  have place := List.mem_map_of_mem (f := Instance.slot) own
  rw [filled, slot] at place
  rcases List.mem_map.1 place with ⟨other, small, equal⟩
  cases equal
  exact List.mem_range.1 small

/-- A slot is asked for again only when the stop of its latest instance has ended. -/
theorem Step.starts_again {happening : Happening}
    (invariant : Invariant supervisor history state)
    (booked : PhaseBooked supervisor history state.phase)
    (step : Step supervisor now state happening next effects)
    {slot : Slot} (asked : slot ∈ starts effects) (again : slot ∈ launches history) :
    ∃ live failure, (instancesIn slot history).getLast? = some live ∧
      happening = .stopEnded live failure := by
  have former := invariant.phase
  rcases step.starts_cases invariant asked with
    ⟨startup, service, stage, further, after, starting, declared, standing, -, asking⟩ |
    ⟨control, repair, failure, repairing, -, rfl, rfl⟩
  · rw [starting] at former
    have fits := StartupFits.stageFits former declared standing
    rcases asking with ⟨rfl, rfl⟩ | ⟨index, launched, rfl, rfl⟩
    · have small := Filled.index_lt fits.2 again
      omega
    · have small := Filled.index_lt fits.2.1 again
      omega
  · rw [repairing] at former booked
    rcases former.2.exists_find? with ⟨watched, found, current⟩
    rcases Control.find?_slot found with ⟨member, own⟩
    have latest := (Ledger.booked booked watched member).latest
    rw [own, current] at latest
    exact ⟨repair.old, failure, latest, rfl⟩

/-! ## The books of a run -/

/-- The books of a run are in order. -/
structure BooksInOrder (supervisor : Supervisor) (history : List Turn) (state : State) : Prop where
  /-- Between two reports, everything that is known about a slot fits together. -/
  known : ∀ control, state.phase = .supervising control → ∀ watched ∈ control.watched,
    watched.generation = watched.health.restarts ∧
      watched.health.restarts ≤ supervisor.options.maxRestarts ∧
      (watched.health.lifecycle = .starting ∨ watched.health.lifecycle = .running) ∧
      state.board.running.filter (·.slot = watched.slot) = [watched.current] ∧
      (instancesIn watched.slot history).length = 1 + watched.health.restarts ∧
      restartsOf watched.slot history = List.range' 1 watched.health.restarts
  /-- A slot is asked for again only when the stop of its latest instance has ended. -/
  stoppedBefore : ∀ earlier turn later, history = earlier ++ turn :: later →
    ∀ slot ∈ starts turn.effects, slot ∈ launches earlier →
      ∃ live failure, (instancesIn slot earlier).getLast? = some live ∧
        turn.happening = .stopEnded live failure
  /-- Whatever report is taken, it ends the run only if the restarts of its slot are used up exactly,
  and then nothing has been stopped. -/
  exhausted : ∀ control, state.phase = .supervising control → ∀ now report left,
    supervisor.take? now control = some (report, left) → ∀ failure,
      (supervisor.apply left state.board report).next.progress = .broken failure →
        ∃ watched, left.find? report.slot = some watched ∧
          watched.health.restarts = supervisor.options.maxRestarts ∧
          failure = (SupervisorError.restartBudgetExhausted report.slot.service
            supervisor.options.maxRestarts : Failure) ∧
          stops (supervisor.apply left state.board report).effects = [] ∧
          (supervisor.apply left state.board report).next.board.running = state.board.running
  /-- A restart ends the run only if the new instance could not be launched. -/
  failed : ∀ control repair, state.phase = .repairing control repair → ∀ now outcome failure,
    (supervisor.finishRepair now control state.board repair outcome).next.progress =
      .broken failure →
      ∃ reason, outcome = some reason ∧
        failure = reason.within ("Failed to restart " ++ repair.old.slot.text)
  /-- The number of restarts never outgrows the budget, and so no counter that holds the budget. -/
  bounded : ∀ control repair, state.phase = .repairing control repair →
    ∀ watched ∈ control.watched, watched.slot = repair.old.slot →
      watched.health.restarted.restarts ≤ supervisor.options.maxRestarts ∧
        (supervisor.options.maxRestarts < UInt32.size →
          watched.health.restarted.restarts < UInt32.size)

/-- A report ends the run only if the restarts of its slot are used up. -/
theorem Applied.exhausted_of_broken {report : Report} {progress : Loop}
    (applied : Applied supervisor control board report progress effects)
    (ledger : Ledger supervisor history control []) {failure : Failure}
    (broken : progress.progress = .broken failure) :
    ∃ watched, control.find? report.slot = some watched ∧
      watched.health.restarts = supervisor.options.maxRestarts ∧
      failure = (SupervisorError.restartBudgetExhausted report.slot.service
        supervisor.options.maxRestarts : Failure) ∧
      stops effects = [] := by
  have asks := applied.asks.2.1
  rw [broken] at asks
  cases applied with
  | stale old => cases broken
  | quiet found current finding quiet logs => cases broken
  | repair found current same left logs => cases broken
  | @exhausted watched after actions effects found current spent logs =>
    rcases Control.find?_slot found with ⟨member, own⟩
    have equal := Nat.le_antisymm (ledger.booked watched member).within spent
    cases broken
    exact ⟨watched, found, equal, by rw [own, equal], asks⟩

theorem Finished.failed_of_broken {slot : Slot} {outcome : Option Failure} {progress : Loop}
    (finished : Finished supervisor now control board slot outcome progress effects)
    {failure : Failure} (broken : progress.progress = .broken failure) :
    ∃ reason, outcome = some reason ∧
      failure = reason.within ("Failed to restart " ++ slot.text) := by
  cases finished with
  | failed =>
    cases broken
    exact ⟨_, rfl, rfl⟩
  | renewed found => cases broken

/-- In every run, whatever reports come, the books are in order. -/
theorem books_in_order (run : supervisor.Run mail history state) :
    BooksInOrder supervisor history state := by
  have invariant := run.invariant
  have phase := invariant.phase
  have booked := run.phaseBooked
  constructor
  · intro control supervising watched member
    rw [supervising] at phase booked
    rcases phase with ⟨-, aligned, active⟩
    have known := Ledger.booked booked watched member
    refine ⟨known.generation, known.within, Lifecycle.eq_of_isActive (active watched member), ?_,
      known.launched.trans (Nat.add_comm _ _), known.reported⟩
    exact filter_slot_eq_singleton aligned.distinct (aligned.current_mem member)
  · rintro earlier turn later rfl slot asked again
    rcases run.split rfl with ⟨before, past, made⟩
    exact Step.starts_again past.invariant past.phaseBooked (.of_step? made) asked again
  · intro control supervising now report left taken failure broken
    rw [supervising] at phase booked
    rcases phase.2.applied taken with ⟨-, applied⟩
    have ledger := Ledger.agrees booked (agrees_take? phase.2.aligned.watched_distinct taken)
    rcases applied.exhausted_of_broken ledger broken with ⟨watched, found, equal, same, silent⟩
    exact ⟨watched, found, equal, same, silent, applied.board_eq.1⟩
  · intro control repair repairing now outcome failure broken
    rw [repairing] at phase
    exact (phase.2.finished supervisor now outcome).failed_of_broken broken
  · intro control repair repairing watched member own
    rw [repairing] at booked
    have left := Ledger.left booked watched member (List.mem_singleton.2 own)
    exact ⟨left, fun small => Nat.lt_of_le_of_lt left small⟩

/-- After its application has been restarted, the books of the small stack are in order. -/
theorem small_books_in_order :
    ∃ earlier turn state, small.Run .arbitrary (earlier ++ [turn]) state ∧
      restartsOf ⟨"app", 0⟩ (earlier ++ [turn]) = [1] ∧
      BooksInOrder small (earlier ++ [turn]) state := by
  rcases exists_run_of_replay? small .arbitrary small.mend
    (fun earlier turn _ => decide (restartsOf ⟨"app", 0⟩ (earlier ++ [turn]) = [1]))
    (by decide +kernel) with ⟨earlier, turn, state, run, restarted⟩
  exact ⟨earlier, turn, state, run, of_decide_eq_true restarted, books_in_order run⟩

end Supervisor

end Convoy
