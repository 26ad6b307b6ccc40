import Convoy.Proofs.Supervisor.Mailbox
import Convoy.Proofs.Supervisor.Restart

/-!
# What is made of answers

All answers to a probe of an instance, since it has been watched, end with the failures that its
health counts, followed by those that are still on their way. The monitors keep their distance: the
first answer comes after the delay of the probe, and each other one at least a period after the one
before it.
-/

namespace Convoy

/-- The answer that a monitor has got in this turn. -/
def Turn.answer? (slot : Slot) (kind : ProbeKind) (turn : Turn) : Option Bool :=
  match turn.happening with
  | .probed other asked passed => if other = slot ∧ asked = kind then some passed else none
  | _ => none

/-- The answers to a probe of a slot, in order. -/
def History.answers (slot : Slot) (kind : ProbeKind) (history : List Turn) : List Bool :=
  history.filterMap (Turn.answer? slot kind)

theorem History.answers_concat {slot : Slot} {kind : ProbeKind} (history : List Turn)
    (turn : Turn) :
    answers slot kind (history ++ [turn]) =
      answers slot kind history ++ (turn.answer? slot kind).toList := by
  cases answer : turn.answer? slot kind <;> simp [answers, answer]

/-! ## The pace of a monitor -/

namespace Probe

/-- The earliest moment at which a monitor that has begun at a moment can have asked once more than
a number of times. -/
def earliest (probe : Probe) (began : Duration) (count : Nat) : Duration :=
  began + probe.initialDelay + probe.period.scale count

variable {probe : Probe} {began : Duration}

theorem earliest_succ (count : Nat) :
    probe.earliest began (count + 1) = probe.earliest began count + probe.period := by
  apply congrArg Duration.mk
  show _ + probe.period.nanos * (count + 1) = _ + probe.period.nanos * count + probe.period.nanos
  rw [Nat.mul_succ, Nat.add_assoc]

theorem earliest_mono {first second : Nat} (fewer : first ≤ second) :
    probe.earliest began first ≤ probe.earliest began second :=
  Nat.add_le_add_left (Nat.mul_le_mul_left _ fewer) _

end Probe

/-- The answers that a monitor has got since it began. They came at a pace that its probe allows.
The last of them have not been taken in yet, and those before end with the failures that count. -/
structure Attended (probe? : Option Probe) (began now : Duration) (answers pending : List Bool)
    (failures : Nat) (due : Option Duration) : Prop where
  pace : answers ≠ [] → ∃ probe, probe? = some probe ∧
    probe.earliest began (answers.length - 1) ≤ now
  next : ∀ moment, due = some moment → ∃ probe, probe? = some probe ∧
    probe.earliest began answers.length ≤ moment
  heard : ∃ front, answers = front ++ List.replicate failures false ++ pending

namespace Attended

variable {probe? : Option Probe} {began now later moment : Duration} {answers pending : List Bool}
  {failures : Nat} {due : Option Duration}

theorem start (probe? : Option Probe) (began : Duration) :
    Attended probe? began began [] [] 0 (probe?.map fun probe => began + probe.initialDelay) := by
  refine ⟨by simp, ?_, ⟨[], rfl⟩⟩
  intro moment soon
  rcases Option.map_eq_some_iff.1 soon with ⟨probe, known, rfl⟩
  refine ⟨probe, known, ?_⟩
  show began.nanos + probe.initialDelay.nanos + probe.period.nanos * 0 ≤ _
  exact Nat.le_refl _

theorem mono (attended : Attended probe? began now answers pending failures due)
    (passes : now ≤ later) : Attended probe? began later answers pending failures due := by
  refine ⟨?_, attended.next, attended.heard⟩
  intro some
  rcases attended.pace some with ⟨probe, known, paced⟩
  exact ⟨probe, known, Nat.le_trans paced passes⟩

/-- The monitor waits for a period from now on, or until its report is accepted. -/
theorem again (attended : Attended probe? began now answers pending failures due)
    (some : answers ≠ []) {other : Option Duration}
    (renewed : ∀ moment, other = .some moment → ∃ probe, probe? = .some probe ∧
      moment = now + probe.period) :
    Attended probe? began now answers pending failures other := by
  refine ⟨attended.pace, ?_, attended.heard⟩
  intro moment soon
  rcases renewed moment soon with ⟨probe, known, rfl⟩
  rcases attended.pace some with ⟨same, sameKnown, paced⟩
  cases known.symm.trans sameKnown
  have positive : answers.length - 1 + 1 = answers.length :=
    Nat.sub_add_cancel (List.length_pos_iff.2 some)
  refine ⟨probe, known, ?_⟩
  rw [← positive, Probe.earliest_succ]
  exact Nat.add_le_add_right paced _

theorem ask (attended : Attended probe? began now answers pending failures (some moment))
    (ready : moment ≤ now) (passed : Bool) :
    Attended probe? began now (answers ++ [passed]) (pending ++ [passed]) failures none := by
  refine ⟨?_, by simp, ?_⟩
  · intro _
    rcases attended.next moment rfl with ⟨probe, known, paced⟩
    refine ⟨probe, known, ?_⟩
    rw [List.length_append, List.length_singleton, Nat.add_sub_cancel]
    exact Nat.le_trans paced ready
  · rcases attended.heard with ⟨front, equal⟩
    exact ⟨front, by simp [equal]⟩

theorem answers_ne_nil (attended : Attended probe? began now answers pending failures due)
    (some : pending ≠ []) : answers ≠ [] := by
  rcases attended.heard with ⟨front, rfl⟩
  exact List.append_ne_nil_of_right_ne_nil _ some

/-- The oldest answer is taken in. -/
theorem hear {passed : Bool} {counted : Nat}
    (attended : Attended probe? began now answers (passed :: pending) failures due)
    (recorded : ∃ front, List.replicate failures false ++ [passed] =
      front ++ List.replicate counted false) :
    Attended probe? began now answers pending counted due := by
  refine ⟨attended.pace, attended.next, ?_⟩
  rcases attended.heard with ⟨front, equal⟩
  rcases recorded with ⟨further, same⟩
  refine ⟨front ++ further, ?_⟩
  calc answers
      = front ++ (List.replicate failures false ++ [passed]) ++ pending := by simp [equal]
    _ = front ++ further ++ List.replicate counted false ++ pending := by simp [same]

/-- One more failure, after which there are enough of them in a row. -/
theorem fail {probe : Probe} {count : Nat}
    (attended : Attended (some probe) began now answers (false :: pending) failures due)
    (enough : count ≤ failures + 1) :
    (∃ front, answers = front ++ List.replicate count false ++ pending) ∧
      probe.earliest began (count - 1) ≤ now := by
  rcases attended.heard with ⟨front, equal⟩
  -- The failures that have been counted, together with this one, end with as many as it takes.
  have last : answers =
      front ++ List.replicate (failures + 1 - count) false ++ List.replicate count false ++
        pending := by
    have split : List.replicate (failures + 1 - count) false ++ List.replicate count false =
        List.replicate failures false ++ [false] := by
      rw [← List.replicate_add, Nat.sub_add_cancel enough, List.replicate_succ']
    rw [List.append_assoc front, split, equal]
    simp
  refine ⟨⟨_, last⟩, ?_⟩
  rcases attended.pace (attended.answers_ne_nil (by simp)) with ⟨same, known, paced⟩
  cases known
  have fewer : count - 1 ≤ answers.length - 1 := by
    rw [last]
    simp
    omega
  exact Nat.le_trans (Probe.earliest_mono fewer) paced

end Attended

namespace Supervisor

open History Effect

variable {supervisor : Supervisor} {history : List Turn} {state next : State}
  {control left : Control} {board after : Board} {now later : Duration} {effects : List Effect}
  {watched other : Watched} {turn : Turn} {reports further : List Report} {report : Report}

/-! ## Watched instances -/

/-- The monitors of a slot begin when supervision does, and again at each restart. -/
inductive Begins (slot : Slot) (start : List Turn) (began : Turn) : Prop where
  | first (settled : began.happening = .settled)
      (up : ∃ control, began.after.phase = .supervising control)
      (none : restartsOf slot start = [])
  | again (restarted : restarts slot began.effects ≠ [])

/-- An instance fills its slot, and is watched, since some turn. -/
structure Tenure (live : Instance) (start : List Turn) (began : Turn) (since : List Turn) :
    Prop where
  begins : Begins live.slot start began
  latest : (instancesIn live.slot (start ++ [began])).getLast? = some live
  unreplaced : live.slot ∉ launches since
  unrestarted : restartsOf live.slot since = []

theorem Tenure.concat {live : Instance} {start since : List Turn} {began : Turn}
    (tenure : Tenure live start began since) (still : turn.launched? ≠ some live.slot)
    (silent : restarts live.slot turn.effects = []) :
    Tenure live start began (since ++ [turn]) := by
  refine ⟨tenure.begins, tenure.latest, ?_, ?_⟩
  · cases launched : turn.launched? with
    | none =>
      rw [launches_concat_of_not_launched launched]
      exact tenure.unreplaced
    | some slot =>
      rw [launches_concat_of_launched launched]
      rintro member
      rcases List.mem_append.1 member with former | last
      · exact tenure.unreplaced former
      · rw [List.mem_singleton.1 last] at still
        exact still launched
  · rw [restartsOf_concat, tenure.unrestarted, silent]
    rfl

/-- What is known about a watched instance fits the answers of its probes, of which some are still
in reports on their way. -/
structure Watch (supervisor : Supervisor) (history : List Turn) (now : Duration)
    (reports : List Report) (watched : Watched) : Prop where
  idle : watched.health.Idle
  attended : ∃ start began since, history = start ++ began :: since ∧
    Tenure watched.current start began since ∧
    ∀ kind, Attended ((supervisor.probesOf watched.slot).get kind) began.moment now
      (answers watched.slot kind since) (answered watched.slot watched.generation kind reports)
      (watched.health.failures kind) (watched.due.get kind)

theorem Watch.start {start : List Turn} {began : Turn}
    (tenure : Tenure watched.current start began []) {restarts : Nat}
    {thresholds : PerKind (Option Thresholds)} (fresh : watched.health = .enter restarts thresholds)
    (unanswered : ∀ kind, answered watched.slot watched.generation kind reports = []) :
    Watch supervisor (start ++ [began]) began.moment reports
      (watched.monitored (supervisor.probesOf watched.slot) began.moment) := by
  constructor
  · show watched.health.Idle
    rw [fresh]
    exact Health.idle_enter _ _
  · refine ⟨start, began, [], rfl, tenure, ?_⟩
    intro kind
    show Attended _ _ _ [] (answered watched.slot watched.generation kind reports)
      (watched.health.failures kind) (PerKind.get (PerKind.map _ _) kind)
    rw [unanswered, fresh, Health.failures_enter, PerKind.get_map]
    exact .start _ _

theorem Watch.map (watch : Watch supervisor history now reports watched)
    (current : other.current = watched.current) (idle : other.health.Idle)
    (keeps : ∀ began answers kind,
      Attended ((supervisor.probesOf watched.slot).get kind) began now answers
        (answered watched.slot watched.generation kind reports)
        (watched.health.failures kind) (watched.due.get kind) →
      Attended ((supervisor.probesOf watched.slot).get kind) began later answers
        (answered watched.slot other.generation kind further)
        (other.health.failures kind) (other.due.get kind)) :
    Watch supervisor history later further other := by
  have slot : other.slot = watched.slot := congrArg Instance.slot current
  refine ⟨idle, ?_⟩
  rw [slot, current]
  rcases watch.attended with ⟨start, began, since, parts, tenure, attended⟩
  exact ⟨start, began, since, parts, tenure, fun kind => keeps _ _ kind (attended kind)⟩

theorem Watch.mono (watch : Watch supervisor history now reports watched) (passes : now ≤ later) :
    Watch supervisor history later reports watched :=
  watch.map rfl watch.idle fun _ _ _ attended => attended.mono passes

/-- A report about something else has been handled. -/
theorem Watch.drop (watch : Watch supervisor history now (report :: reports) watched)
    (elsewhere : report.slot = watched.slot → report.generation ≠ watched.generation) :
    Watch supervisor history now reports watched := by
  have unanswered : ∀ kind, report.answer? watched.slot watched.generation kind = none := by
    intro kind
    by_cases own : report.slot = watched.slot
    · exact Report.answer?_of_generation_ne (elsewhere own)
    · exact Report.answer?_of_slot_ne own
  apply watch.map rfl watch.idle
  intro began answers kind attended
  rw [answered_cons, unanswered kind] at attended
  exact attended

theorem Watch.observe {kind : ProbeKind} {success : Bool}
    (watch : Watch supervisor history now
      (⟨watched.slot, watched.generation, .probe kind success⟩ :: reports) watched)
    (quiet : Health.Quiet (watched.health.observe kind success)) :
    Watch supervisor history now reports
      { watched with health := (watched.health.observe kind success).1 } := by
  refine watch.map rfl (Health.idle_observe watch.idle quiet) ?_
  intro began answers asked attended
  rw [answered_cons] at attended
  by_cases same : asked = kind
  · subst same
    rw [Report.answer?_eq_some_iff.2 rfl] at attended
    exact attended.hear (Health.exists_replicate_failures watch.idle asked success)
  · rw [Health.failures_observe_of_ne same]
    have unanswered : Report.answer? watched.slot watched.generation asked
        ⟨watched.slot, watched.generation, .probe kind success⟩ = none := by
      simp [Report.answer?, Ne.symm same]
    rw [unanswered] at attended
    exact attended

/-- One more turn, in which one of the monitors may have got an answer. -/
theorem Watch.concat (watch : Watch supervisor history now reports watched)
    (still : turn.launched? ≠ some watched.slot)
    (silent : restarts watched.slot turn.effects = [])
    (current : other.current = watched.current) (idle : other.health.Idle)
    (keeps : ∀ began answers kind,
      Attended ((supervisor.probesOf watched.slot).get kind) began now answers
        (answered watched.slot watched.generation kind reports)
        (watched.health.failures kind) (watched.due.get kind) →
      Attended ((supervisor.probesOf watched.slot).get kind) began later
        (answers ++ (turn.answer? watched.slot kind).toList)
        (answered watched.slot other.generation kind further)
        (other.health.failures kind) (other.due.get kind)) :
    Watch supervisor (history ++ [turn]) later further other := by
  have slot : other.slot = watched.slot := congrArg Instance.slot current
  refine ⟨idle, ?_⟩
  rw [slot, current]
  rcases watch.attended with ⟨start, began, since, rfl, tenure, attended⟩
  refine ⟨start, began, since ++ [turn], by simp, tenure.concat still silent, ?_⟩
  intro kind
  rw [answers_concat]
  exact keeps _ _ kind (attended kind)

theorem Watch.pass (watch : Watch supervisor history now reports watched)
    (still : turn.launched? ≠ some watched.slot)
    (silent : restarts watched.slot turn.effects = [])
    (unasked : ∀ kind, turn.answer? watched.slot kind = none) :
    Watch supervisor (history ++ [turn]) now reports watched := by
  apply watch.concat still silent rfl watch.idle
  intro began answers kind attended
  rw [unasked kind, Option.toList_none, List.append_nil]
  exact attended

theorem Watch.expect (watch : Watch supervisor history now reports watched)
    (elsewhere : report.slot ≠ watched.slot) :
    Watch supervisor history now (reports ++ [report]) watched := by
  apply watch.map rfl watch.idle
  intro began answers kind attended
  rw [answered_concat, Report.answer?_of_slot_ne elsewhere, Option.toList_none, List.append_nil]
  exact attended

theorem Watch.send (watch : Watch supervisor history now reports watched) {finding : Finding}
    (done : Posted supervisor now watched finding other)
    (waits : ∀ kind passed, finding = .probe kind passed →
      ∃ due, watched.due.get kind = some due ∧ due ≤ now)
    (still : turn.launched? = none) (silent : ∀ slot, restarts slot turn.effects = [])
    (told : ∀ kind, turn.answer? watched.slot kind =
      Report.answer? watched.slot watched.generation kind
        ⟨watched.slot, watched.generation, finding⟩) :
    Watch supervisor (history ++ [turn]) now
      (reports ++ [⟨watched.slot, watched.generation, finding⟩]) other := by
  rcases Watched.known_of_unmonitored done.same with ⟨current, generation, health⟩
  apply watch.concat (by simp [still]) (silent _) current
  · rw [health]
    exact watch.idle
  · intro began answers kind attended
    rw [generation, health, told, answered_concat]
    cases answer : Report.answer? watched.slot watched.generation kind
        ⟨watched.slot, watched.generation, finding⟩ with
    | none =>
      rw [done.others kind, Option.toList_none, List.append_nil, List.append_nil]
      · exact attended
      · intro passed own
        rw [Report.answer?_eq_some_iff.2 own] at answer
        cases answer
    | some passed =>
      have own := Report.answer?_eq_some_iff.1 answer
      rcases waits kind passed own with ⟨due, waiting, ready⟩
      rw [waiting] at attended
      exact (attended.ask ready passed).again (by simp) (done.own kind passed own)

/-- The report of a monitor of the instance is accepted. -/
theorem Watch.accept (watch : Watch supervisor history now reports watched) {finding : Finding}
    (expected : ⟨watched.slot, watched.generation, finding⟩ ∈ reports)
    (done : Posted supervisor now watched finding other) :
    Watch supervisor history now reports other := by
  rcases Watched.known_of_unmonitored done.same with ⟨current, generation, health⟩
  apply watch.map current
  · rw [health]
    exact watch.idle
  · intro began answers kind attended
    rw [health, generation]
    by_cases asked : ∃ passed, finding = .probe kind passed
    · rcases asked with ⟨passed, asked⟩
      have some := attended.answers_ne_nil (answered_ne_nil expected asked)
      exact attended.again some (done.own kind passed asked)
    · rw [done.others kind (not_exists.1 asked)]
      exact attended

/-! ## All watched instances -/

/-- What is known about a watched instance in all. If its slot is withheld, its monitors are called
off. -/
structure Minds (supervisor : Supervisor) (history : List Turn) (now : Duration)
    (withheld : Option Slot) (reports : List Report) (watched : Watched) : Prop where
  thresholds : watched.health.thresholds =
    (supervisor.probesOf watched.slot).map (·.map Thresholds.ofProbe)
  watch : withheld ≠ some watched.slot → Watch supervisor history now reports watched
  resting : withheld = some watched.slot → watched.unmonitored = watched

/-- What is known about all watched instances, with a report in hand or none. -/
structure Minded (supervisor : Supervisor) (history : List Turn) (now : Duration)
    (control : Control) (withheld : Option Slot) (hand : List Report) : Prop where
  postal : Postal control withheld
  minds : ∀ watched ∈ control.watched,
    Minds supervisor history now withheld (hand ++ control.mailbox.reports) watched

variable {withheld withheldThen : Option Slot} {hand : List Report}

theorem Minds.imp (minds : Minds supervisor history now withheld reports watched)
    (same : withheldThen = some watched.slot ↔ withheld = some watched.slot)
    {historyThen : List Turn}
    (keeps : Watch supervisor history now reports watched →
      Watch supervisor historyThen later further watched) :
    Minds supervisor historyThen later withheldThen further watched :=
  ⟨minds.thresholds, fun active => keeps (minds.watch fun resting => active (same.2 resting)),
    fun resting => minds.resting (same.1 resting)⟩

theorem Minds.congr (minds : Minds supervisor history now withheld reports watched)
    (active : withheld ≠ some watched.slot) (same : other.unmonitored = watched.unmonitored)
    {historyThen : List Turn} (watch : Watch supervisor historyThen later further other) :
    Minds supervisor historyThen later withheld further other := by
  have slot : other.slot = watched.slot := Watched.slot_eq_of_unmonitored same
  refine ⟨?_, fun _ => watch, ?_⟩
  · rw [slot, (Watched.known_of_unmonitored same).2.2]
    exact minds.thresholds
  · rw [slot]
    intro resting
    exact absurd resting active

namespace Minded

theorem mono (minded : Minded supervisor history now control withheld hand)
    (passes : now ≤ later) : Minded supervisor history later control withheld hand where
  postal := minded.postal
  minds watched member := (minded.minds watched member).imp Iff.rfl fun watch => watch.mono passes

theorem pass (minded : Minded supervisor history now control withheld hand)
    (still : turn.launched? = none) (silent : ∀ slot, restarts slot turn.effects = [])
    (unasked : ∀ slot kind, turn.answer? slot kind = none) :
    Minded supervisor (history ++ [turn]) now control withheld hand where
  postal := minded.postal
  minds watched member := (minded.minds watched member).imp Iff.rfl fun watch =>
    watch.pass (by simp [still]) (silent _) (unasked _)

/-! ### Monitors -/

theorem send (minded : Minded supervisor history now control withheld [])
    (distinct : (control.watched.map (·.slot)).Nodup) (member : watched ∈ control.watched)
    (active : withheld ≠ some watched.slot) {finding : Finding} {posted : Watched}
    (done : Posted supervisor now watched finding posted)
    (waits : ∀ kind passed, finding = .probe kind passed →
      ∃ due, watched.due.get kind = some due ∧ due ≤ now)
    (still : turn.launched? = none) (silent : ∀ slot, restarts slot turn.effects = [])
    (told : ∀ slot kind, turn.answer? slot kind =
      Report.answer? slot watched.generation kind ⟨watched.slot, watched.generation, finding⟩) :
    Minded supervisor (history ++ [turn]) now
      ((control.send ⟨watched.slot, watched.generation, finding⟩).put posted) withheld [] := by
  have slot : posted.slot = watched.slot := Watched.slot_eq_of_unmonitored done.same
  have generation := (Watched.known_of_unmonitored done.same).2.1
  have sent : (control.send ⟨watched.slot, watched.generation, finding⟩).mailbox.reports =
      control.mailbox.reports ++ [⟨watched.slot, watched.generation, finding⟩] :=
    Mailbox.reports_post minded.postal.orderly _
  have minds := minded.minds watched member
  constructor
  · have postal := minded.postal.send distinct member active finding
    exact postal.subset (Control.exists_generation_put member slot.symm generation.symm)
      postal.orderly (fun _ member => member) (fun _ member => member)
  · show ∀ other ∈ _, Minds _ _ _ _ ([] ++ (control.send _).mailbox.reports) other
    rw [sent, List.nil_append]
    apply Control.forall_mem_put
    · apply minds.congr active done.same
      exact (minds.watch active).send done waits still silent (told _)
    · intro other former different
      rw [slot] at different
      apply (minded.minds other former).imp Iff.rfl
      intro watch
      have passed := watch.pass (by simp [still]) (silent _)
        fun kind => (told _ kind).trans (Report.answer?_of_slot_ne different.symm)
      exact passed.expect different.symm

theorem put (minded : Minded supervisor history now control withheld hand)
    (member : watched ∈ control.watched) (active : withheld ≠ some watched.slot)
    (same : other.unmonitored = watched.unmonitored)
    (watch : Watch supervisor history now (hand ++ control.mailbox.reports) other) :
    Minded supervisor history now (control.put other) withheld hand := by
  have slot := Watched.slot_eq_of_unmonitored same
  have generation := (Watched.known_of_unmonitored same).2.1
  constructor
  · exact minded.postal.subset
      (Control.exists_generation_put member slot.symm generation.symm)
      minded.postal.orderly (fun _ member => member) (fun _ member => member)
  · apply Control.forall_mem_put
    · exact (minded.minds watched member).congr active same watch
    · exact fun next former _ => minded.minds next former

theorem monitored (minded : Minded supervisor history now control withheld [])
    (distinct : (control.watched.map (·.slot)).Nodup) {happening : Happening} {next : Control}
    (seen : supervisor.monitorStep? now control happening = some next) (reached : State) :
    Minded supervisor (history ++ [⟨now, happening, [], reached⟩]) now next withheld [] := by
  have still : Turn.launched? ⟨now, happening, [], reached⟩ = none :=
    launched?_of_monitorStep? seen _ _
  -- Whoever still has a monitor is not withheld.
  have awake : ∀ watched ∈ control.watched,
      (∃ kind due, watched.due.get kind = some due) ∨ watched.awaitsExit = true →
        withheld ≠ some watched.slot := by
    intro watched member monitors resting
    rw [← (minded.minds watched member).resting resting] at monitors
    rcases monitors with ⟨kind, due, waits⟩ | waits
    · rw [show watched.unmonitored.due.get kind = none from PerKind.get_replicate _ _] at waits
      cases waits
    · cases waits
  cases Monitored.of_monitorStep? seen with
  | @asked slot kind passed watched posted due found waits ready done =>
    rcases Control.find?_slot found with ⟨member, rfl⟩
    apply minded.send distinct member (awake _ member (Or.inl ⟨kind, due, waits⟩)) done _ still
      (fun _ => rfl)
    · intro other asked
      by_cases here : watched.slot = other <;> simp [Turn.answer?, Report.answer?, here]
    · intro other passed' equal
      cases equal
      exact ⟨due, waits, ready⟩
  | @exited target code watched posted found waits done =>
    have member := (Control.find?_slot found).1
    apply minded.send distinct member (awake _ member (Or.inr waits)) done _ still (fun _ => rfl)
    · intro slot kind
      simp [Turn.answer?, Report.answer?]
    · simp
  | @lost target failure watched found waits =>
    have member := (Control.find?_slot found).1
    have active := awake _ member (Or.inr waits)
    have passed := minded.pass still (fun _ => rfl) (fun _ _ => rfl)
    have watch := (passed.minds watched member).watch active
    exact passed.put member active rfl
      (watch.map rfl watch.idle fun _ _ _ attended => attended)

/-! ### Reports -/

/-- A report is taken, and the first monitor that waits for room gets it. -/
theorem take (minded : Minded supervisor history now control none [])
    (distinct : (control.watched.map (·.slot)).Nodup)
    (taken : supervisor.take? now control = some (report, left)) :
    Minded supervisor history now left none [report] := by
  have agrees := agrees_take? distinct taken
  rcases Taken.of_take? minded.postal.orderly taken with ⟨reports, orderly, blocked, what⟩
  -- It does not matter for the instances whether a report is in the mailbox or in hand.
  have exchanged : ∀ middle : Control, Minded supervisor history now middle none [] →
      middle.mailbox = control.mailbox → left.watched = middle.watched →
        Minded supervisor history now left none [report] := by
    intro middle known mailbox same
    constructor
    · apply minded.postal.subset (fun _ => agrees.exists_generation) orderly _ blocked
      rw [reports]
      exact fun _ => List.mem_cons_of_mem report
    · have minds := known.minds
      rw [mailbox, reports, ← same] at minds
      exact minds
  cases what with
  | plain same => exact exchanged control minded rfl same
  | @accepted waiting watched waits found noted =>
    rcases Control.find?_slot found with ⟨member, own⟩
    have watch := (minded.minds watched member).watch (by simp)
    have current := (minded.postal.fresh waiting waits).2 watched member own
    have expected : waiting ∈ [] ++ control.mailbox.reports :=
      List.mem_append_right [] (List.mem_append_right _ waits)
    rcases waiting with ⟨slot, generation, finding⟩
    cases own
    cases current
    have accepted : Posted supervisor now watched finding
        (supervisor.nextDue now ⟨watched.slot, watched.generation, finding⟩ watched) :=
      .nextDue rfl fun _ _ => rfl
    have put := minded.put member (by simp) accepted.same (watch.accept expected accepted)
    exact exchanged _ put rfl noted

theorem stale (minded : Minded supervisor history now control none [report])
    (aligned : Aligned control board)
    (old : ∀ watched, control.find? report.slot = some watched →
      watched.generation ≠ report.generation) :
    Minded supervisor history now control none [] where
  postal := minded.postal
  minds watched member := by
    apply (minded.minds watched member).imp Iff.rfl
    intro watch
    apply watch.drop
    intro own same
    refine old watched ?_ same.symm
    rw [own]
    exact aligned.find?_eq member

theorem quiet (minded : Minded supervisor history now control none [report])
    (found : control.find? report.slot = some watched)
    (current : watched.generation = report.generation) {kind : ProbeKind} {success : Bool}
    (finding : report.finding = .probe kind success)
    (quiet : Health.Quiet (watched.health.observe kind success)) :
    Minded supervisor history now
      (control.put { watched with health := (watched.health.observe kind success).1 }) none [] := by
  rcases Control.find?_slot found with ⟨member, own⟩
  rcases report with ⟨slot, generation, finding'⟩
  cases own
  cases current
  cases finding
  have minds := minded.minds watched member
  constructor
  · exact minded.postal.subset (Control.exists_generation_put member rfl rfl)
      minded.postal.orderly (fun _ member => member) (fun _ member => member)
  · apply Control.forall_mem_put
    · refine ⟨?_, fun active => (minds.watch active).observe quiet, by simp⟩
      exact (Health.thresholds_observe kind success).trans minds.thresholds
    · intro other former different
      exact (minded.minds other former).imp Iff.rfl
        fun watch => watch.drop fun same => absurd same.symm different

theorem repair (minded : Minded supervisor history now control none [report])
    (found : control.find? report.slot = some watched) {health : Health}
    (condemned : Condemns watched report.finding health) :
    Minded supervisor history now
      (Control.put { control with mailbox := control.mailbox.withdraw watched.slot }
        (Watched.unmonitored { watched with health := health })) (some watched.slot) [] := by
  rcases Control.find?_slot found with ⟨member, own⟩
  constructor
  · refine minded.postal.put member ?_ ?_ (minded.postal.orderly.withdraw _)
      (fun _ => Mailbox.mem_reports_of_withdraw) (fun _ => Mailbox.mem_blocked_withdraw.1) ?_
    · rfl
    · exact Nat.le_refl _
    · rintro slot ⟨⟩
      rfl
  · apply Control.forall_mem_put
    · refine ⟨?_, fun active => absurd rfl active, fun _ => rfl⟩
      exact condemned.thresholds_eq.trans (minded.minds watched member).thresholds
    · intro other former different
      have elsewhere : watched.slot ≠ other.slot := Ne.symm different
      apply (minded.minds other former).imp
      · simpa using elsewhere
      · intro watch
        have dropped : Watch supervisor history now control.mailbox.reports other :=
          watch.drop fun same => absurd (same.symm.trans own.symm) different
        apply dropped.map rfl dropped.idle
        intro began answers kind attended
        rw [← answered_withdraw elsewhere] at attended
        exact attended

/-! ### Beginnings -/

theorem renew {slot : Slot} {id : InstanceId}
    (minded : Minded supervisor history turn.moment control (some slot) [])
    (found : control.find? slot = some watched) (launched : turn.launched? = some slot)
    (latest : (instancesIn slot (history ++ [turn])).getLast? = some ⟨slot, id⟩)
    (reported : restarts slot turn.effects ≠ [])
    (silent : ∀ other, other ≠ slot → restarts other turn.effects = [])
    (unasked : ∀ slot kind, turn.answer? slot kind = none) :
    Minded supervisor (history ++ [turn]) turn.moment
      (control.put ((watched.renewed id).monitored (supervisor.probesOf slot) turn.moment))
      none [] := by
  rcases Control.find?_slot found with ⟨member, rfl⟩
  constructor
  · refine minded.postal.put member ?_ ?_ minded.postal.orderly (fun _ member => member) ?_ ?_
    · rfl
    · exact Nat.le_succ _
    · intro report waiting
      refine ⟨waiting, ?_⟩
      intro same
      apply (minded.postal.fresh report waiting).1
      rw [same]
      rfl
    · simp
  · apply Control.forall_mem_put
    · refine ⟨(minded.minds watched member).thresholds, fun _ => ?_, by simp⟩
      have tenure : Tenure (watched.renewed id).current history turn [] :=
        ⟨.again reported, latest, by simp [launches], rfl⟩
      refine .start tenure rfl ?_
      intro kind
      -- Reports about the slot that are still on their way are about the instance before.
      apply answered_eq_nil
      intro report expected own
      have aged := minded.postal.aged report expected watched member own.symm
      exact Nat.ne_of_lt (Nat.lt_succ_of_le aged)
    · intro other former different
      have elsewhere : some watched.slot ≠ some other.slot :=
        fun same => different (Option.some.inj same).symm
      apply (minded.minds other former).imp
      · simpa using elsewhere
      · intro watch
        apply watch.pass _ (silent _ different) (unasked _)
        rw [launched]
        exact elsewhere

theorem watchAll (settled : turn.happening = .settled)
    (up : ∃ control, turn.after.phase = .supervising control)
    (fresh : ∀ slot, restartsOf slot history = [])
    (latest : ∀ live ∈ board.running,
      (instancesIn live.slot (history ++ [turn])).getLast? = some live) :
    Minded supervisor (history ++ [turn]) turn.moment
      (supervisor.watchAll turn.moment board).next.1 none [] := by
  refine ⟨.of_empty rfl, ?_⟩
  intro watched member
  rcases List.mem_map.1 member with ⟨live, running, rfl⟩
  have tenure : Tenure live history turn [] :=
    ⟨.first settled up (fresh _), latest live running, by simp [launches], rfl⟩
  exact ⟨rfl, fun _ => .start tenure rfl fun _ => rfl, by simp⟩

end Minded

end Supervisor

end Convoy
