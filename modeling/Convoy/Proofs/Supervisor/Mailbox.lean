import Convoy.Proofs.Supervisor.Control

/-!
# Reports on their way

The mailbox is a queue: what is posted is taken in the same order, also what had to wait for room.
The answers to a monitor that have not been taken yet are those in the reports on their way.
-/

namespace Convoy

namespace Mailbox

/-- All reports on their way, in the order in which they will be taken. -/
def reports (mailbox : Mailbox) : List Report := mailbox.queue ++ mailbox.blocked

/-- Monitors wait only as long as there is no room. -/
def Orderly (mailbox : Mailbox) : Prop := mailbox.blocked ≠ [] → mailbox.hasRoom = false

variable {mailbox : Mailbox}

theorem orderly_empty : Orderly empty := by simp [Orderly, empty]

theorem Orderly.post (orderly : mailbox.Orderly) (report : Report) :
    (mailbox.post report).Orderly := by
  unfold Mailbox.post
  split
  · rename_i room
    intro waiting
    have full := orderly waiting
    rw [room] at full
    cases full
  · rename_i full
    intro _
    exact Bool.eq_false_of_not_eq_true full

theorem reports_post (orderly : mailbox.Orderly) (report : Report) :
    (mailbox.post report).reports = mailbox.reports ++ [report] := by
  unfold post reports
  split
  · rename_i room
    have none : mailbox.blocked = [] := by
      by_contra waiting
      have full := orderly waiting
      rw [room] at full
      cases full
    simp [none]
  · simp

theorem blocked_post (report : Report) :
    ∀ other ∈ (mailbox.post report).blocked, other = report ∨ other ∈ mailbox.blocked := by
  unfold post
  intro other member
  split at member
  · exact Or.inr member
  · simpa [or_comm] using member

theorem Orderly.withdraw (orderly : mailbox.Orderly) (slot : Slot) :
    (mailbox.withdraw slot).Orderly := by
  intro waiting
  apply orderly
  intro none
  simp [Mailbox.withdraw, none] at waiting

theorem mem_blocked_withdraw {slot : Slot} {report : Report} :
    report ∈ (mailbox.withdraw slot).blocked ↔ report ∈ mailbox.blocked ∧ report.slot ≠ slot := by
  simp [withdraw]

theorem mem_reports_of_withdraw {slot : Slot} {report : Report}
    (member : report ∈ (mailbox.withdraw slot).reports) : report ∈ mailbox.reports := by
  rcases List.mem_append.1 member with queued | waiting
  · exact List.mem_append_left _ queued
  · exact List.mem_append_right _ (mem_blocked_withdraw.1 waiting).1

end Mailbox

namespace Report

/-- The answer that a report brings, if it is one of a given monitor. -/
def answer? (slot : Slot) (generation : Nat) (kind : ProbeKind) (report : Report) : Option Bool :=
  if report.slot = slot ∧ report.generation = generation then
    match report.finding with
    | .probe other passed => if other = kind then some passed else none
    | .exited _ => none
  else none

variable {report : Report} {slot : Slot} {generation : Nat} {kind : ProbeKind}

theorem answer?_of_slot_ne (different : report.slot ≠ slot) :
    report.answer? slot generation kind = none := by
  simp [answer?, different]

theorem answer?_of_generation_ne (different : report.generation ≠ generation) :
    report.answer? slot generation kind = none := by
  simp [answer?, different]

theorem answer?_eq_some_iff {finding : Finding} {passed : Bool} :
    answer? slot generation kind ⟨slot, generation, finding⟩ = some passed ↔
      finding = .probe kind passed := by
  cases finding with
  | exited code => simp [answer?]
  | probe other value => simp [answer?, and_comm]

end Report

/-- The answers of a monitor that are on their way. -/
def answered (slot : Slot) (generation : Nat) (kind : ProbeKind) (reports : List Report) :
    List Bool :=
  reports.filterMap (Report.answer? slot generation kind)

section Answered

variable {slot : Slot} {generation : Nat} {kind : ProbeKind} {reports : List Report}

theorem answered_cons (report : Report) :
    answered slot generation kind (report :: reports) =
      (report.answer? slot generation kind).toList ++ answered slot generation kind reports := by
  cases answer : report.answer? slot generation kind <;> simp [answered, answer]

theorem answered_concat (report : Report) :
    answered slot generation kind (reports ++ [report]) =
      answered slot generation kind reports ++ (report.answer? slot generation kind).toList := by
  cases answer : report.answer? slot generation kind <;> simp [answered, answer]

/-- Nothing is on its way from a generation that no report belongs to. -/
theorem answered_eq_nil
    (older : ∀ report ∈ reports, report.slot = slot → report.generation ≠ generation) :
    answered slot generation kind reports = [] := by
  apply List.filterMap_eq_nil_iff.2
  intro report member
  by_cases own : report.slot = slot
  · exact Report.answer?_of_generation_ne (older report member own)
  · exact Report.answer?_of_slot_ne own

theorem answered_ne_nil {report : Report} {passed : Bool} (member : report ∈ reports)
    (finding : report.finding = .probe kind passed) :
    answered report.slot report.generation kind reports ≠ [] := by
  have answer : report.answer? report.slot report.generation kind = some passed :=
    Report.answer?_eq_some_iff.2 finding
  exact List.ne_nil_of_mem (List.mem_filterMap.2 ⟨report, member, answer⟩)

theorem answered_filter {other : Slot} (different : other ≠ slot) :
    answered slot generation kind (reports.filter (·.slot != other)) =
      answered slot generation kind reports := by
  unfold answered
  rw [List.filterMap_filter]
  congr 1
  funext report
  by_cases own : report.slot = other
  · rw [Report.answer?_of_slot_ne (by rw [own]; exact different)]
    simp
  · simp [own]

theorem answered_withdraw {mailbox : Mailbox} {other : Slot} (different : other ≠ slot) :
    answered slot generation kind (mailbox.withdraw other).reports =
      answered slot generation kind mailbox.reports := by
  have parts : ∀ first second : List Report, answered slot generation kind (first ++ second) =
      answered slot generation kind first ++ answered slot generation kind second :=
    fun first second => List.filterMap_append
  unfold Mailbox.reports Mailbox.withdraw
  rw [parts, parts, answered_filter different]

end Answered

namespace Control

/-- A report is on its way to the control loop. -/
def send (control : Control) (report : Report) : Control :=
  { control with mailbox := control.mailbox.post report }

theorem Agrees.exists_generation {control other : Control} (agrees : control.Agrees other)
    {watched : Watched} (member : watched ∈ other.watched) :
    ∃ former ∈ control.watched,
      former.slot = watched.slot ∧ former.generation = watched.generation := by
  rcases agrees.exists_mem member with ⟨former, formerMember, same⟩
  exact ⟨former, formerMember, Watched.slot_eq_of_unmonitored same,
    (Watched.known_of_unmonitored same).2.1⟩

theorem forall_mem_put {control : Control} {watched : Watched} {property : Watched → Prop}
    (own : property watched)
    (others : ∀ other ∈ control.watched, other.slot ≠ watched.slot → property other) :
    ∀ other ∈ (control.put watched).watched, property other := by
  intro other member
  rcases mem_put member with rfl | ⟨kept, different⟩
  · exact own
  · exact others other kept different

theorem exists_generation_put {control : Control} {watched former : Watched}
    (known : former ∈ control.watched) (slot : former.slot = watched.slot)
    (generation : former.generation = watched.generation) :
    ∀ other ∈ (control.put watched).watched, ∃ former ∈ control.watched,
      former.slot = other.slot ∧ former.generation = other.generation := by
  apply forall_mem_put
  · exact ⟨former, known, slot, generation⟩
  · exact fun other kept _ => ⟨other, kept, rfl, rfl⟩

end Control

namespace Supervisor

variable {supervisor : Supervisor} {control next : Control} {now : Duration}

/-! ## Posting -/

/-- A watched instance after a monitor of it has posted a finding. -/
structure Posted (supervisor : Supervisor) (now : Duration) (watched : Watched) (finding : Finding)
    (posted : Watched) : Prop where
  same : posted.unmonitored = watched.unmonitored
  /-- The monitors of other kinds ask when they were going to. -/
  others : ∀ kind, (∀ passed, finding ≠ .probe kind passed) →
    posted.due.get kind = watched.due.get kind
  /-- The monitor itself asks again after a period, unless its report has to wait for room. -/
  own : ∀ kind passed, finding = .probe kind passed → ∀ due, posted.due.get kind = some due →
    ∃ probe, (supervisor.probesOf watched.slot).get kind = some probe ∧ due = now + probe.period

theorem Posted.nextDue {generation : Nat} {finding : Finding} {watched waiting : Watched}
    (same : waiting.unmonitored = watched.unmonitored)
    (others : ∀ kind, (∀ passed, finding ≠ .probe kind passed) →
      waiting.due.get kind = watched.due.get kind) :
    Posted supervisor now watched finding
      (supervisor.nextDue now ⟨watched.slot, generation, finding⟩ waiting) := by
  refine ⟨(unmonitored_nextDue _ waiting).trans same, ?_, ?_⟩
  · intro kind different
    rw [← others kind different]
    cases finding with
    | exited code => rfl
    | probe other passed =>
      apply PerKind.get_set_of_ne
      rintro rfl
      exact different passed rfl
  · rintro kind passed rfl due found
    unfold Supervisor.nextDue at found
    rw [PerKind.get_set_self] at found
    rcases Option.map_eq_some_iff.1 found with ⟨probe, known, rfl⟩
    exact ⟨probe, known, rfl⟩

theorem exists_posted (supervisor : Supervisor) (now : Duration) (control : Control)
    (watched : Watched) (finding : Finding) :
    ∃ posted, supervisor.post now control watched finding =
        (control.send ⟨watched.slot, watched.generation, finding⟩).put posted ∧
      Posted supervisor now watched finding posted := by
  refine ⟨_, rfl, ?_⟩
  cases finding with
  | exited code =>
    have others : ∀ kind passed, Finding.exited code ≠ .probe kind passed := by simp
    split
    · exact .nextDue rfl fun _ _ => rfl
    · exact ⟨rfl, fun _ _ => rfl, fun kind passed own => absurd own (others kind passed)⟩
  | probe kind passed =>
    have others : ∀ other, (∀ passed', Finding.probe kind passed ≠ .probe other passed') →
        (watched.due.set kind none).get other = watched.due.get other := by
      intro other different
      apply PerKind.get_set_of_ne
      rintro rfl
      exact different passed rfl
    split
    · exact .nextDue rfl others
    · refine ⟨rfl, others, ?_⟩
      intro other passed' own due found
      cases own
      have stamped : (watched.due.set kind none).get kind = some due := found
      rw [PerKind.get_set_self] at stamped
      cases stamped

/-- What a monitor can do. -/
inductive Monitored (supervisor : Supervisor) (now : Duration) (control : Control) :
    Happening → Control → Prop where
  | asked {slot : Slot} {kind : ProbeKind} {passed : Bool} {watched posted : Watched}
      {due : Duration} (found : control.find? slot = some watched)
      (waits : watched.due.get kind = some due) (ready : due ≤ now)
      (done : Posted supervisor now watched (.probe kind passed) posted) :
      Monitored supervisor now control (.probed slot kind passed)
        ((control.send ⟨watched.slot, watched.generation, .probe kind passed⟩).put posted)
  | exited {target : Instance} {code : Option Int} {watched posted : Watched}
      (found : control.find? target.slot = some watched) (waits : watched.awaitsExit = true)
      (done : Posted supervisor now watched (.exited code) posted) :
      Monitored supervisor now control (.exited target (.ok code))
        ((control.send ⟨watched.slot, watched.generation, .exited code⟩).put posted)
  | lost {target : Instance} {failure : Failure} {watched : Watched}
      (found : control.find? target.slot = some watched) (waits : watched.awaitsExit = true) :
      Monitored supervisor now control (.exited target (.error failure))
        (control.put { watched with awaitsExit := false })

theorem Monitored.of_monitorStep? {happening : Happening}
    (seen : supervisor.monitorStep? now control happening = some next) :
    Monitored supervisor now control happening next := by
  unfold monitorStep? at seen
  split at seen
  · rename_i slot kind passed
    rcases Option.bind_eq_some_iff.1 seen with ⟨watched, found, seen⟩
    rcases Option.bind_eq_some_iff.1 seen with ⟨due, waits, seen⟩
    split at seen
    · rename_i ready
      rcases exists_posted supervisor now control watched (.probe kind passed) with
        ⟨posted, equal, done⟩
      rw [equal] at seen
      cases seen
      exact .asked found waits ready done
    · cases seen
  · rename_i target outcome
    rcases Option.bind_eq_some_iff.1 seen with ⟨watched, found, seen⟩
    split at seen
    · rename_i waits
      cases outcome with
      | ok code =>
        rcases exists_posted supervisor now control watched (.exited code) with
          ⟨posted, equal, done⟩
        dsimp only at seen
        rw [equal] at seen
        cases seen
        exact .exited found waits.2 done
      | error failure =>
        cases seen
        exact .lost found waits.2
    · cases seen
  · cases seen

/-! ## Taking -/

/-- What else happens when a report is taken: the first monitor that waits for room gets it. -/
inductive Taken (supervisor : Supervisor) (now : Duration) (control : Control) :
    Control → Prop where
  | plain {left : Control} (same : left.watched = control.watched) :
      Taken supervisor now control left
  | accepted {left : Control} {report : Report} {watched : Watched}
      (waiting : report ∈ control.mailbox.blocked)
      (found : control.find? report.slot = some watched)
      (noted : left.watched = (control.put (supervisor.nextDue now report watched)).watched) :
      Taken supervisor now control left

theorem Taken.of_take? {report : Report} {left : Control}
    (orderly : control.mailbox.Orderly)
    (taken : supervisor.take? now control = some (report, left)) :
    control.mailbox.reports = report :: left.mailbox.reports ∧ left.mailbox.Orderly ∧
      (∀ other ∈ left.mailbox.blocked, other ∈ control.mailbox.blocked) ∧
      Taken supervisor now control left := by
  unfold take? at taken
  split at taken
  · cases taken
  · rename_i rest queue blocked
    cases taken
    refine ⟨by simp [Mailbox.reports, queue, blocked], by simp [Mailbox.Orderly], by simp, ?_⟩
    exact .plain rfl
  · rename_i rest waiting further queue blocked
    have full : control.mailbox.hasRoom = false := orderly (by simp [blocked])
    have still : Mailbox.Orderly ⟨rest ++ [waiting], further⟩ := by
      intro _
      simpa [Mailbox.hasRoom, queue] using full
    have first : waiting ∈ control.mailbox.blocked := by simp [blocked]
    cases taken
    split
    · rename_i watched found
      refine ⟨by simp [Mailbox.reports, queue, blocked, Control.put], still, ?_,
        .accepted first found rfl⟩
      intro other member
      rw [blocked]
      exact List.mem_cons_of_mem waiting member
    · refine ⟨by simp [Mailbox.reports, queue, blocked], still, ?_, .plain rfl⟩
      intro other member
      rw [blocked]
      exact List.mem_cons_of_mem waiting member

/-! ## Generations -/

/-- No report is ahead of the instance in its slot. Monitors wait for room only while their instance
is watched, and for a slot that is withheld none waits. -/
structure Postal (control : Control) (withheld : Option Slot) : Prop where
  orderly : control.mailbox.Orderly
  aged : ∀ report ∈ control.mailbox.reports, ∀ watched ∈ control.watched,
    watched.slot = report.slot → report.generation ≤ watched.generation
  fresh : ∀ report ∈ control.mailbox.blocked, withheld ≠ some report.slot ∧
    ∀ watched ∈ control.watched, watched.slot = report.slot →
      watched.generation = report.generation

namespace Postal

variable {withheld : Option Slot}

theorem of_empty (empty : control.mailbox = .empty) : Postal control withheld := by
  constructor
  · rw [empty]
    exact Mailbox.orderly_empty
  · rw [empty]
    simp [Mailbox.reports, Mailbox.empty]
  · rw [empty]
    simp [Mailbox.empty]

/-- Only the generations count, and reports may be taken away. -/
theorem subset (postal : Postal control withheld)
    (known : ∀ watched ∈ next.watched, ∃ former ∈ control.watched,
      former.slot = watched.slot ∧ former.generation = watched.generation)
    (orderly : next.mailbox.Orderly)
    (reports : ∀ report ∈ next.mailbox.reports, report ∈ control.mailbox.reports)
    (blocked : ∀ report ∈ next.mailbox.blocked, report ∈ control.mailbox.blocked) :
    Postal next withheld := by
  refine ⟨orderly, ?_, ?_⟩
  · intro report member watched watchedMember own
    rcases known watched watchedMember with ⟨former, formerMember, slot, generation⟩
    rw [← generation]
    exact postal.aged report (reports report member) former formerMember (slot.trans own)
  · intro report member
    rcases postal.fresh report (blocked report member) with ⟨allowed, current⟩
    refine ⟨allowed, ?_⟩
    intro watched watchedMember own
    rcases known watched watchedMember with ⟨former, formerMember, slot, generation⟩
    rw [← generation]
    exact current former formerMember (slot.trans own)

theorem send (postal : Postal control withheld) (distinct : (control.watched.map (·.slot)).Nodup)
    {watched : Watched} (member : watched ∈ control.watched)
    (active : withheld ≠ some watched.slot) (finding : Finding) :
    Postal (control.send ⟨watched.slot, watched.generation, finding⟩) withheld := by
  have only : ∀ other ∈ control.watched, other.slot = watched.slot → other = watched :=
    fun other otherMember same => List.inj_on_of_nodup_map distinct otherMember member same
  refine ⟨postal.orderly.post _, ?_, ?_⟩
  · show ∀ report ∈ (control.mailbox.post _).reports, _
    rw [Mailbox.reports_post postal.orderly]
    intro report reportMember other otherMember same
    rcases List.mem_append.1 reportMember with former | last
    · exact postal.aged report former other otherMember same
    · cases List.mem_singleton.1 last
      rw [only other otherMember same]
  · intro report reportMember
    rcases Mailbox.blocked_post _ report reportMember with rfl | former
    · refine ⟨active, ?_⟩
      intro other otherMember same
      rw [only other otherMember same]
    · exact postal.fresh report former

/-- A slot for which no monitor waits any more gets the same instance or a later one. -/
theorem put (postal : Postal control withheld) {watched former : Watched}
    (member : former ∈ control.watched) (same : former.slot = watched.slot)
    (newer : former.generation ≤ watched.generation) {mailbox : Mailbox}
    (orderly : mailbox.Orderly)
    (reports : ∀ report ∈ mailbox.reports, report ∈ control.mailbox.reports)
    (blocked : ∀ report ∈ mailbox.blocked,
      report ∈ control.mailbox.blocked ∧ report.slot ≠ watched.slot)
    {further : Option Slot} (only : ∀ slot, further = some slot → slot = watched.slot) :
    Postal (Control.put { control with mailbox := mailbox } watched) further := by
  refine ⟨orderly, ?_, ?_⟩
  · intro report reportMember other otherMember own
    have aged := postal.aged report (reports report reportMember)
    rcases Control.mem_put otherMember with rfl | ⟨kept, -⟩
    · exact Nat.le_trans (aged former member (same.trans own)) newer
    · exact aged other kept own
  · intro report reportMember
    rcases blocked report reportMember with ⟨waiting, different⟩
    refine ⟨fun allowed => different (only _ allowed), ?_⟩
    intro other otherMember own
    rcases Control.mem_put otherMember with rfl | ⟨kept, -⟩
    · exact absurd own.symm different
    · exact (postal.fresh report waiting).2 other kept own

end Postal

end Supervisor

end Convoy
