import Convoy.Proofs.Gate.Timing

/-!
# Waiting for several targets

Targets are waited for one after another, and each gets what the others before it have left of the
time. If every attempt is answered in time and no timer is late, the tour is over when the time is,
and what it says when it fails is about the one target that it did not reach. More time does not
change a tour that reaches all targets, as long as the clock reaches the later deadline: only the
budget of the last attempt for a target depends on the time that is left, and that attempt succeeds.
-/

namespace Convoy

/-- Whether an attempt that succeeds with some budget succeeds in the same way with a larger one. -/
def Connector.Steady (connector : Connector) : Prop :=
  ∀ target now budget larger, budget ≤ larger → (connector target now budget).refusal = none →
    connector target now larger = connector target now budget

/-- An attempt without its budget: when it was made, and how it ended. -/
def Attempt.unbudgeted (attempt : Attempt) : Attempt := { attempt with budget := .zero }

/-- A wait without the budgets of its attempts. -/
def Wait.unbudgeted (wait : Wait) : Wait :=
  { wait with attempts := wait.attempts.map (·.unbudgeted) }

namespace Gate

namespace Tour

/-- The targets that were waited for, in order. -/
def targets (tour : Tour) : List Address := tour.visits.map (·.1.target)

/-- The courses of the waits for these targets. -/
def waits (tour : Tour) : List Wait := tour.visits.map (·.2.2)

end Tour

variable {gate : Gate} {timer : Timer} {connector : Connector}
  {begun now timeout interval : Duration}

/-! ## The shared deadline -/

/-- What one wait comes to if every attempt is answered in time: a connection, which is the only
attempt that succeeded, no attempt that succeeded by the deadline, or a crash before it. -/
theorem wait_cases (exact : timer.Exact) (punctual : connector.Punctual) :
    (∃ waited ≤ gate.timeout, (gate.wait timer connector begun).result = .ok waited ∧
      (gate.wait timer connector begun).finished = begun + waited ∧
      (gate.wait timer connector begun).attempts.countP (·.succeeded) = 1) ∨
    ((gate.wait timer connector begun).result =
        .error (.gate (.timeout gate.target.target gate.timeout
          (.ofNat (gate.wait timer connector begun).attempts.length))) ∧
      (gate.wait timer connector begun).finished = begun + gate.timeout ∧
      ∀ attempt ∈ (gate.wait timer connector begun).attempts, attempt.succeeded = false) ∨
    (Crashes (gate.wait timer connector begun).result ∧
      (gate.wait timer connector begun).finished ≤ begun + gate.timeout) := by
  by_cases fits : (begun + gate.timeout).IsInstant
  case neg =>
    rw [wait_of_not_isInstant fits]
    exact .inr (.inr ⟨rfl, Nat.le_add_right _ _⟩)
  by_cases succeeds : ∃ count < gate.slots, (gate.trial connector begun count).succeeded = true
  · obtain ⟨count, inTime, succeeded, first⟩ := exists_first succeeds
    obtain ⟨waited, short, -, course⟩ := wait_of_first exact punctual fits inTime succeeded first
    refine .inl ⟨waited, short, by rw [course], by rw [course], ?_⟩
    have refused : ((List.range count).map (gate.trial connector begun)).countP
        (·.succeeded) = 0 := by
      rw [List.countP_eq_zero, List.forall_mem_map]
      intro earlier before
      simpa using first earlier (List.mem_range.1 before)
    rw [course, List.range_succ, List.map_append, List.countP_append, refused]
    simp [succeeded]
  · have refused : ∀ count < gate.slots, (gate.trial connector begun count).succeeded = false :=
      fun count inTime => Bool.eq_false_iff.2 fun succeeded => succeeds ⟨count, inTime, succeeded⟩
    by_cases whole : (gate.due begun gate.slots).IsInstant
    · rw [wait_of_none exact punctual whole refused]
      refine .inr (.inl ⟨by simp [timeoutError], rfl, ?_⟩)
      rw [List.forall_mem_map]
      exact fun count inTime => refused count (List.mem_range.1 inTime)
    · have last : gate.slots - 1 < gate.slots := Nat.sub_one_lt_of_lt (slots_pos_of_lost fits whole)
      rw [wait_of_lost exact punctual fits whole refused]
      refine .inr (.inr ⟨rfl, ?_⟩)
      exact attempt_due ▸ finished_attempt_le punctual (due_lt_deadline_iff.2 last)

/-- The gate for a target that is turned to at an instant: its time is what is left. -/
def gateAt (timeout interval begun now : Duration) (target : Address) : Gate :=
  (ofTarget target (timeout - (now - begun))).withInterval interval

/-- What is left of the time is over when all of it is. -/
theorem deadline_gateAt {target : Address} (after : begun ≤ now) (inTime : now ≤ begun + timeout) :
    now + (gateAt timeout interval begun now target).timeout = begun + timeout := by
  have later : begun.nanos ≤ now.nanos := after
  have before : now.nanos ≤ begun.nanos + timeout.nanos := inTime
  apply congrArg Duration.mk
  show now.nanos + (timeout.nanos - (now.nanos - begun.nanos)) = begun.nanos + timeout.nanos
  omega

section Step

variable {target : Address} {rest : List (Address × Connector)}

/-- A tour goes on after a target that it has reached. -/
theorem tourFrom_of_reached {waited : Duration}
    (reached : ((gateAt timeout interval begun now target).wait timer connector now).result =
      .ok waited) :
    tourFrom timer timeout interval begun ((target, connector) :: rest) now =
      let gate := gateAt timeout interval begun now target
      let wait := gate.wait timer connector now
      let others := tourFrom timer timeout interval begun rest wait.finished
      { others with visits := (gate, now, wait) :: others.visits } := by
  unfold gateAt at reached
  simp only [tourFrom, reached, gateAt]

/-- A tour ends at the first target that it does not reach. -/
theorem tourFrom_of_failed {cause : Cause}
    (failed : ((gateAt timeout interval begun now target).wait timer connector now).result =
      .error cause) :
    tourFrom timer timeout interval begun ((target, connector) :: rest) now =
      let gate := gateAt timeout interval begun now target
      let wait := gate.wait timer connector now
      ⟨.error (overall timeout cause), wait.finished, [(gate, now, wait)]⟩ := by
  unfold gateAt at failed
  simp only [tourFrom, failed, gateAt]

end Step

/-- What makes a tour crash: that there is a target to wait for and the clock does not reach the
deadline, or a refused attempt for one of them whose interval the clock does not reach the end of. -/
def OutOfClock (timeout interval begun : Duration) (targets : List Address) (tour : Tour) : Prop :=
  (targets ≠ [] ∧ ¬ (begun + timeout).IsInstant) ∨
    ∃ wait ∈ tour.waits, ∃ attempt ∈ wait.attempts, attempt.Overruns (max interval leastInterval)

/-- What waiting for some targets comes to if every attempt is answered in time and no timer is
late. -/
structure KeepsDeadline (timeout interval begun : Duration) (targets : List Address) (tour : Tour) :
    Prop where
  inTime : tour.finished ≤ begun + timeout
  /-- A tour that succeeds has reached each target, by the one attempt that succeeded. -/
  reached : ∀ waited, tour.result = .ok waited →
    tour.finished = begun + waited ∧ tour.targets = targets ∧
      ∀ wait ∈ tour.waits, wait.attempts.countP (·.succeeded) = 1
  /-- A tour that fails, but does not crash, does so at the deadline. It has reached the targets
  before one, has not reached that one, and has made no attempt for the others. What it reports is
  the target that it has not reached, the time that all targets had, and the attempts for that
  target, which are counted with 32 bits. -/
  failed : ∀ cause, tour.result = .error cause → ¬ Crashes tour.result →
    tour.finished = begun + timeout ∧
      ∃ earlier target later waits last,
        targets = earlier ++ target :: later ∧ tour.targets = earlier ++ [target] ∧
          tour.waits = waits ++ [last] ∧
          (∀ wait ∈ waits, wait.attempts.countP (·.succeeded) = 1) ∧
          (∀ attempt ∈ last.attempts, attempt.succeeded = false) ∧
          cause = .gate (.timeout target.target timeout (.ofNat last.attempts.length))
  crashes_iff : Crashes tour.result ↔ OutOfClock timeout interval begun targets tour

namespace KeepsDeadline

/-- A tour without targets ends at once. -/
theorem nil (after : begun ≤ now) (inTime : now ≤ begun + timeout) :
    KeepsDeadline timeout interval begun [] ⟨.ok (now - begun), now, []⟩ where
  inTime := inTime
  reached waited same := by
    cases same
    exact ⟨congrArg Duration.mk (Nat.add_sub_cancel' after).symm, rfl,
      fun _ member => (List.not_mem_nil member).elim⟩
  failed _ same := nomatch same
  crashes_iff := by simp [Crashes, OutOfClock, Tour.waits]

section Visit

variable {targets : List Address} {wait : Wait}

/-- One more target before the others, which is reached. -/
theorem cons (gate : Gate) {tour : Tour} (fits : (begun + timeout).IsInstant)
    (spared : ∀ attempt ∈ wait.attempts, ¬ attempt.Overruns (max interval leastInterval))
    (reached : wait.attempts.countP (·.succeeded) = 1)
    (others : KeepsDeadline timeout interval begun targets tour) :
    KeepsDeadline timeout interval begun (gate.target :: targets)
      { tour with visits := (gate, now, wait) :: tour.visits } where
  inTime := others.inTime
  reached waited same := by
    obtain ⟨finished, visited, each⟩ := others.reached waited same
    exact ⟨finished, congrArg (gate.target :: ·) visited, List.forall_mem_cons.2 ⟨reached, each⟩⟩
  failed cause same sound := by
    obtain ⟨finished, earlier, target, later, waits, last, split, visited, courses, each, none_,
      reports⟩ := others.failed cause same sound
    exact ⟨finished, gate.target :: earlier, target, later, wait :: waits, last,
      congrArg (gate.target :: ·) split, congrArg (gate.target :: ·) visited,
      congrArg (wait :: ·) courses, List.forall_mem_cons.2 ⟨reached, each⟩, none_, reports⟩
  crashes_iff := by
    refine others.crashes_iff.trans ⟨?_, ?_⟩
    · rintro (⟨-, lost⟩ | ⟨course, member, overruns⟩)
      · exact absurd fits lost
      · exact .inr ⟨course, List.mem_cons_of_mem _ member, overruns⟩
    · rintro (⟨-, lost⟩ | ⟨course, member, attempt, made, overruns⟩)
      · exact absurd fits lost
      · rcases List.mem_cons.1 member with rfl | member
        · exact absurd overruns (spared attempt made)
        · exact .inr ⟨course, member, attempt, made, overruns⟩

/-- A target that is not reached, with any others behind it. -/
theorem of_unreached (gate : Gate) (fits : (begun + timeout).IsInstant)
    (spared : ∀ attempt ∈ wait.attempts, ¬ attempt.Overruns (max interval leastInterval))
    (finished : wait.finished = begun + timeout)
    (refused : ∀ attempt ∈ wait.attempts, attempt.succeeded = false) :
    KeepsDeadline timeout interval begun (gate.target :: targets)
      ⟨.error (.gate (.timeout gate.target.target timeout (.ofNat wait.attempts.length))),
        wait.finished, [(gate, now, wait)]⟩ where
  inTime := Nat.le_of_eq (congrArg Duration.nanos finished)
  reached _ same := nomatch same
  failed cause same _ := by
    cases same
    exact ⟨finished, [], gate.target, targets, [], wait, rfl, rfl, rfl,
      fun _ member => (List.not_mem_nil member).elim, refused, rfl⟩
  crashes_iff := by
    refine iff_of_false nofun ?_
    rintro (⟨-, lost⟩ | ⟨course, member, attempt, made, overruns⟩)
    · exact lost fits
    · obtain rfl := List.mem_singleton.1 member
      exact spared attempt made overruns

/-- A target at which the tour crashes, with any others behind it. -/
theorem of_crashed (gate : Gate) (inTime : wait.finished ≤ begun + timeout)
    (out : ¬ (begun + timeout).IsInstant ∨
      ∃ attempt ∈ wait.attempts, attempt.Overruns (max interval leastInterval)) :
    KeepsDeadline timeout interval begun (gate.target :: targets)
      ⟨.error (.overflow .instant), wait.finished, [(gate, now, wait)]⟩ where
  inTime := inTime
  reached _ same := nomatch same
  failed _ _ sound := absurd rfl sound
  crashes_iff := by
    refine iff_of_true rfl (out.imp (fun lost => ⟨List.cons_ne_nil _ _, lost⟩) fun overruns => ?_)
    exact ⟨wait, List.mem_singleton_self _, overruns⟩

end Visit

end KeepsDeadline

theorem tourFrom_keepsDeadline {stops : List (Address × Connector)} (exact : timer.Exact)
    (punctual : ∀ stop ∈ stops, stop.2.Punctual) (after : begun ≤ now)
    (inTime : now ≤ begun + timeout) :
    KeepsDeadline timeout interval begun (stops.map (·.1))
      (tourFrom timer timeout interval begun stops now) := by
  induction stops generalizing now with
  | nil => exact .nil after inTime
  | cons stop rest induction =>
    obtain ⟨target, connector⟩ := stop
    obtain ⟨answered, others⟩ := List.forall_mem_cons.1 punctual
    have deadline := @deadline_gateAt begun now timeout interval target after inTime
    have crashes := @crashes_wait_iff (gateAt timeout interval begun now target) timer connector now
    rw [deadline] at crashes
    rcases @wait_cases (gateAt timeout interval begun now target) timer connector now exact answered
      with ⟨waited, short, reached, finished, once⟩ | ⟨failed, finished, refused⟩ |
        ⟨crashed, finished⟩
    · -- A wait that has a result has not crashed.
      rw [reached] at crashes
      obtain ⟨fits, spared⟩ := not_or.1 (crashes.not.1 nofun)
      rw [tourFrom_of_reached reached]
      refine .cons (gateAt timeout interval begun now target) (not_not.1 fits)
        (fun attempt made overruns => spared ⟨attempt, made, overruns⟩) once (induction others ?_ ?_)
      · rw [finished]
        exact Nat.le_trans after (Nat.le_add_right _ _)
      · rw [finished, ← deadline]
        exact Nat.add_le_add_left short _
    · rw [failed] at crashes
      obtain ⟨fits, spared⟩ := not_or.1 (crashes.not.1 nofun)
      rw [tourFrom_of_failed failed]
      exact .of_unreached (gateAt timeout interval begun now target) (not_not.1 fits)
        (fun attempt made overruns => spared ⟨attempt, made, overruns⟩) (finished.trans deadline)
        refused
    · rw [tourFrom_of_failed crashed]
      exact .of_crashed (gateAt timeout interval begun now target) (deadline ▸ finished)
        (crashes.1 crashed)

/-! ## More time -/

section Longer

variable {shorter longer : Gate} {made : Nat}

/-- Before the last interval, an attempt may take a whole one. -/
theorem budget_of_spare {deadline : Duration} (spare : now + gate.pollInterval ≤ deadline) :
    gate.budget deadline now = gate.pollInterval := by
  have fits : now.nanos + gate.pollInterval.nanos ≤ deadline.nanos := spare
  apply congrArg Duration.mk
  show min (deadline.nanos - now.nanos) gate.pollInterval.nanos = gate.pollInterval.nanos
  omega

/-- Before the last interval, the next attempt is due after a whole one. -/
theorem nextStart_of_spare {deadline finished : Duration}
    (spare : now + gate.pollInterval ≤ deadline) :
    gate.nextStart timer deadline now finished = timer.wake finished (now + gate.pollInterval) :=
  congrArg (timer.wake finished) (congrArg Duration.mk (Nat.min_eq_left spare))

/-- If the time is not over when the next attempt is made, there was a whole interval for the last
one. -/
theorem spare_of_nextStart_lt {deadline finished : Duration}
    (inTime : gate.nextStart timer deadline now finished < deadline) :
    now + gate.pollInterval ≤ deadline := by
  have notEarly : max finished.nanos (min (now.nanos + gate.pollInterval.nanos) deadline.nanos) ≤
      (gate.nextStart timer deadline now finished).nanos := timer.notEarly _ _
  have due : (gate.nextStart timer deadline now finished).nanos < deadline.nanos := inTime
  show now.nanos + gate.pollInterval.nanos ≤ deadline.nanos
  omega

/-- An attempt that succeeds succeeds in the same way at a gate that has more time. -/
theorem unbudgeted_attempt_of_succeeded (steady : connector.Steady)
    (target : longer.target = shorter.target)
    (interval : longer.pollInterval = shorter.pollInterval)
    {deadline later : Duration} (extended : deadline ≤ later)
    (succeeded : (shorter.attempt connector deadline now).succeeded = true) :
    (longer.attempt connector later now).unbudgeted =
      (shorter.attempt connector deadline now).unbudgeted := by
  have more : shorter.budget deadline now ≤ longer.budget later now := by
    have order : deadline.nanos ≤ later.nanos := extended
    show min (deadline.nanos - now.nanos) shorter.pollInterval.nanos ≤
      min (later.nanos - now.nanos) longer.pollInterval.nanos
    rw [interval]
    omega
  have answer := steady shorter.target now _ _ more (Option.isNone_iff_eq_none.1 succeeded)
  simp only [attempt, Attempt.unbudgeted, target, answer]

/-- A wait that gets a connection gets it in the same way at a gate that has more time. -/
theorem unbudgeted_waitFrom_of_reached (steady : connector.Steady)
    (target : longer.target = shorter.target)
    (interval : longer.pollInterval = shorter.pollInterval)
    (extended : shorter.timeout ≤ longer.timeout) {waited : Duration}
    (reached : (shorter.waitFrom timer connector begun made now).result = .ok waited) :
    (longer.waitFrom timer connector begun made now).unbudgeted =
      (shorter.waitFrom timer connector begun made now).unbudgeted := by
  have deadlines : begun + shorter.timeout ≤ begun + longer.timeout :=
    Nat.add_le_add_left extended _
  induction made, now using @wait_induction shorter timer connector begun with
  | late made now late =>
    rw [waitFrom_of_late late] at reached
    nomatch reached
  | succeeded made now inTime succeeded =>
    have same := unbudgeted_attempt_of_succeeded steady target interval deadlines succeeded
    have also : (longer.attempt connector (begun + longer.timeout) now).succeeded = true :=
      (congrArg Attempt.succeeded same).trans succeeded
    rw [waitFrom_of_succeeded inTime succeeded,
      waitFrom_of_succeeded (Nat.lt_of_lt_of_le inTime deadlines) also]
    have finished := congrArg Attempt.finished same
    change (longer.attempt connector (begun + longer.timeout) now).finished =
      (shorter.attempt connector (begun + shorter.timeout) now).finished at finished
    simp only [Wait.unbudgeted, List.map_cons, List.map_nil, same, finished]
  | overrun made now inTime refused lost =>
    rw [waitFrom_of_overrun inTime refused lost] at reached
    nomatch reached
  | refused made now inTime refused fits induction =>
    rw [waitFrom_of_refused inTime refused fits] at reached ⊢
    -- The time is not over at the next attempt, or there would be no connection.
    have next : shorter.nextStart timer (begun + shorter.timeout) now
        (shorter.attempt connector (begun + shorter.timeout) now).finished <
          begun + shorter.timeout := by
      by_contra late
      dsimp only at reached
      rw [waitFrom_of_late late] at reached
      nomatch reached
    have spare := spare_of_nextStart_lt next
    have spareToo : now + longer.pollInterval ≤ begun + longer.timeout :=
      interval ▸ Nat.le_trans spare deadlines
    have same : longer.attempt connector (begun + longer.timeout) now =
        shorter.attempt connector (begun + shorter.timeout) now := by
      unfold attempt
      rw [budget_of_spare spare, budget_of_spare spareToo, target, interval]
    have due : longer.nextStart timer (begun + longer.timeout) now
          (shorter.attempt connector (begun + shorter.timeout) now).finished =
        shorter.nextStart timer (begun + shorter.timeout) now
          (shorter.attempt connector (begun + shorter.timeout) now).finished := by
      rw [nextStart_of_spare spare, nextStart_of_spare spareToo, interval]
    have others := induction reached
    rw [waitFrom_of_refused (Nat.lt_of_lt_of_le inTime deadlines) (same ▸ refused)
      (interval ▸ fits)]
    dsimp only
    rw [same, due]
    exact congrArg (Wait.after (shorter.attempt connector _ now).unbudgeted) others

/-- The clock reaches the deadline of a wait that gets a connection. -/
theorem isInstant_of_reached {waited : Duration}
    (reached : (gate.wait timer connector begun).result = .ok waited) :
    (begun + gate.timeout).IsInstant := by
  by_contra lost
  rw [wait_of_not_isInstant lost] at reached
  nomatch reached

theorem unbudgeted_wait_of_reached (steady : connector.Steady)
    (target : longer.target = shorter.target)
    (interval : longer.pollInterval = shorter.pollInterval)
    (extended : shorter.timeout ≤ longer.timeout) (fits : (begun + longer.timeout).IsInstant)
    {waited : Duration} (reached : (shorter.wait timer connector begun).result = .ok waited) :
    (longer.wait timer connector begun).unbudgeted =
      (shorter.wait timer connector begun).unbudgeted := by
  have fitsToo := isInstant_of_reached reached
  rw [wait_of_isInstant fitsToo] at reached ⊢
  rw [wait_of_isInstant fits]
  exact unbudgeted_waitFrom_of_reached steady target interval extended reached

end Longer

/-- Whether two tours take the same course, apart from the time that their gates have and from the
budgets of their attempts. -/
structure Tour.SameCourse (first second : Tour) : Prop where
  result : first.result = second.result
  finished : first.finished = second.finished
  targets : first.targets = second.targets
  waits : first.waits.map (·.unbudgeted) = second.waits.map (·.unbudgeted)

/-- The time of a gate is not over when a wait begins that gets a connection. -/
theorem inTime_of_reached {waited : Duration}
    (reached : (gate.wait timer connector begun).result = .ok waited) :
    begun < begun + gate.timeout := by
  by_contra late
  rw [wait_of_isInstant (isInstant_of_reached reached), waitFrom_of_late late] at reached
  nomatch reached

/-- A target that is reached is turned to before the deadline. -/
theorem inTime_of_reached_gateAt {target : Address} {waited : Duration}
    (reached : ((gateAt timeout interval begun now target).wait timer connector now).result =
      .ok waited) : now ≤ begun + timeout := by
  have spare : now.nanos < now.nanos + (timeout.nanos - (now.nanos - begun.nanos)) :=
    inTime_of_reached reached
  show now.nanos ≤ begun.nanos + timeout.nanos
  omega

/-- The deadline for one target is not after the one for all. -/
theorem deadline_gateAt_le {target : Address} (inTime : now ≤ begun + timeout) :
    now + (gateAt timeout interval begun now target).timeout ≤ begun + timeout := by
  have before : now.nanos ≤ begun.nanos + timeout.nanos := inTime
  show now.nanos + (timeout.nanos - (now.nanos - begun.nanos)) ≤ begun.nanos + timeout.nanos
  omega

/-- A tour that reaches all targets takes the same course if it has more time and the clock reaches
the later deadline. -/
theorem sameCourse_tourFrom {stops : List (Address × Connector)}
    (steady : ∀ stop ∈ stops, stop.2.Steady) {longer waited : Duration}
    (extended : timeout ≤ longer) (fits : (begun + longer).IsInstant)
    (reached : (tourFrom timer timeout interval begun stops now).result = .ok waited) :
    (tourFrom timer longer interval begun stops now).SameCourse
      (tourFrom timer timeout interval begun stops now) := by
  induction stops generalizing now with
  | nil => exact ⟨rfl, rfl, rfl, rfl⟩
  | cons stop rest induction =>
    obtain ⟨target, connector⟩ := stop
    obtain ⟨answered, others⟩ := List.forall_mem_cons.1 steady
    cases connected :
        ((gateAt timeout interval begun now target).wait timer connector now).result with
    | error error =>
      rw [tourFrom_of_failed connected] at reached
      nomatch reached
    | ok spent =>
      have inTime : now ≤ begun + longer :=
        Nat.le_trans (inTime_of_reached_gateAt connected) (Nat.add_le_add_left extended _)
      have same : ((gateAt longer interval begun now target).wait timer connector now).unbudgeted =
          ((gateAt timeout interval begun now target).wait timer connector now).unbudgeted :=
        unbudgeted_wait_of_reached answered rfl rfl (Nat.sub_le_sub_right extended _)
          (Nat.lt_of_le_of_lt (deadline_gateAt_le inTime) fits) connected
      have also : ((gateAt longer interval begun now target).wait timer connector now).result =
          .ok spent := (congrArg Wait.result same).trans connected
      have finished : ((gateAt longer interval begun now target).wait timer connector now).finished =
          ((gateAt timeout interval begun now target).wait timer connector now).finished :=
        (congrArg Wait.finished same :)
      rw [tourFrom_of_reached connected] at reached ⊢
      rw [tourFrom_of_reached also]
      dsimp only
      rw [finished]
      have course := induction others reached
      exact ⟨course.result, course.finished, congrArg (target :: ·) course.targets,
        congrArg₂ List.cons same course.waits⟩

/-- A tour crashes at its first target if the clock does not reach the deadline. -/
theorem crashes_waitAll_of_lost {targets : List Address} (some_ : targets ≠ [])
    (lost : ¬ (begun + timeout).IsInstant) :
    Crashes (waitAll timer connector targets timeout interval begun).result := by
  obtain ⟨target, rest, rfl⟩ := List.exists_cons_of_ne_nil some_
  have deadline := @deadline_gateAt begun begun timeout interval target (Nat.le_refl _)
    (Nat.le_add_right _ _)
  have crashed := @crashes_wait_iff (gateAt timeout interval begun begun target) timer connector
    begun
  rw [deadline] at crashed
  have failed := crashed.2 (.inl lost)
  rw [waitAll, List.map_cons, tourFrom_of_failed failed]
  rfl

/-- All targets share one deadline, whatever each of them answers, as long as it answers in time and
no timer is late; the tour crashes exactly if it runs out of clock. A tour that reaches all targets
takes the same course if it has more time, exactly if the clock reaches the later deadline or there is
no target, provided that an attempt that succeeds does not depend on how much more time it could have
taken. -/
theorem tour_keeps_deadline (timer : Timer) (timeout interval begun : Duration) :
    (timer.Exact → ∀ stops : List (Address × Connector), (∀ stop ∈ stops, stop.2.Punctual) →
      KeepsDeadline timeout interval begun (stops.map (·.1))
        (tourFrom timer timeout interval begun stops begun)) ∧
    ∀ (connector : Connector) (targets : List Address) (longer waited : Duration),
      connector.Steady → timeout ≤ longer →
        (waitAll timer connector targets timeout interval begun).result = .ok waited →
          ((waitAll timer connector targets longer interval begun).SameCourse
              (waitAll timer connector targets timeout interval begun) ↔
            targets = [] ∨ (begun + longer).IsInstant) := by
  constructor
  · intro exact stops punctual
    exact tourFrom_keepsDeadline exact punctual (Nat.le_refl _) (Nat.le_add_right _ _)
  · intro connector targets longer waited steady extended reached
    constructor
    · intro same
      by_contra out
      obtain ⟨some_, lost⟩ := not_or.1 out
      exact (crashes_waitAll_of_lost some_ lost).ne_ok waited (same.result.trans reached)
    · rintro (rfl | fits)
      · exact ⟨rfl, rfl, rfl, rfl⟩
      · refine sameCourse_tourFrom (fun stop member => ?_) extended fits reached
        obtain ⟨target, -, rfl⟩ := List.mem_map.1 member
        exact steady

/-- A cache that accepts connections after one second, a database that does after three, and a tenth
of a second that each attempt takes. -/
def leisurely : Connector := fun target now budget =>
  if budget < .ofMillis 100 then ⟨budget, some "connection attempt timed out"⟩
  else
    ⟨.ofMillis 100,
      if now < if target.host = "redis" then .ofSeconds 1 else .ofSeconds 3 then
        some "Connection refused (os error 111)"
      else none⟩

/-- The cache and the database. -/
def leisurely.targets : List Address := [⟨"redis", 6379⟩, ⟨"postgres", 5432⟩]

theorem leisurely_keeps_deadline :
    Timer.exact.Exact ∧ leisurely.Punctual ∧ leisurely.Steady ∧
      KeepsDeadline (.ofSeconds 2) (.ofMillis 700) .zero leisurely.targets
        (waitAll .exact leisurely leisurely.targets (.ofSeconds 2) (.ofMillis 700) .zero) ∧
      (waitAll .exact leisurely leisurely.targets (.ofSeconds 2) (.ofMillis 700) .zero).result =
        .error (.gate (.timeout "postgres:5432" (.ofSeconds 2) 1)) ∧
      (waitAll .exact leisurely leisurely.targets (.ofMillis 3700) (.ofMillis 700) .zero).result =
        .ok (.ofMillis 3700) ∧
      (waitAll .exact leisurely leisurely.targets (.ofSeconds 10) (.ofMillis 700) .zero).SameCourse
        (waitAll .exact leisurely leisurely.targets (.ofMillis 3700) (.ofMillis 700) .zero) := by
  have exact : Timer.exact.Exact := fun _ _ => rfl
  have punctual : leisurely.Punctual := by
    intro target now budget
    unfold leisurely
    split
    · exact Nat.le_refl _
    · next enough => exact Nat.le_of_not_lt enough
  have steady : leisurely.Steady := by
    intro target now budget larger more succeeded
    unfold leisurely at succeeded ⊢
    split at succeeded
    · nomatch succeeded
    · next enough =>
      have still : ¬ larger < .ofMillis 100 := fun short => enough (Nat.lt_of_le_of_lt more short)
      rw [if_neg enough, if_neg still]
  have reached : (waitAll .exact leisurely leisurely.targets (.ofMillis 3700) (.ofMillis 700)
      .zero).result = .ok (.ofMillis 3700) := by decide +kernel
  refine ⟨exact, punctual, steady, ?_, by decide +kernel, reached, ?_⟩
  · refine (tour_keeps_deadline .exact (.ofSeconds 2) (.ofMillis 700) .zero).1 exact
      (leisurely.targets.map (·, leisurely)) fun stop member => ?_
    obtain ⟨target, -, rfl⟩ := List.mem_map.1 member
    exact punctual
  · exact ((tour_keeps_deadline .exact (.ofMillis 3700) (.ofMillis 700) .zero).2 leisurely
      leisurely.targets (.ofSeconds 10) _ steady (by decide) reached).2 (.inr (by decide))

/-- Waiting for a second at an address that refuses does not fail at the deadline, if the interval
ends after the end of the clock. -/
theorem farsighted_tour_crashes :
    Timer.exact.Exact ∧ refusing.Punctual ∧
      Crashes (waitAll .exact refusing [⟨"127.0.0.1", 1⟩] (.ofSeconds 1)
        (.ofSeconds (300000000000 * 31557600)) .zero).result ∧
      (waitAll .exact refusing [⟨"127.0.0.1", 1⟩] (.ofSeconds 1)
        (.ofSeconds (300000000000 * 31557600)) .zero).finished ≠ .zero + .ofSeconds 1 :=
  ⟨fun _ _ => rfl, fun _ _ _ => Nat.zero_le _, by unfold Crashes; decide +kernel, by decide +kernel⟩

end Gate

end Convoy
