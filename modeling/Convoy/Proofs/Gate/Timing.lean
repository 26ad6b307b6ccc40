import Convoy.Proofs.Gate
import Mathlib.Algebra.Order.Floor.Div

/-!
# The timing of a gate

Attempts are due at whole multiples of the interval, as long as these lie before the deadline. If
every attempt is answered within its budget and no timer is late, a wait makes exactly the attempts
that are due, in order, up to the first one that succeeds; if none does, it ends at the deadline. A
wait crashes if the clock does not reach the deadline, or if it does not reach the end of the last
interval and that interval is needed. Whatever the answers take and the timers do, no attempt starts
at the deadline or after it.
-/

namespace Convoy

namespace Gate

/-- How many attempts are due before the time is over: the time by the interval, rounded up. -/
def slots (gate : Gate) : Nat := gate.timeout.nanos ⌈/⌉ gate.pollInterval.nanos

/-- When an attempt is due that has so many intervals before it. -/
def due (gate : Gate) (begun : Duration) (count : Nat) : Duration :=
  begun + gate.pollInterval.scale count

/-- The attempt that is due after so many intervals. Its budget is an interval, or the time that is
left. -/
def trial (gate : Gate) (connector : Connector) (begun : Duration) (count : Nat) : Attempt :=
  let budget := min gate.pollInterval (gate.timeout - gate.pollInterval.scale count)
  let answer := connector gate.target (gate.due begun count) budget
  ⟨gate.due begun count, budget, gate.due begun count + answer.delay, answer.refusal⟩

variable {gate : Gate} {timer : Timer} {connector : Connector} {begun now : Duration}
  {count made : Nat}

theorem pollInterval_pos (gate : Gate) : 0 < gate.pollInterval.nanos :=
  Nat.lt_of_lt_of_le (by decide) gate.spaced

theorem nanos_due : (gate.due begun count).nanos =
    begun.nanos + gate.pollInterval.nanos * count := rfl

/-- Of the multiples of the interval, those that come before the time is over are due. -/
theorem lt_slots_iff : count < gate.slots ↔ gate.pollInterval.scale count < gate.timeout := by
  rw [slots, ← Nat.not_le, ceilDiv_le_iff_le_mul gate.pollInterval_pos, Nat.not_le]
  exact Iff.rfl

theorem due_lt_deadline_iff : gate.due begun count < begun + gate.timeout ↔
    count < gate.slots := by
  rw [lt_slots_iff, Duration.lt_iff, Duration.lt_iff, nanos_due, Duration.nanos_add]
  exact Nat.add_lt_add_iff_left

/-- An attempt that is due is not held up by the deadline. -/
theorem min_due (inTime : count < gate.slots) :
    min (gate.due begun count) (begun + gate.timeout) = gate.due begun count :=
  congrArg Duration.mk (Nat.min_eq_left (Nat.le_of_lt (due_lt_deadline_iff.2 inTime)))

/-- The attempt that a wait makes when one is due. -/
theorem attempt_due :
    gate.attempt connector (begun + gate.timeout) (gate.due begun count) =
      gate.trial connector begun count := by
  have budget : gate.budget (begun + gate.timeout) (gate.due begun count) =
      min gate.pollInterval (gate.timeout - gate.pollInterval.scale count) := by
    apply congrArg Duration.mk
    show min (begun.nanos + gate.timeout.nanos - (begun.nanos + _)) _ = _
    rw [Nat.add_sub_add_left, Nat.min_comm]
    rfl
  rw [attempt, budget]
  rfl

/-- The clock reaches every attempt that is due, if it reaches the deadline. -/
theorem isInstant_due (fits : (begun + gate.timeout).IsInstant) (inTime : count < gate.slots) :
    (gate.due begun count).IsInstant :=
  Nat.lt_trans (due_lt_deadline_iff.2 inTime) fits

theorem isInstant_due_of_le {last : Nat} (fits : (gate.due begun last).IsInstant)
    (before : count ≤ last) : (gate.due begun count).IsInstant :=
  Nat.lt_of_le_of_lt (Nat.add_le_add_left (Nat.mul_le_mul_left _ before) _) fits

/-- The deadline does not come after the end of the last interval. -/
theorem deadline_le_due_slots : begun + gate.timeout ≤ gate.due begun gate.slots :=
  Nat.le_of_not_lt fun inTime => Nat.lt_irrefl _ (due_lt_deadline_iff.1 inTime)

/-- The interval of an attempt ends when the next one is due. -/
theorem due_add_pollInterval :
    gate.due begun count + gate.pollInterval = gate.due begun (count + 1) :=
  congrArg Duration.mk (Nat.add_assoc _ _ _)

/-- After an attempt that was answered in time, the next one is due, or the time is over. -/
theorem nextStart_trial (exact : timer.Exact) (punctual : connector.Punctual)
    (inTime : count < gate.slots) :
    gate.nextStart timer (begun + gate.timeout) (gate.due begun count)
        (gate.trial connector begun count).finished =
      min (gate.due begun (count + 1)) (begun + gate.timeout) := by
  have before : (gate.due begun count).nanos < begun.nanos + gate.timeout.nanos :=
    due_lt_deadline_iff.2 inTime
  have answered : (connector gate.target (gate.due begun count) (min gate.pollInterval
      (gate.timeout - gate.pollInterval.scale count))).delay.nanos ≤
        min gate.pollInterval.nanos (gate.timeout.nanos - gate.pollInterval.nanos * count) :=
    punctual _ _ _
  have finished : (gate.trial connector begun count).finished.nanos =
      (gate.due begun count).nanos + (connector gate.target (gate.due begun count)
        (min gate.pollInterval (gate.timeout - gate.pollInterval.scale count))).delay.nanos := rfl
  rw [nextStart, exact]
  apply congrArg Duration.mk
  show max (gate.trial connector begun count).finished.nanos
    (min ((gate.due begun count).nanos + gate.pollInterval.nanos)
      (begun.nanos + gate.timeout.nanos)) =
      min (gate.due begun (count + 1)).nanos (begun.nanos + gate.timeout.nanos)
  rw [finished]
  simp only [nanos_due, Nat.mul_succ] at *
  omega

/-- After an attempt that was due and refused in time, the wait goes on with the next one. -/
theorem waitFrom_of_trial_refused (exact : timer.Exact) (punctual : connector.Punctual)
    (isDue : count < gate.slots)
    (refused : (gate.trial connector begun count).succeeded = false)
    (fits : (gate.due begun (count + 1)).IsInstant) :
    gate.waitFrom timer connector begun made (min (gate.due begun count) (begun + gate.timeout)) =
      (gate.waitFrom timer connector begun (made + 1)
        (min (gate.due begun (count + 1)) (begun + gate.timeout))).after
          (gate.trial connector begun count) := by
  rw [min_due isDue, waitFrom_of_refused (due_lt_deadline_iff.2 isDue) (attempt_due ▸ refused)
    (due_add_pollInterval ▸ fits), attempt_due]
  dsimp only
  rw [nextStart_trial exact punctual isDue]

/-- An attempt that succeeds when it is due ends the wait, if no attempt since some instant has
succeeded before. -/
theorem waitFrom_of_first (exact : timer.Exact) (punctual : connector.Punctual)
    (fits : (begun + gate.timeout).IsInstant) {last : Nat} (reached : count ≤ last)
    (inTime : last < gate.slots)
    (succeeded : (gate.trial connector begun last).succeeded = true)
    (first : ∀ earlier, count ≤ earlier → earlier < last →
      (gate.trial connector begun earlier).succeeded = false) :
    gate.waitFrom timer connector begun made (min (gate.due begun count) (begun + gate.timeout)) =
      ⟨.ok ((gate.trial connector begun last).finished - begun),
        (gate.trial connector begun last).finished,
        (List.range' count (last + 1 - count)).map (gate.trial connector begun)⟩ := by
  -- The induction is on how many attempts are refused before.
  induction remaining : last - count generalizing count made with
  | zero =>
    obtain rfl : last = count := by omega
    rw [min_due inTime, waitFrom_of_succeeded (due_lt_deadline_iff.2 inTime)
      (attempt_due ▸ succeeded), attempt_due, Nat.add_sub_cancel_left]
    rfl
  | succ remaining induction =>
    have isDue : count < gate.slots := by omega
    have others := @induction (count + 1) (made + 1) (by omega)
      (fun earlier after => first earlier (by omega)) (by omega)
    rw [waitFrom_of_trial_refused exact punctual isDue (first count (Nat.le_refl _) (by omega))
      (isInstant_due fits (by omega)), others,
      show last + 1 - count = last + 1 - (count + 1) + 1 by omega, List.range'_succ]
    rfl

/-- If no attempt succeeds that is due from some instant on, the wait ends at the deadline. -/
theorem waitFrom_of_none (exact : timer.Exact) (punctual : connector.Punctual)
    (fits : (gate.due begun gate.slots).IsInstant) (reached : count ≤ gate.slots)
    (refused : ∀ later, count ≤ later → later < gate.slots →
      (gate.trial connector begun later).succeeded = false) :
    gate.waitFrom timer connector begun count
        (min (gate.due begun count) (begun + gate.timeout)) =
      ⟨.error (.gate (gate.timeoutError gate.slots)), begun + gate.timeout,
        (List.range' count (gate.slots - count)).map (gate.trial connector begun)⟩ := by
  -- The induction is on how many attempts are still due.
  induction remaining : gate.slots - count generalizing count with
  | zero =>
    obtain rfl : count = gate.slots := by omega
    have ended : min (gate.due begun gate.slots) (begun + gate.timeout) = begun + gate.timeout :=
      congrArg Duration.mk (Nat.min_eq_right deadline_le_due_slots)
    rw [ended]
    exact waitFrom_of_late (Nat.lt_irrefl _)
  | succ remaining induction =>
    have isDue : count < gate.slots := by omega
    have others := @induction (count + 1) isDue (fun later after => refused later (by omega))
      (by omega)
    rw [waitFrom_of_trial_refused exact punctual isDue (refused count (Nat.le_refl _) isDue)
      (isInstant_due_of_le fits isDue), others, List.range'_succ]
    rfl

/-- If the clock reaches the deadline, but not the end of the last interval, and no attempt succeeds
that is due from some instant on, the wait crashes after the last one. -/
theorem waitFrom_of_lost (exact : timer.Exact) (punctual : connector.Punctual)
    (fits : (begun + gate.timeout).IsInstant) (lost : ¬ (gate.due begun gate.slots).IsInstant)
    (isDue : count < gate.slots)
    (refused : ∀ later, count ≤ later → later < gate.slots →
      (gate.trial connector begun later).succeeded = false) :
    gate.waitFrom timer connector begun made (min (gate.due begun count) (begun + gate.timeout)) =
      .crashed (gate.trial connector begun (gate.slots - 1)).finished
        ((List.range' count (gate.slots - count)).map (gate.trial connector begun)) := by
  -- The induction is on how many attempts are due before the last one.
  induction remaining : gate.slots - 1 - count generalizing count made with
  | zero =>
    have last : gate.slots = count + 1 := by omega
    rw [last] at lost ⊢
    rw [min_due isDue, waitFrom_of_overrun (due_lt_deadline_iff.2 isDue)
      (attempt_due ▸ refused count (Nat.le_refl _) isDue) (due_add_pollInterval ▸ lost), attempt_due,
      Nat.add_sub_cancel_left]
    rfl
  | succ remaining induction =>
    have next : count + 1 < gate.slots := by omega
    have others := @induction (count + 1) (made + 1) next
      (fun later after => refused later (by omega)) (by omega)
    rw [waitFrom_of_trial_refused exact punctual isDue (refused count (Nat.le_refl _) isDue)
      (isInstant_due fits next), others,
      show gate.slots - count = gate.slots - (count + 1) + 1 by omega, List.range'_succ]
    rfl

/-! ## Attempts that take too long -/

/-- Whether an attempt of a wait starts before the deadline, with a budget that is neither more than
the interval nor more than what is left of the time. -/
structure Limited (gate : Gate) (begun : Duration) (attempt : Attempt) : Prop where
  begun_le : begun ≤ attempt.started
  inTime : attempt.started < begun + gate.timeout
  budget_pos : Duration.zero < attempt.budget
  budget_le : attempt.budget ≤ min gate.pollInterval (begun + gate.timeout - attempt.started)

theorem limited_attempt (after : begun ≤ now) (inTime : now < begun + gate.timeout) :
    gate.Limited begun (gate.attempt connector (begun + gate.timeout) now) where
  begun_le := after
  inTime := inTime
  budget_pos := lt_min (Nat.sub_pos_of_lt inTime) gate.pollInterval_pos
  budget_le := Nat.le_of_eq (Nat.min_comm _ _)

/-- The next attempt is not made before it is due, whatever the last one took. -/
theorem due_le_nextStart {finished : Duration}
    (reached : min (gate.due begun made) (begun + gate.timeout) ≤ now) :
    min (gate.due begun (made + 1)) (begun + gate.timeout) ≤
      gate.nextStart timer (begun + gate.timeout) now finished := by
  have before : min (gate.due begun made).nanos (begun.nanos + gate.timeout.nanos) ≤ now.nanos :=
    reached
  have notEarly : max finished.nanos (min (now.nanos + gate.pollInterval.nanos)
      (begun.nanos + gate.timeout.nanos)) ≤
        (gate.nextStart timer (begun + gate.timeout) now finished).nanos := timer.notEarly _ _
  show min (gate.due begun (made + 1)).nanos (begun.nanos + gate.timeout.nanos) ≤ _
  simp only [nanos_due, Nat.mul_succ] at *
  omega

/-- Where the time is not over, one of the attempts is due that have not been made. -/
theorem lt_slots_of_inTime (reached : min (gate.due begun made) (begun + gate.timeout) ≤ now)
    (inTime : now < begun + gate.timeout) : made < gate.slots := by
  have before : min (gate.due begun made).nanos (begun.nanos + gate.timeout.nanos) ≤ now.nanos :=
    reached
  have early : now.nanos < begun.nanos + gate.timeout.nanos := inTime
  have due : gate.due begun made < begun + gate.timeout := by
    rw [Duration.lt_iff, Duration.nanos_add]
    omega
  exact due_lt_deadline_iff.1 due

/-- The attempts that a wait makes from some instant on are no more than those that are due, and
each keeps to the limits. -/
theorem waitFrom_limited (after : begun ≤ now)
    (reached : min (gate.due begun made) (begun + gate.timeout) ≤ now) :
    (∀ attempt ∈ (gate.waitFrom timer connector begun made now).attempts,
        gate.Limited begun attempt) ∧
      (gate.waitFrom timer connector begun made now).attempts.length ≤ gate.slots - made := by
  induction made, now using @wait_induction gate timer connector begun with
  | late made now ended =>
    rw [waitFrom_of_late ended]
    exact ⟨fun _ member => (List.not_mem_nil member).elim, Nat.zero_le _⟩
  | succeeded made now inTime succeeded =>
    rw [waitFrom_of_succeeded inTime succeeded]
    refine ⟨fun attempt member => ?_, Nat.sub_pos_of_lt (lt_slots_of_inTime reached inTime)⟩
    rw [List.mem_singleton.1 member]
    exact limited_attempt after inTime
  | overrun made now inTime refused lost =>
    rw [waitFrom_of_overrun inTime refused lost]
    refine ⟨fun attempt member => ?_, Nat.sub_pos_of_lt (lt_slots_of_inTime reached inTime)⟩
    rw [List.mem_singleton.1 member]
    exact limited_attempt after inTime
  | refused made now inTime refused fits induction =>
    have later := gate.lt_nextStart timer
      (gate.attempt connector (begun + gate.timeout) now).finished inTime
    obtain ⟨limited, few⟩ :=
      induction (Nat.le_trans after (Nat.le_of_lt later)) (due_le_nextStart reached)
    rw [waitFrom_of_refused inTime refused fits]
    constructor
    · intro attempt member
      rcases List.mem_cons.1 member with rfl | member
      · exact limited_attempt after inTime
      · exact limited attempt member
    · have isDue := lt_slots_of_inTime reached inTime
      show (gate.waitFrom timer connector begun (made + 1) _).attempts.length + 1 ≤ _
      omega

/-! ## The whole wait -/

/-- What a wait comes to where every attempt is answered in time and no timer is late. -/
structure Timed (gate : Gate) (connector : Connector) (begun : Duration) (wait : Wait) : Prop where
  /-- If the clock reaches the deadline, there is a connection exactly if one of the attempts that
  are due succeeds. -/
  reached_iff : (begun + gate.timeout).IsInstant → ((∃ waited, wait.result = .ok waited) ↔
    ∃ count < gate.slots, (gate.trial connector begun count).succeeded = true)
  /-- The first attempt that succeeds is the last one, and the wait is over when it is answered. -/
  reached : (begun + gate.timeout).IsInstant →
    ∀ count < gate.slots, (gate.trial connector begun count).succeeded = true →
    (∀ earlier < count, (gate.trial connector begun earlier).succeeded = false) →
      ∃ waited ≤ gate.timeout, begun + waited = (gate.trial connector begun count).finished ∧
        wait = ⟨.ok waited, begun + waited,
          (List.range (count + 1)).map (gate.trial connector begun)⟩
  /-- If none succeeds and the clock reaches the end of the last interval, all that are due are made,
  and the wait is over at the deadline. -/
  timedOut : (gate.due begun gate.slots).IsInstant →
    (∀ count < gate.slots, (gate.trial connector begun count).succeeded = false) →
    wait = ⟨.error (.gate (.timeout gate.target.target gate.timeout (.ofNat gate.slots))),
      begun + gate.timeout, (List.range gate.slots).map (gate.trial connector begun)⟩
  /-- The number of attempts is told as it is, unless it has more than 32 bits. -/
  counted : gate.slots < 0x100000000 → (UInt32.ofNat gate.slots).toNat = gate.slots
  /-- If none succeeds and the clock reaches the deadline, but not the end of the last interval, all
  that are due are made, and the wait crashes. -/
  overrun : (begun + gate.timeout).IsInstant → ¬ (gate.due begun gate.slots).IsInstant →
    (∀ count < gate.slots, (gate.trial connector begun count).succeeded = false) →
    wait = .crashed (gate.trial connector begun (gate.slots - 1)).finished
      ((List.range gate.slots).map (gate.trial connector begun))
  /-- If the clock does not reach the deadline, no attempt is made, and the wait crashes. -/
  lost : ¬ (begun + gate.timeout).IsInstant → wait = .crashed begun []

/-- The first attempt is due at once. -/
theorem min_due_zero : min (gate.due begun 0) (begun + gate.timeout) = begun :=
  congrArg Duration.mk (Nat.min_eq_left (Nat.le_add_right _ _))

/-- Without an interval, the clock has nothing to reach but the deadline. -/
theorem slots_pos_of_lost (fits : (begun + gate.timeout).IsInstant)
    (lost : ¬ (gate.due begun gate.slots).IsInstant) : 0 < gate.slots := by
  refine Nat.pos_of_ne_zero fun none => lost ?_
  rw [none]
  exact Nat.lt_of_le_of_lt (Nat.le_add_right _ _) fits

theorem wait_of_first (exact : timer.Exact) (punctual : connector.Punctual)
    (fits : (begun + gate.timeout).IsInstant) (inTime : count < gate.slots)
    (succeeded : (gate.trial connector begun count).succeeded = true)
    (first : ∀ earlier < count, (gate.trial connector begun earlier).succeeded = false) :
    ∃ waited ≤ gate.timeout, begun + waited = (gate.trial connector begun count).finished ∧
      gate.wait timer connector begun = ⟨.ok waited, begun + waited,
        (List.range (count + 1)).map (gate.trial connector begun)⟩ := by
  have finished : (gate.trial connector begun count).finished ≤ begun + gate.timeout :=
    attempt_due ▸ finished_attempt_le punctual (due_lt_deadline_iff.2 inTime)
  have started : begun ≤ (gate.trial connector begun count).finished :=
    Nat.le_trans (Nat.le_add_right _ _) (Nat.le_add_right _ _)
  have whole : begun + ((gate.trial connector begun count).finished - begun) =
      (gate.trial connector begun count).finished :=
    congrArg Duration.mk (Nat.add_sub_cancel' started)
  refine ⟨(gate.trial connector begun count).finished - begun, ?_, whole, ?_⟩
  · exact Nat.sub_le_of_le_add (Nat.add_comm begun.nanos _ ▸ finished)
  · have course := @waitFrom_of_first gate timer connector begun 0 0 exact punctual fits count
      (Nat.zero_le _) inTime succeeded fun earlier _ => first earlier
    rw [min_due_zero, Nat.sub_zero, ← List.range_eq_range'] at course
    rw [whole, wait_of_isInstant fits]
    exact course

theorem wait_of_none (exact : timer.Exact) (punctual : connector.Punctual)
    (fits : (gate.due begun gate.slots).IsInstant)
    (refused : ∀ count < gate.slots, (gate.trial connector begun count).succeeded = false) :
    gate.wait timer connector begun =
      ⟨.error (.gate (gate.timeoutError gate.slots)), begun + gate.timeout,
        (List.range gate.slots).map (gate.trial connector begun)⟩ := by
  have course := waitFrom_of_none exact punctual fits (Nat.zero_le _) fun count _ => refused count
  rw [min_due_zero, Nat.sub_zero, ← List.range_eq_range'] at course
  rw [wait_of_isInstant (Nat.lt_of_le_of_lt deadline_le_due_slots fits)]
  exact course

theorem wait_of_lost (exact : timer.Exact) (punctual : connector.Punctual)
    (fits : (begun + gate.timeout).IsInstant) (lost : ¬ (gate.due begun gate.slots).IsInstant)
    (refused : ∀ count < gate.slots, (gate.trial connector begun count).succeeded = false) :
    gate.wait timer connector begun =
      .crashed (gate.trial connector begun (gate.slots - 1)).finished
        ((List.range gate.slots).map (gate.trial connector begun)) := by
  have course := @waitFrom_of_lost gate timer connector begun 0 0 exact punctual fits lost
    (slots_pos_of_lost fits lost) fun count _ => refused count
  rw [min_due_zero, Nat.sub_zero, ← List.range_eq_range'] at course
  rw [wait_of_isInstant fits]
  exact course

/-- The first of the attempts that succeed. -/
theorem exists_first (succeeds : ∃ count < gate.slots,
    (gate.trial connector begun count).succeeded = true) :
    ∃ count < gate.slots, (gate.trial connector begun count).succeeded = true ∧
      ∀ earlier < count, (gate.trial connector begun earlier).succeeded = false := by
  classical
  obtain ⟨inTime, succeeded⟩ := Nat.find_spec succeeds
  refine ⟨Nat.find succeeds, inTime, succeeded, fun earlier before => ?_⟩
  exact Bool.eq_false_iff.2 fun also =>
    Nat.find_min succeeds before ⟨Nat.lt_trans before inTime, also⟩

/-- Without a successful attempt there is no connection, whether the wait comes to its deadline or
crashes. -/
theorem result_wait_of_none (exact : timer.Exact) (punctual : connector.Punctual)
    (refused : ∀ count < gate.slots, (gate.trial connector begun count).succeeded = false)
    (waited : Duration) : (gate.wait timer connector begun).result ≠ .ok waited := by
  by_cases fits : (begun + gate.timeout).IsInstant
  case neg =>
    rw [wait_of_not_isInstant fits]
    nofun
  by_cases whole : (gate.due begun gate.slots).IsInstant
  · rw [wait_of_none exact punctual whole refused]
    nofun
  · rw [wait_of_lost exact punctual fits whole refused]
    nofun

theorem wait_timed (exact : timer.Exact) (punctual : connector.Punctual) :
    gate.Timed connector begun (gate.wait timer connector begun) where
  reached_iff fits := by
    constructor
    · rintro ⟨waited, connected⟩
      by_contra none
      refine result_wait_of_none exact punctual (fun count inTime => ?_) waited connected
      exact Bool.eq_false_iff.2 fun succeeded => none ⟨count, inTime, succeeded⟩
    · intro succeeds
      obtain ⟨count, inTime, succeeded, first⟩ := exists_first succeeds
      obtain ⟨waited, -, -, course⟩ := wait_of_first exact punctual fits inTime succeeded first
      exact ⟨waited, by rw [course]⟩
  reached fits _ inTime succeeded first := wait_of_first exact punctual fits inTime succeeded first
  timedOut fits refused := wait_of_none exact punctual fits refused
  counted few := UInt32.toNat_ofNat_of_lt' few
  overrun fits lost refused := wait_of_lost exact punctual fits lost refused
  lost := wait_of_not_isInstant

theorem wait_limited :
    (∀ attempt ∈ (gate.wait timer connector begun).attempts, gate.Limited begun attempt) ∧
      (gate.wait timer connector begun).attempts.length ≤ gate.slots := by
  by_cases fits : (begun + gate.timeout).IsInstant
  · rw [wait_of_isInstant fits]
    exact waitFrom_limited (Nat.le_refl _) (Nat.le_of_eq (congrArg _ min_due_zero))
  · rw [wait_of_not_isInstant fits]
    exact ⟨fun _ member => (List.not_mem_nil member).elim, Nat.zero_le _⟩

/-- Whatever the answers take and however late the timers are, the attempts of a wait start before
the deadline, keep to their limits and are no more than the intervals that begin before it, and the
wait crashes exactly if the clock does not reach the deadline or the end of the interval of a refused
attempt. If every attempt is answered within its budget and no timer is late, they are made exactly
when they are due, until one of them succeeds, the time is over, or the clock is at its end. -/
theorem wait_timing (gate : Gate) (timer : Timer) (connector : Connector) (begun : Duration) :
    (∀ attempt ∈ (gate.wait timer connector begun).attempts, gate.Limited begun attempt) ∧
      (gate.wait timer connector begun).attempts.length ≤ gate.slots ∧
      (Crashes (gate.wait timer connector begun).result ↔
        ¬ (begun + gate.timeout).IsInstant ∨
          ∃ attempt ∈ (gate.wait timer connector begun).attempts,
            attempt.Overruns gate.pollInterval) ∧
      (∀ count, count < gate.slots ↔ gate.pollInterval.scale count < gate.timeout) ∧
      (timer.Exact → connector.Punctual →
        gate.Timed connector begun (gate.wait timer connector begun)) := by
  exact ⟨wait_limited.1, wait_limited.2, crashes_wait_iff, fun count => lt_slots_iff, wait_timed⟩

/-- A gate that tries every seven tenths of a second for three seconds. -/
def patient : Gate :=
  (ofTarget ⟨"redis", 6379⟩ (.ofSeconds 3)).withInterval (.ofMillis 700)

/-- Addresses that accept connections after two seconds, and take a tenth of a second for
every answer. -/
def warmingUp : Connector := fun _ now budget =>
  ⟨min budget (.ofMillis 100),
    if now < .ofSeconds 2 then some "Connection refused (os error 111)" else .none⟩

theorem wait_timing_warmingUp :
    Timer.exact.Exact ∧ warmingUp.Punctual ∧
      patient.wait .exact warmingUp .zero =
        ⟨.ok (.ofMillis 2200), .ofMillis 2200,
          (List.range 4).map (patient.trial warmingUp .zero)⟩ := by
  have exact : Timer.exact.Exact := fun _ _ => rfl
  have punctual : warmingUp.Punctual := fun _ _ _ => Nat.min_le_left _ _
  obtain ⟨-, -, -, inTime, timed⟩ := wait_timing patient .exact warmingUp .zero
  obtain ⟨waited, -, finished, course⟩ :=
    (timed exact punctual).reached (by decide) 3 ((inTime 3).2 (by decide)) (by decide) (by decide)
  obtain rfl : waited = .ofMillis 2200 := by
    rw [← show Duration.zero + waited = waited from congrArg Duration.mk (Nat.zero_add _), finished]
    rfl
  exact ⟨exact, punctual, course⟩

/-- A gate that waits for a second, with an interval that ends after the end of the clock. -/
def farsighted : Gate :=
  (ofTarget ⟨"127.0.0.1", 1⟩ (.ofSeconds 1)).withInterval (.ofSeconds (300000000000 * 31557600))

/-- Addresses that refuse every attempt at once. -/
def refusing : Connector := fun _ _ _ => ⟨.zero, some "connection refused"⟩

/-- The one attempt of such a gate is refused, but the wait does not come to its deadline. -/
theorem farsighted_crashes :
    refusing.Punctual ∧ farsighted.slots = 1 ∧
      (farsighted.trial refusing .zero 0).succeeded = false ∧
      farsighted.wait .exact refusing .zero =
        .crashed .zero [farsighted.trial refusing .zero 0] ∧
      farsighted.wait .exact refusing .zero ≠
        ⟨.error (.gate (.timeout farsighted.target.target farsighted.timeout 1)),
          .zero + farsighted.timeout, [farsighted.trial refusing .zero 0]⟩ := by
  have punctual : refusing.Punctual := fun _ _ _ => Nat.zero_le _
  have slots : farsighted.slots = 1 :=
    Nat.le_antisymm (Nat.le_of_not_lt fun more => absurd (lt_slots_iff.1 more) (by decide))
      (lt_slots_iff.2 (by decide))
  have course := @wait_of_lost farsighted .exact refusing .zero (fun _ _ => rfl) punctual (by decide)
    (by rw [slots]; decide) fun _ _ => rfl
  rw [slots] at course
  refine ⟨punctual, slots, rfl, course, ?_⟩
  rw [course]
  nofun

end Gate

end Convoy
