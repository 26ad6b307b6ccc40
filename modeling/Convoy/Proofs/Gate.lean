import Convoy.Gate
import Mathlib.Order.Basic

/-!
# Single attempts of a gate

A wait is taken apart into its attempts: before the deadline there is one more, and it decides
whether the wait goes on.
-/

namespace Convoy

/-- Whether every attempt is answered within its budget. -/
def Connector.Punctual (connector : Connector) : Prop :=
  ∀ target now budget, (connector target now budget).delay ≤ budget

/-- Whether an attempt is refused whose interval ends after the end of the clock. -/
def Attempt.Overruns (interval : Duration) (attempt : Attempt) : Prop :=
  attempt.succeeded = false ∧ ¬ (attempt.started + interval).IsInstant

namespace Gate

/-- Whether waiting ended in a crash, which is to say without a result. -/
def Crashes (result : Except Cause Duration) : Prop := result = .error (.overflow .instant)

theorem Crashes.ne_ok {result : Except Cause Duration} (crashes : Crashes result)
    (waited : Duration) : result ≠ .ok waited := by
  rintro rfl
  cases crashes

variable {gate : Gate} {timer : Timer} {connector : Connector} {begun now deadline : Duration}
  {made : Nat}

/-- An attempt that is answered in time ends by the deadline. -/
theorem finished_attempt_le (punctual : connector.Punctual) (inTime : now < deadline) :
    (gate.attempt connector deadline now).finished ≤ deadline := by
  have answered : (connector gate.target now (gate.budget deadline now)).delay.nanos ≤
      min (deadline.nanos - now.nanos) gate.pollInterval.nanos := punctual _ _ _
  have before : now.nanos < deadline.nanos := inTime
  rw [Duration.le_iff, attempt, Duration.nanos_add]
  omega

/-- Where the deadline is after the end of the clock, no attempt is made. -/
theorem wait_of_not_isInstant (lost : ¬ (begun + gate.timeout).IsInstant) :
    gate.wait timer connector begun = .crashed begun [] :=
  if_neg lost

theorem wait_of_isInstant (fits : (begun + gate.timeout).IsInstant) :
    gate.wait timer connector begun = gate.waitFrom timer connector begun 0 begun :=
  if_pos fits

/-- A connection ends the wait. -/
theorem waitFrom_of_succeeded (inTime : now < begun + gate.timeout)
    (succeeded : (gate.attempt connector (begun + gate.timeout) now).succeeded = true) :
    gate.waitFrom timer connector begun made now =
      let last := gate.attempt connector (begun + gate.timeout) now
      ⟨.ok (last.finished - begun), last.finished, [last]⟩ := by
  rw [waitFrom, if_pos inTime]
  exact if_pos succeeded

/-- After a refusal, the wait goes on at the next instant that is due. -/
theorem waitFrom_of_refused (inTime : now < begun + gate.timeout)
    (refused : (gate.attempt connector (begun + gate.timeout) now).succeeded = false)
    (fits : (now + gate.pollInterval).IsInstant) :
    gate.waitFrom timer connector begun made now =
      let first := gate.attempt connector (begun + gate.timeout) now
      (gate.waitFrom timer connector begun (made + 1)
        (gate.nextStart timer (begun + gate.timeout) now first.finished)).after first := by
  rw [waitFrom, if_pos inTime]
  exact (if_neg (Bool.eq_false_iff.1 refused)).trans (if_pos fits)

/-- After a refusal, the wait crashes if the interval of the attempt ends after the end of the
clock. -/
theorem waitFrom_of_overrun (inTime : now < begun + gate.timeout)
    (refused : (gate.attempt connector (begun + gate.timeout) now).succeeded = false)
    (lost : ¬ (now + gate.pollInterval).IsInstant) :
    gate.waitFrom timer connector begun made now =
      let last := gate.attempt connector (begun + gate.timeout) now
      .crashed last.finished [last] := by
  rw [waitFrom, if_pos inTime]
  exact (if_neg (Bool.eq_false_iff.1 refused)).trans (if_neg lost)

/-- From the deadline on, no attempt is made. -/
theorem waitFrom_of_late (late : ¬ now < begun + gate.timeout) :
    gate.waitFrom timer connector begun made now =
      ⟨.error (.gate (gate.timeoutError made)), now, []⟩ := by
  rw [waitFrom, if_neg late]

/-- What holds from the deadline on, at an attempt that succeeds and at one after which the wait
crashes, and at another one that is refused if it holds at the next one, holds at every instant of a
wait. -/
@[elab_as_elim]
theorem wait_induction (timer : Timer) (connector : Connector) (begun : Duration)
    {motive : Nat → Duration → Prop}
    (late : ∀ made now, ¬ now < begun + gate.timeout → motive made now)
    (succeeded : ∀ made now, now < begun + gate.timeout →
      (gate.attempt connector (begun + gate.timeout) now).succeeded = true → motive made now)
    (overrun : ∀ made now, now < begun + gate.timeout →
      (gate.attempt connector (begun + gate.timeout) now).succeeded = false →
      ¬ (now + gate.pollInterval).IsInstant → motive made now)
    (refused : ∀ made now, now < begun + gate.timeout →
      (gate.attempt connector (begun + gate.timeout) now).succeeded = false →
      (now + gate.pollInterval).IsInstant →
      motive (made + 1) (gate.nextStart timer (begun + gate.timeout) now
        (gate.attempt connector (begun + gate.timeout) now).finished) → motive made now)
    (made : Nat) (now : Duration) : motive made now := by
  induction made, now using waitFrom.induct gate timer connector begun with
  | case1 made now inTime deadline attempt ends => exact succeeded made now inTime ends
  | case2 made now inTime deadline attempt continues fits induction =>
    exact refused made now inTime (Bool.eq_false_iff.2 continues) fits induction
  | case3 made now inTime deadline attempt continues lost =>
    exact overrun made now inTime (Bool.eq_false_iff.2 continues) lost
  | case4 made now after => exact late made now after

/-! ## Crashes -/

theorem crashes_waitFrom_iff :
    Crashes (gate.waitFrom timer connector begun made now).result ↔
      ∃ attempt ∈ (gate.waitFrom timer connector begun made now).attempts,
        attempt.Overruns gate.pollInterval := by
  induction made, now using @wait_induction gate timer connector begun with
  | late made now ended =>
    rw [waitFrom_of_late ended]
    simp [Crashes]
  | succeeded made now inTime succeeded =>
    rw [waitFrom_of_succeeded inTime succeeded]
    simp [Crashes, Attempt.Overruns, succeeded]
  | overrun made now inTime refused lost =>
    rw [waitFrom_of_overrun inTime refused lost]
    refine iff_of_true rfl ⟨_, List.mem_singleton_self _, refused, lost⟩
  | refused made now inTime refused fits induction =>
    rw [waitFrom_of_refused inTime refused fits]
    refine induction.trans ⟨?_, ?_⟩
    · rintro ⟨attempt, member, overruns⟩
      exact ⟨attempt, List.mem_cons_of_mem _ member, overruns⟩
    · rintro ⟨attempt, member, overruns⟩
      rcases List.mem_cons.1 member with rfl | member
      · exact absurd fits overruns.2
      · exact ⟨attempt, member, overruns⟩

/-- A wait crashes exactly if the clock does not reach its deadline, or if it has made an attempt that
was refused and whose interval the clock does not reach the end of. -/
theorem crashes_wait_iff :
    Crashes (gate.wait timer connector begun).result ↔
      ¬ (begun + gate.timeout).IsInstant ∨
        ∃ attempt ∈ (gate.wait timer connector begun).attempts,
          attempt.Overruns gate.pollInterval := by
  by_cases fits : (begun + gate.timeout).IsInstant
  · rw [wait_of_isInstant fits, crashes_waitFrom_iff]
    exact ⟨.inr, fun crashes => crashes.resolve_left (not_not_intro fits)⟩
  · rw [wait_of_not_isInstant fits]
    exact iff_of_true rfl (.inl fits)

end Gate

end Convoy
