import Convoy.Proofs.Gate.Timing

/-!
# Calling off a wait

Whatever calls a wait off only cuts it short. A wait that has ended before is as it would have been
alone. A wait that would have ended later ends when it is called off, and until then it has started
the attempts that it would have started alone. At the instant of the cancellation itself, an attempt
that is due may or may not have started.
-/

namespace Convoy

namespace Gate

/-! ## Turns -/

section Turn

variable {cancelled due : Duration} {turns left : Nat}

theorem le_of_turn?_eq_some (first : turn? cancelled due turns = some left) : due ≤ cancelled := by
  cases turns with
  | zero =>
    rw [turn?] at first
    split at first
    · next before => exact Nat.le_of_lt before
    · nomatch first
  | succ turns =>
    rw [turn?] at first
    split at first
    · next before => exact Nat.le_of_lt before
    · split at first
      · next same => exact same ▸ Nat.le_refl _
      · nomatch first

theorem le_of_turn?_eq_none (last : turn? cancelled due turns = none) : cancelled ≤ due := by
  have notBefore : ¬ due < cancelled := by
    intro before
    cases turns <;> simp [turn?, before] at last
  exact Nat.le_of_not_lt notBefore

end Turn

/-! ## Single attempts -/

variable {gate : Gate} {timer : Timer} {connector : Connector} {begun cancelled now : Duration}
  {turns made : Nat}

/-- A wait that is called off during an attempt. -/
theorem raceFrom_of_abandoned (inTime : now < begun + gate.timeout)
    (last : turn? cancelled (gate.attempt connector (begun + gate.timeout) now).finished turns =
      none) :
    gate.raceFrom timer connector begun cancelled turns made now =
      gate.calledOff cancelled
        (some (gate.attempt connector (begun + gate.timeout) now).start) := by
  rw [raceFrom, if_pos inTime]
  simp only [last]

/-- A connection in time ends the race. -/
theorem raceFrom_of_succeeded {left : Nat} (inTime : now < begun + gate.timeout)
    (first : turn? cancelled (gate.attempt connector (begun + gate.timeout) now).finished turns =
      some left)
    (succeeded : (gate.attempt connector (begun + gate.timeout) now).succeeded = true) :
    gate.raceFrom timer connector begun cancelled turns made now =
      .ofWait (gate.waitFrom timer connector begun made now) := by
  rw [raceFrom, if_pos inTime, waitFrom_of_succeeded inTime succeeded]
  simp only [first, if_pos succeeded]

/-- A wait that is called off between two attempts. -/
theorem raceFrom_of_asleep {left : Nat} (inTime : now < begun + gate.timeout)
    (first : turn? cancelled (gate.attempt connector (begun + gate.timeout) now).finished turns =
      some left)
    (refused : (gate.attempt connector (begun + gate.timeout) now).succeeded = false)
    (fits : (now + gate.pollInterval).IsInstant)
    (last : turn? cancelled (gate.nextStart timer (begun + gate.timeout) now
      (gate.attempt connector (begun + gate.timeout) now).finished) left = none) :
    gate.raceFrom timer connector begun cancelled turns made now =
      (gate.calledOff cancelled none).after
        (gate.attempt connector (begun + gate.timeout) now) := by
  rw [raceFrom, if_pos inTime]
  simp only [first, refused, Bool.false_eq_true, if_false, if_pos fits, last]

/-- After a refusal, a wait that is not called off goes on with the next attempt. -/
theorem raceFrom_of_refused {left others : Nat} (inTime : now < begun + gate.timeout)
    (first : turn? cancelled (gate.attempt connector (begun + gate.timeout) now).finished turns =
      some left)
    (refused : (gate.attempt connector (begun + gate.timeout) now).succeeded = false)
    (fits : (now + gate.pollInterval).IsInstant)
    (next : turn? cancelled (gate.nextStart timer (begun + gate.timeout) now
      (gate.attempt connector (begun + gate.timeout) now).finished) left = some others) :
    gate.raceFrom timer connector begun cancelled turns made now =
      let attempt := gate.attempt connector (begun + gate.timeout) now
      (gate.raceFrom timer connector begun cancelled others (made + 1)
        (gate.nextStart timer (begun + gate.timeout) now attempt.finished)).after attempt := by
  rw [raceFrom, if_pos inTime]
  simp only [first, refused, Bool.false_eq_true, if_false, if_pos fits, next]

/-- A crash after a refusal that comes in time ends the race. -/
theorem raceFrom_of_overrun {left : Nat} (inTime : now < begun + gate.timeout)
    (first : turn? cancelled (gate.attempt connector (begun + gate.timeout) now).finished turns =
      some left)
    (refused : (gate.attempt connector (begun + gate.timeout) now).succeeded = false)
    (lost : ¬ (now + gate.pollInterval).IsInstant) :
    gate.raceFrom timer connector begun cancelled turns made now =
      .ofWait (gate.waitFrom timer connector begun made now) := by
  rw [raceFrom, if_pos inTime, waitFrom_of_overrun inTime refused lost]
  simp only [first, refused, Bool.false_eq_true, if_false, if_neg lost]

/-- From the deadline on, there is nothing left to call off. -/
theorem raceFrom_of_late (late : ¬ now < begun + gate.timeout) :
    gate.raceFrom timer connector begun cancelled turns made now =
      .ofWait (gate.waitFrom timer connector begun made now) := by
  rw [raceFrom, if_neg late, waitFrom_of_late late]

theorem le_nextStart (gate : Gate) (timer : Timer) (deadline started finished : Duration) :
    finished ≤ gate.nextStart timer deadline started finished :=
  Nat.le_trans (Nat.le_max_left _ _) (timer.notEarly _ _)

/-- From some instant on, a wait neither starts an attempt nor ends before that instant. -/
theorem waitFrom_later (gate : Gate) (timer : Timer) (connector : Connector) (begun : Duration)
    (made : Nat) (now : Duration) :
    now ≤ (gate.waitFrom timer connector begun made now).finished ∧
      ∀ attempt ∈ (gate.waitFrom timer connector begun made now).attempts,
        now ≤ attempt.started := by
  induction made, now using @wait_induction gate timer connector begun with
  | late made now late =>
    rw [waitFrom_of_late late]
    exact ⟨Nat.le_refl _, fun _ member => (List.not_mem_nil member).elim⟩
  | succeeded made now inTime succeeded =>
    rw [waitFrom_of_succeeded inTime succeeded]
    refine ⟨Nat.le_add_right _ _, fun attempt member => ?_⟩
    rw [List.mem_singleton.1 member]
    exact Nat.le_refl _
  | overrun made now inTime refused lost =>
    rw [waitFrom_of_overrun inTime refused lost]
    refine ⟨Nat.le_add_right _ _, fun attempt member => ?_⟩
    rw [List.mem_singleton.1 member]
    exact Nat.le_refl _
  | refused made now inTime refused fits induction =>
    obtain ⟨finished, others⟩ := induction
    have later := Nat.le_of_lt (gate.lt_nextStart timer
      (gate.attempt connector (begun + gate.timeout) now).finished inTime)
    rw [waitFrom_of_refused inTime refused fits]
    refine ⟨Nat.le_trans later finished, fun attempt member => ?_⟩
    rcases List.mem_cons.1 member with rfl | member
    · exact Nat.le_refl _
    · exact Nat.le_trans later (others attempt member)

/-! ## Whole waits -/

/-- What a wait that is called off at an instant has in common with the wait alone. -/
structure Truncates (gate : Gate) (cancelled : Duration) (alone : Wait) (race : Race) : Prop where
  /-- A wait that ends before is the wait alone. -/
  ended : alone.finished < cancelled → race = .ofWait alone
  /-- A wait that would end later ends when it is called off. -/
  calledOff : cancelled < alone.finished →
    race.result = .error (.gate (.cancelled gate.target.target)) ∧ race.finished = cancelled
  /-- The attempts that have been answered are the first ones that the wait makes alone. -/
  answered : race.attempts <+: alone.attempts
  /-- The attempts that have started are those that the wait starts alone before it is called off.
  One that is due at that very instant may have started, too. -/
  started : cancelled < alone.finished →
    race.starts = alone.starts.filter (·.started < cancelled) ∨
      race.starts = alone.starts.filter (·.started ≤ cancelled)

namespace Truncates

variable {alone rest : Wait} {race : Race} {attempt : Attempt}

/-- A wait that nothing has called off in time. -/
theorem ofWait (inTime : alone.finished ≤ cancelled) :
    gate.Truncates cancelled alone (.ofWait alone) where
  ended _ := rfl
  calledOff after := absurd after (Nat.not_lt_of_le inTime)
  answered := List.prefix_refl _
  started after := absurd after (Nat.not_lt_of_le inTime)

/-- One more attempt before what is cut short. -/
theorem after (before : attempt.started < cancelled)
    (truncates : gate.Truncates cancelled rest race) :
    gate.Truncates cancelled (rest.after attempt) (race.after attempt) where
  ended inTime := congrArg (Race.after attempt) (truncates.ended inTime)
  calledOff := truncates.calledOff
  answered := List.cons_prefix_cons.2 ⟨rfl, truncates.answered⟩
  started later := by
    have earlier : attempt.start.started < cancelled := before
    have kept : (race.after attempt).starts = attempt.start :: race.starts := rfl
    have starts : (rest.after attempt).starts = attempt.start :: rest.starts := rfl
    have reached : attempt.start.started ≤ cancelled := Nat.le_of_lt earlier
    rw [kept, starts, List.filter_cons_of_pos (by exact decide_eq_true earlier),
      List.filter_cons_of_pos (by exact decide_eq_true reached), List.cons_inj_right,
      List.cons_inj_right]
    exact truncates.started later

/-- A wait that is called off before its first attempt. -/
theorem of_unstarted (ends : cancelled ≤ alone.finished)
    (others : ∀ attempt ∈ alone.attempts, cancelled ≤ attempt.started) :
    gate.Truncates cancelled alone (gate.calledOff cancelled none) where
  ended before := absurd before (Nat.not_lt_of_le ends)
  calledOff _ := ⟨rfl, rfl⟩
  answered := List.nil_prefix
  started _ := by
    refine .inl (List.filter_eq_nil_iff.2 fun start member early => ?_).symm
    obtain ⟨attempt, listed, rfl⟩ := List.mem_map.1 member
    exact Nat.not_lt_of_le (others attempt listed) (of_decide_eq_true early)

/-- A wait that is called off before its second attempt: during the first one or after it. -/
theorem of_cut (reached : attempt.started ≤ cancelled) (ends : cancelled ≤ rest.finished)
    (others : ∀ later ∈ rest.attempts, attempt.started < later.started ∧ cancelled ≤ later.started)
    (cut : race = gate.calledOff cancelled (some attempt.start) ∨
      race = (gate.calledOff cancelled none).after attempt) :
    gate.Truncates cancelled (rest.after attempt) race where
  ended before := absurd before (Nat.not_lt_of_le ends)
  calledOff _ := by
    rcases cut with rfl | rfl <;> exact ⟨rfl, rfl⟩
  answered := by
    rcases cut with rfl | rfl
    · exact List.nil_prefix
    · exact List.cons_prefix_cons.2 ⟨rfl, List.nil_prefix⟩
  started _ := by
    have kept : race.starts = [attempt.start] := by rcases cut with rfl | rfl <;> rfl
    have starts : (rest.after attempt).starts = attempt.start :: rest.starts := rfl
    rw [kept, starts]
    -- An attempt that starts when the wait is called off counts as one that may have started.
    rcases Nat.lt_or_eq_of_le reached with before | same
    · left
      rw [List.filter_cons_of_pos (by exact decide_eq_true before), List.filter_eq_nil_iff.2]
      intro start member early
      obtain ⟨later, listed, rfl⟩ := List.mem_map.1 member
      exact Nat.not_lt_of_le (others later listed).2 (of_decide_eq_true early)
    · right
      rw [List.filter_cons_of_pos (by exact decide_eq_true reached), List.filter_eq_nil_iff.2]
      intro start member early
      obtain ⟨later, listed, rfl⟩ := List.mem_map.1 member
      have after := Nat.lt_of_le_of_lt (Nat.le_of_eq same.symm) (others later listed).1
      exact Nat.not_le_of_lt after (of_decide_eq_true early)

end Truncates

/-- From any instant on, calling a wait off only cuts it short. -/
theorem raceFrom_truncates (reached : now ≤ cancelled) :
    gate.Truncates cancelled (gate.waitFrom timer connector begun made now)
      (gate.raceFrom timer connector begun cancelled turns made now) := by
  induction made, now using @wait_induction gate timer connector begun generalizing turns with
  | late made now late =>
    rw [raceFrom_of_late late]
    refine .ofWait ?_
    rw [waitFrom_of_late late]
    exact reached
  | succeeded made now inTime succeeded =>
    cases first : turn? cancelled
        (gate.attempt connector (begun + gate.timeout) now).finished turns with
    | none =>
      rw [raceFrom_of_abandoned inTime first, waitFrom_of_succeeded inTime succeeded]
      exact @Truncates.of_cut gate cancelled ⟨_, _, []⟩ _ _ reached (le_of_turn?_eq_none first)
        (fun _ member => (List.not_mem_nil member).elim) (.inl rfl)
    | some left =>
      rw [raceFrom_of_succeeded inTime first succeeded]
      refine .ofWait ?_
      rw [waitFrom_of_succeeded inTime succeeded]
      exact le_of_turn?_eq_some first
  | overrun made now inTime refused lost =>
    cases first : turn? cancelled
        (gate.attempt connector (begun + gate.timeout) now).finished turns with
    | none =>
      rw [raceFrom_of_abandoned inTime first, waitFrom_of_overrun inTime refused lost]
      exact @Truncates.of_cut gate cancelled ⟨_, _, []⟩ _ _ reached (le_of_turn?_eq_none first)
        (fun _ member => (List.not_mem_nil member).elim) (.inl rfl)
    | some left =>
      rw [raceFrom_of_overrun inTime first refused lost]
      refine .ofWait ?_
      rw [waitFrom_of_overrun inTime refused lost]
      exact le_of_turn?_eq_some first
  | refused made now inTime refused fits induction =>
    have next := gate.lt_nextStart timer
      (gate.attempt connector (begun + gate.timeout) now).finished inTime
    have answered := gate.le_nextStart timer (begun + gate.timeout) now
      (gate.attempt connector (begun + gate.timeout) now).finished
    obtain ⟨ends, later⟩ := gate.waitFrom_later timer connector begun (made + 1)
      (gate.nextStart timer (begun + gate.timeout) now
        (gate.attempt connector (begun + gate.timeout) now).finished)
    rw [waitFrom_of_refused inTime refused fits]
    cases first : turn? cancelled
        (gate.attempt connector (begun + gate.timeout) now).finished turns with
    | none =>
      have due := Nat.le_trans (le_of_turn?_eq_none first) answered
      rw [raceFrom_of_abandoned inTime first]
      refine .of_cut reached (Nat.le_trans due ends) (fun other member => ?_) (.inl rfl)
      exact ⟨Nat.lt_of_lt_of_le next (later other member), Nat.le_trans due (later other member)⟩
    | some left =>
      cases second : turn? cancelled (gate.nextStart timer (begun + gate.timeout) now
          (gate.attempt connector (begun + gate.timeout) now).finished) left with
      | none =>
        have due := le_of_turn?_eq_none second
        rw [raceFrom_of_asleep inTime first refused fits second]
        refine .of_cut reached (Nat.le_trans due ends) (fun other member => ?_) (.inr rfl)
        exact ⟨Nat.lt_of_lt_of_le next (later other member), Nat.le_trans due (later other member)⟩
      | some others =>
        have due := le_of_turn?_eq_some second
        rw [raceFrom_of_refused inTime first refused fits second]
        exact .after (Nat.lt_of_lt_of_le next due) (induction due)

/-- A wait neither starts an attempt nor ends before it begins. -/
theorem wait_later (gate : Gate) (timer : Timer) (connector : Connector) (begun : Duration) :
    begun ≤ (gate.wait timer connector begun).finished ∧
      ∀ attempt ∈ (gate.wait timer connector begun).attempts, begun ≤ attempt.started := by
  by_cases fits : (begun + gate.timeout).IsInstant
  · rw [wait_of_isInstant fits]
    exact gate.waitFrom_later timer connector begun 0 begun
  · rw [wait_of_not_isInstant fits]
    exact ⟨Nat.le_refl _, fun _ member => (List.not_mem_nil member).elim⟩

/-- Calling a wait off only cuts it short, however late the timers are and whichever comes first of
what is due when it is called off. If it would have ended before, it is as it would be alone. If it
would have ended later, it is cancelled at once, and has started exactly the attempts that it would
have started alone before; an attempt that is due at that very instant may have started or not. -/
theorem race_truncates (gate : Gate) (timer : Timer) (connector : Connector)
    (begun after : Duration) (turns : Nat) :
    gate.Truncates (begun + after) (gate.wait timer connector begun)
      (gate.race timer connector begun (begun + after) turns) := by
  have reached : begun ≤ begun + after := Nat.le_add_right _ _
  unfold race
  cases first : turn? (begun + after) begun turns with
  | none =>
    obtain ⟨ends, later⟩ := gate.wait_later timer connector begun
    have due := le_of_turn?_eq_none first
    exact .of_unstarted (Nat.le_trans due ends) fun attempt member =>
      Nat.le_trans due (later attempt member)
  | some left =>
    dsimp only
    by_cases fits : (begun + gate.timeout).IsInstant
    · rw [if_pos fits, wait_of_isInstant fits]
      exact raceFrom_truncates reached
    · rw [if_neg fits, wait_of_not_isInstant fits]
      exact .ofWait reached

/-- A wait that would end after 2.2 seconds and is called off after 1.5 seconds, a tenth of a second
after its third attempt has started. -/
theorem race_truncates_warmingUp :
    let race := patient.race .exact warmingUp .zero (.ofMillis 1500) 0
    race.result = .error (.gate (.cancelled "redis:6379")) ∧ race.finished = .ofMillis 1500 ∧
      race.starts.map (·.started) = [.zero, .ofMillis 700, .ofMillis 1400] := by
  have truncates : patient.Truncates (.ofMillis 1500) (patient.wait .exact warmingUp .zero)
      (patient.race .exact warmingUp .zero (.ofMillis 1500) 0) :=
    race_truncates patient .exact warmingUp .zero (.ofMillis 1500) 0
  obtain ⟨waited, -, finished, course⟩ :=
    @wait_of_first patient .exact warmingUp .zero 3 (fun _ _ => rfl)
      (fun _ _ _ => Nat.min_le_left _ _) (by decide) (lt_slots_iff.2 (by decide)) (by decide)
      (by decide)
  have later : Duration.ofMillis 1500 < (patient.wait .exact warmingUp .zero).finished := by
    rw [course, finished]
    show Duration.ofMillis 1500 < (patient.trial warmingUp .zero 3).finished
    decide
  have starts : (patient.wait .exact warmingUp .zero).starts =
      ((List.range 4).map (patient.trial warmingUp .zero)).map (·.start) := by
    rw [course]
    rfl
  obtain ⟨result, ends⟩ := truncates.calledOff later
  refine ⟨result.trans (by decide +kernel), ends, ?_⟩
  rcases truncates.started later with started | started <;>
    · rw [started, starts]
      decide

end Gate

end Convoy
