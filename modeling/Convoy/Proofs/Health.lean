import Convoy.Health

/-!
# What follows from an answer

An answer to a probe leads to at most one repair, after everything else that follows from it. As
long as it leads to none the instance stays where it can be observed. Restarts are counted by
restarting alone. Failures are counted only in a row: the count of a kind is the number of failures
with which the answers to it end, and only such a count leads to a repair.
-/

namespace Convoy

/-- Whether an action replaces the instance. -/
def HealthAction.repairs : HealthAction → Bool
  | startupFailed => true
  | restart => true
  | _ => false

/-- Whether an instance gets traffic after an action. -/
def HealthAction.routes (before : Bool) : HealthAction → Bool
  | addToRouting => true
  | removeFromRouting => false
  | _ => before

/-- Whether an instance starts or runs. -/
def Lifecycle.isActive : Lifecycle → Bool
  | starting => true
  | running => true
  | _ => false

theorem Lifecycle.eq_of_isActive {lifecycle : Lifecycle} (active : lifecycle.isActive = true) :
    lifecycle = .starting ∨ lifecycle = .running := by
  cases lifecycle with
  | starting => exact Or.inl rfl
  | running => exact Or.inr rfl
  | restarting => cases active
  | failedToStart => cases active

/-- An answer is at most one more failure. -/
theorem Streak.failures_record_le (streak : Streak) (success : Bool) :
    (streak.record success).failures ≤ streak.failures + 1 := by
  cases success with
  | true => exact Nat.zero_le _
  | false => exact Nat.min_le_left (streak.failures + 1) Streak.countLimit

namespace Health

variable (health : Health)

theorem isActive_enter (restarts : Nat) (thresholds : PerKind (Option Thresholds)) :
    (enter restarts thresholds).lifecycle.isActive = true := by
  unfold enter
  dsimp only
  split <;> rfl

/-- Nothing that follows from an answer replaces the instance, which starts or runs. -/
def Quiet (outcome : Health × List HealthAction) : Prop :=
  outcome.1.lifecycle.isActive = true ∧ ∀ action ∈ outcome.2, action.repairs = false

/-- What follows from an answer ends with replacing the instance. -/
def Repairing (outcome : Health × List HealthAction) : Prop :=
  ∃ front last, outcome.2 = front ++ [last] ∧ last.repairs = true ∧
    ∀ action ∈ front, action.repairs = false

variable {health}

theorem observeStartup_cases
    (active : health.lifecycle.isActive = true) (thresholds : Thresholds) (success : Bool) :
    Quiet (health.observeStartup thresholds success) ∨
      Repairing (health.observeStartup thresholds success) := by
  unfold observeStartup
  dsimp only
  split
  · left
    split <;> simp [Quiet, Lifecycle.isActive, HealthAction.repairs]
  · split
    · right
      exact ⟨[], .startupFailed, rfl, rfl, by simp⟩
    · left
      exact ⟨active, by simp⟩

theorem observeLiveness_cases
    (active : health.lifecycle.isActive = true) (thresholds : Thresholds) (success : Bool) :
    Quiet (health.observeLiveness thresholds success) ∨
      Repairing (health.observeLiveness thresholds success) := by
  unfold observeLiveness
  dsimp only
  split
  · right
    cases health.serving with
    | true => exact ⟨[.removeFromRouting], .restart, rfl, rfl, by simp [HealthAction.repairs]⟩
    | false => exact ⟨[], .restart, rfl, rfl, by simp⟩
  · left
    exact ⟨active, by simp⟩

theorem observeReadiness_quiet
    (active : health.lifecycle.isActive = true) (thresholds : Thresholds) (success : Bool) :
    Quiet (health.observeReadiness thresholds success) := by
  unfold observeReadiness
  dsimp only
  split
  · exact ⟨active, by simp [HealthAction.repairs]⟩
  · split
    · exact ⟨active, by simp [HealthAction.repairs]⟩
    · exact ⟨active, by simp⟩

/-- Either an answer replaces nothing, or replacing the instance is the last that follows. -/
theorem observe_cases
    (active : health.lifecycle.isActive = true) (kind : ProbeKind) (success : Bool) :
    Quiet (health.observe kind success) ∨ Repairing (health.observe kind success) := by
  have unchanged : Quiet (health, []) := ⟨active, by simp⟩
  unfold observe
  split
  · exact Or.inl unchanged
  · split
    · exact observeStartup_cases active _ success
    · exact observeLiveness_cases active _ success
    · exact Or.inl (observeReadiness_quiet active _ success)
    · exact Or.inl unchanged

theorem observe_keeps (kind : ProbeKind) (success : Bool) :
    (health.observe kind success).1.restarts = health.restarts ∧
      (health.observe kind success).1.thresholds = health.thresholds := by
  unfold observe
  split
  · exact ⟨rfl, rfl⟩
  · split
    · unfold observeStartup
      dsimp only
      repeat' split
      all_goals exact ⟨rfl, rfl⟩
    · unfold observeLiveness
      dsimp only
      split <;> exact ⟨rfl, rfl⟩
    · unfold observeReadiness
      dsimp only
      repeat' split
      all_goals exact ⟨rfl, rfl⟩
    · exact ⟨rfl, rfl⟩

/-- Answers do not count as restarts. -/
@[simp]
theorem restarts_observe (kind : ProbeKind) (success : Bool) :
    (health.observe kind success).1.restarts = health.restarts :=
  (observe_keeps kind success).1

/-- Nothing that follows from an answer depends on how many restarts have been counted. -/
theorem observe_recounted (health : Health) (count : Nat) (kind : ProbeKind) (success : Bool) :
    observe { health with restarts := count } kind success =
      ({ (health.observe kind success).1 with restarts := count },
        (health.observe kind success).2) := by
  unfold observe
  dsimp only
  split
  · rfl
  · split
    · unfold observeStartup
      dsimp only
      repeat' split
      all_goals rfl
    · unfold observeLiveness
      dsimp only
      split <;> rfl
    · unfold observeReadiness
      dsimp only
      repeat' split
      all_goals rfl
    · rfl

@[simp]
theorem thresholds_observe (kind : ProbeKind) (success : Bool) :
    (health.observe kind success).1.thresholds = health.thresholds :=
  (observe_keeps kind success).2

/-- Whether an instance serves changes exactly as the actions say that follow from an answer. -/
theorem serving_observe (kind : ProbeKind) (success : Bool) :
    (health.observe kind success).1.serving =
      (health.observe kind success).2.foldl HealthAction.routes health.serving := by
  unfold observe
  split
  · rfl
  · split
    · unfold observeStartup
      dsimp only
      repeat' split
      all_goals rfl
    · unfold observeLiveness
      dsimp only
      cases health.serving <;> split <;> rfl
    · unfold observeReadiness
      dsimp only
      repeat' split
      all_goals rfl
    · rfl

/-! ## Failures in a row -/

/-- How many answers to a kind have failed in a row. -/
def failures (health : Health) (kind : ProbeKind) : Nat := (health.streaks.get kind).failures

/-- Whether answers to a kind count. -/
def counts (health : Health) (kind : ProbeKind) : Bool :=
  (health.thresholds.get kind).isSome &&
    match health.lifecycle, kind with
    | .starting, .startup => true
    | .running, .liveness => true
    | .running, .readiness => true
    | _, _ => false

/-- No failures are counted for the kinds whose answers do not count. -/
def Idle (health : Health) : Prop := ∀ kind, health.counts kind = false → health.failures kind = 0

theorem idle_enter (restarts : Nat) (thresholds : PerKind (Option Thresholds)) :
    (enter restarts thresholds).Idle := by
  intro kind _
  cases kind <;> rfl

theorem failures_enter (restarts : Nat) (thresholds : PerKind (Option Thresholds))
    (kind : ProbeKind) : (enter restarts thresholds).failures kind = 0 := by
  cases kind <;> rfl

theorem observe_of_not_counts {kind : ProbeKind} (ignored : health.counts kind = false)
    (success : Bool) : health.observe kind success = (health, []) := by
  unfold observe
  split
  · rfl
  · rename_i thresholds found
    unfold counts at ignored
    rw [found, Option.isSome_some, Bool.true_and] at ignored
    split
    · rename_i starting
      simp [starting] at ignored
    · rename_i running
      simp [running] at ignored
    · rename_i running
      simp [running] at ignored
    · rfl

theorem lifecycle_of_counts {kind : ProbeKind} (counted : health.counts kind = true) :
    health.lifecycle = if kind = .startup then .starting else .running := by
  unfold counts at counted
  cases lifecycle : health.lifecycle <;> cases kind <;> simp [lifecycle] at counted ⊢

/-- Startup answers count while an instance starts, and the other answers while it runs. -/
theorem counts_iff {kind : ProbeKind} :
    health.counts kind = true ↔
      (health.thresholds.get kind).isSome = true ∧
        (health.lifecycle = .starting ∧ kind = .startup ∨
          health.lifecycle = .running ∧ kind ≠ .startup) := by
  unfold counts
  cases health.lifecycle <;> cases kind <;> simp

theorem observe_startup {thresholds : Thresholds} (stage : health.lifecycle = .starting)
    (found : health.thresholds.get .startup = some thresholds) (success : Bool) :
    health.observe .startup success = health.observeStartup thresholds success := by
  simp [observe, found, stage]

theorem observe_liveness {thresholds : Thresholds} (stage : health.lifecycle = .running)
    (found : health.thresholds.get .liveness = some thresholds) (success : Bool) :
    health.observe .liveness success = health.observeLiveness thresholds success := by
  simp [observe, found, stage]

theorem observe_readiness {thresholds : Thresholds} (stage : health.lifecycle = .running)
    (found : health.thresholds.get .readiness = some thresholds) (success : Bool) :
    health.observe .readiness success = health.observeReadiness thresholds success := by
  simp [observe, found, stage]

/-- A restart follows from an answer only after the instance was taken out of routing. -/
theorem restart_observe {kind : ProbeKind} {success : Bool}
    (restarts : .restart ∈ (health.observe kind success).2) :
    (health.observe kind success).1.serving = false ∧
      (health.observe kind success).2 =
        if health.serving then [.removeFromRouting, .restart] else [.restart] := by
  cases counted : health.counts kind with
  | false =>
    rw [observe_of_not_counts counted] at restarts
    cases restarts
  | true =>
    rcases counts_iff.1 counted with ⟨configured, place⟩
    rcases Option.isSome_iff_exists.1 configured with ⟨thresholds, found⟩
    cases kind with
    | startup =>
      have stage : health.lifecycle = .starting := by simpa using place
      rw [observe_startup stage found] at restarts
      unfold observeStartup at restarts
      dsimp only at restarts
      revert restarts
      repeat' split
      all_goals simp
    | liveness =>
      have stage : health.lifecycle = .running := by simpa using place
      rw [observe_liveness stage found] at restarts ⊢
      unfold observeLiveness at restarts ⊢
      dsimp only at restarts ⊢
      split
      · exact ⟨rfl, rfl⟩
      · rename_i notEnough
        rw [if_neg notEnough] at restarts
        cases restarts
    | readiness =>
      have stage : health.lifecycle = .running := by simpa using place
      rw [observe_readiness stage found] at restarts
      unfold observeReadiness at restarts
      dsimp only at restarts
      revert restarts
      repeat' split
      all_goals simp

/-- An answer that counts is recorded for its kind, and nothing else is. -/
theorem streaks_observe {kind : ProbeKind} (counted : health.counts kind = true) (success : Bool) :
    (health.observe kind success).1.streaks =
      health.streaks.set kind ((health.streaks.get kind).record success) := by
  have stands := lifecycle_of_counts counted
  rcases Option.isSome_iff_exists.1 (Bool.and_eq_true_iff.1 counted).1 with ⟨thresholds, found⟩
  unfold observe
  rw [found, stands]
  cases kind with
  | startup =>
    show (health.observeStartup thresholds success).1.streaks = _
    unfold observeStartup
    dsimp only
    repeat' split
    all_goals rfl
  | liveness =>
    show (health.observeLiveness thresholds success).1.streaks = _
    unfold observeLiveness
    dsimp only
    split <;> rfl
  | readiness =>
    show (health.observeReadiness thresholds success).1.streaks = _
    unfold observeReadiness
    dsimp only
    repeat' split
    all_goals rfl

theorem failures_observe_of_ne {kind other : ProbeKind} (different : other ≠ kind)
    (success : Bool) : (health.observe kind success).1.failures other = health.failures other := by
  cases counted : health.counts kind with
  | false => rw [observe_of_not_counts counted]
  | true =>
    unfold failures
    rw [streaks_observe counted, PerKind.get_set_of_ne _ _ different]

/-- The failures in a row after an answer are those with which all answers end. -/
theorem exists_replicate_failures (idle : health.Idle) (kind : ProbeKind) (success : Bool) :
    ∃ front, List.replicate (health.failures kind) false ++ [success] =
      front ++ List.replicate ((health.observe kind success).1.failures kind) false := by
  cases counted : health.counts kind with
  | false =>
    rw [observe_of_not_counts counted, idle kind counted]
    exact ⟨[success], rfl⟩
  | true =>
    unfold failures
    rw [streaks_observe counted, PerKind.get_set_self]
    cases success with
    | true => exact ⟨List.replicate _ false ++ [true], (List.append_nil _).symm⟩
    | false =>
      -- Beyond the limit the count stays, and the answers that it leaves out come first.
      have counted : (Streak.record (health.streaks.get kind) false).failures ≤
          (health.streaks.get kind).failures + 1 := Streak.failures_record_le _ _
      refine ⟨List.replicate ((health.streaks.get kind).failures + 1 -
        (Streak.record (health.streaks.get kind) false).failures) false, ?_⟩
      rw [← List.replicate_succ', List.replicate_append_replicate, Nat.sub_add_cancel counted]

/-- As long as nothing is replaced, an instance only ever goes from starting to running, and that at
a success. -/
theorem lifecycle_observe {kind : ProbeKind} {success : Bool}
    (quiet : Quiet (health.observe kind success)) :
    (health.observe kind success).1.lifecycle = health.lifecycle ∨
      kind = .startup ∧ success = true ∧
        (health.observe kind success).1.lifecycle = .running := by
  revert quiet
  unfold observe
  split
  · exact fun _ => Or.inl rfl
  · split
    · unfold observeStartup
      dsimp only
      split
      · rename_i passed
        refine fun _ => Or.inr ⟨rfl, passed, ?_⟩
        split <;> rfl
      · split
        · exact fun quiet => nomatch quiet.1
        · exact fun _ => Or.inl rfl
    · unfold observeLiveness
      dsimp only
      split
      · exact fun quiet => nomatch quiet.1
      · exact fun _ => Or.inl rfl
    · unfold observeReadiness
      dsimp only
      repeat' split
      all_goals exact fun _ => Or.inl rfl
    · exact fun _ => Or.inl rfl

theorem idle_observe (idle : health.Idle) {kind : ProbeKind} {success : Bool}
    (quiet : Quiet (health.observe kind success)) : (health.observe kind success).1.Idle := by
  intro other ignored
  rcases lifecycle_observe quiet with same | ⟨rfl, rfl, running⟩
  · have former : health.counts other = false := by
      rw [← ignored]
      unfold counts
      rw [same, thresholds_observe]
    by_cases own : other = kind
    · subst own
      rw [observe_of_not_counts former]
      exact idle other former
    · rw [failures_observe_of_ne own]
      exact idle other former
  · -- The instance runs from now on; of the kinds that count now, none has counted before.
    cases counted : health.counts .startup with
    | false =>
      rw [observe_of_not_counts counted] at ignored ⊢
      exact idle other ignored
    | true =>
      by_cases own : other = .startup
      · subst own
        unfold failures
        rw [streaks_observe counted, PerKind.get_set_self]
        rfl
      · rw [failures_observe_of_ne own]
        apply idle
        have starting : health.lifecycle = .starting := lifecycle_of_counts counted
        unfold counts
        rw [starting]
        cases other with
        | startup => exact absurd rfl own
        | liveness => simp
        | readiness => simp

theorem not_repairing {outcome : Health × List HealthAction}
    (quiet : ∀ action ∈ outcome.2, action.repairs = false) : ¬Repairing outcome := by
  rintro ⟨front, last, actions, repairs, -⟩
  have harmless := quiet last (by simp [actions])
  rw [harmless] at repairs
  cases repairs

/-- Only a failure leads to a repair, and only after enough of them in a row. -/
theorem failed_of_repairing {kind : ProbeKind} {success : Bool}
    (repairing : Repairing (health.observe kind success)) :
    success = false ∧ (kind = .startup ∨ kind = .liveness) ∧
      ∃ thresholds, health.thresholds.get kind = some thresholds ∧
        thresholds.failure ≤ health.failures kind + 1 := by
  unfold observe at repairing
  split at repairing
  · exact absurd repairing (not_repairing (by simp))
  · rename_i thresholds found
    split at repairing
    · unfold observeStartup at repairing
      dsimp only at repairing
      split at repairing
      · refine absurd repairing (not_repairing ?_)
        split <;> simp [HealthAction.repairs]
      · rename_i failed
        split at repairing
        · rename_i reached
          have failed : success = false := by simpa using failed
          subst failed
          exact ⟨rfl, Or.inl rfl, thresholds, found,
            Nat.le_trans reached (Streak.failures_record_le _ _)⟩
        · exact absurd repairing (not_repairing (by simp))
    · unfold observeLiveness at repairing
      dsimp only at repairing
      split at repairing
      · rename_i reached
        rw [Bool.and_eq_true, Bool.not_eq_true', decide_eq_true_eq] at reached
        rcases reached with ⟨failed, reached⟩
        subst failed
        exact ⟨rfl, Or.inr rfl, thresholds, found,
          Nat.le_trans reached (Streak.failures_record_le _ _)⟩
      · exact absurd repairing (not_repairing (by simp))
    · unfold observeReadiness at repairing
      dsimp only at repairing
      refine absurd repairing (not_repairing ?_)
      repeat' split
      all_goals simp [HealthAction.repairs]
    · exact absurd repairing (not_repairing (by simp))

end Health

end Convoy
