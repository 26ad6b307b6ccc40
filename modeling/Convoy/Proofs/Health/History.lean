import Convoy.Proofs.Health
import Mathlib.Data.List.Infix

/-!
# What the history of an instance says

The health of an instance is kept in counts and flags, which start again whenever the instance is
replaced. Here it is said without them, as a law about all the answers since then: the startup
answers say whether the instance has started and since when it runs, the liveness answers since then
whether it has to be restarted, and the readiness answers since then whether it serves. The counts
stop at a limit and the history does not, so thresholds must not lie beyond that limit.
-/

namespace Convoy

/-- One answer to a probe. -/
structure Observation where
  kind : ProbeKind
  success : Bool
  deriving DecidableEq

namespace Observation

/-- The answers to one kind of probe, in order. -/
def answers (kind : ProbeKind) (observations : List Observation) : List Bool :=
  (observations.filter (·.kind = kind)).map (·.success)

theorem answers_append (kind : ProbeKind) (first second : List Observation) :
    answers kind (first ++ second) = answers kind first ++ answers kind second := by
  rw [answers, List.filter_append, List.map_append]
  rfl

theorem answers_concat_self (kind : ProbeKind) (observations : List Observation) (success : Bool) :
    answers kind (observations ++ [⟨kind, success⟩]) = answers kind observations ++ [success] := by
  simp [answers]

theorem answers_concat_of_ne {kind : ProbeKind} {observation : Observation}
    (different : observation.kind ≠ kind) (observations : List Observation) :
    answers kind (observations ++ [observation]) = answers kind observations := by
  simp [answers, different]

/-- What comes after the first of some observation is the same however a list is split there. -/
theorem eq_of_first {first : Observation}
    {before other early late : List Observation} (notBefore : first ∉ before)
    (notOther : first ∉ other) (same : before ++ first :: early = other ++ first :: late) :
    early = late := by
  induction before generalizing other with
  | nil =>
    cases other with
    | nil => exact (List.cons.inj same).2
    | cons head rest => exact absurd (List.cons.inj same).1 (List.ne_of_not_mem_cons notOther)
  | cons head rest induction =>
    cases other with
    | nil => exact absurd (List.cons.inj same).1.symm (List.ne_of_not_mem_cons notBefore)
    | cons otherHead otherRest =>
      exact induction (List.not_mem_of_not_mem_cons notBefore)
        (List.not_mem_of_not_mem_cons notOther) (List.cons.inj same).2

end Observation

open Observation (answers)

/-! ## The course of an instance's health -/

/-- What the health of an instance learns: an answer, or that the instance was replaced. -/
inductive HealthEvent where
  | observed (observation : Observation)
  | replaced

/-- Whether an event is the replacement of an instance. -/
def HealthEvent.replaces : HealthEvent → Bool
  | observed _ => false
  | replaced => true

/-- The course of an instance's health since the instance was last replaced: how it began, the
answers since then, what followed from them, and where it stands. -/
structure HealthCourse where
  first : Health
  observations : List Observation
  actions : List HealthAction
  health : Health

namespace HealthCourse

/-- A course in which nothing has happened yet. -/
def start (health : Health) : HealthCourse := ⟨health, [], [], health⟩

/-- A course with one more answer. -/
def observe (course : HealthCourse) (observation : Observation) : HealthCourse where
  first := course.first
  observations := course.observations ++ [observation]
  actions := course.actions ++ (course.health.observe observation.kind observation.success).2
  health := (course.health.observe observation.kind observation.success).1

/-- The course after one more event. -/
def next (course : HealthCourse) : HealthEvent → HealthCourse
  | .observed observation => course.observe observation
  | .replaced => start course.health.restarted

/-- The course that the health of an instance with some probes takes. -/
def ofEvents (probes : ProbeSet) (events : List HealthEvent) : HealthCourse :=
  events.foldl next (start (.ofProbes probes))

theorem ofEvents_concat (probes : ProbeSet) (events : List HealthEvent) (event : HealthEvent) :
    ofEvents probes (events ++ [event]) = (ofEvents probes events).next event := by
  rw [ofEvents, List.foldl_append]
  rfl

/-- The thresholds are those of the probes, whatever happens. -/
theorem thresholds_ofEvents (probes : ProbeSet) (events : List HealthEvent) :
    (ofEvents probes events).health.thresholds = probes.map (·.map Thresholds.ofProbe) := by
  induction events using List.reverseRecOn with
  | nil => rfl
  | append_singleton events event induction =>
    rw [ofEvents_concat]
    cases event with
    | observed observation => exact (Health.thresholds_observe _ _).trans induction
    | replaced => exact induction

/-- The restarts that are counted are the replacements: 32 bits hold the count as long as there are
fewer than 2^32 of them. No other part of the law reads it (`Health.observe_recounted`), and a
supervisor replaces an instance no more often than its options allow. -/
theorem restarts_ofEvents (probes : ProbeSet) (events : List HealthEvent) :
    (ofEvents probes events).health.restarts = events.countP HealthEvent.replaces := by
  induction events using List.reverseRecOn with
  | nil => rfl
  | append_singleton events event induction =>
    rw [ofEvents_concat, List.countP_append, ← induction]
    cases event with
    | observed observation => exact Health.restarts_observe _ _
    | replaced => rfl

/-- What holds when an instance is launched, and at each answer if it held before, holds after all
events. -/
theorem ofEvents_induction {probes : ProbeSet} {motive : HealthCourse → Prop}
    (started : ∀ restarts,
      motive (start (.enter restarts (probes.map (·.map Thresholds.ofProbe)))))
    (observed : ∀ course observation,
      course.health.thresholds = probes.map (·.map Thresholds.ofProbe) → motive course →
        motive (course.observe observation))
    (events : List HealthEvent) : motive (ofEvents probes events) := by
  induction events using List.reverseRecOn with
  | nil => exact started 0
  | append_singleton events event induction =>
    have thresholds := thresholds_ofEvents probes events
    rw [ofEvents_concat]
    cases event with
    | observed observation => exact observed _ _ thresholds induction
    | replaced =>
      have again : (ofEvents probes events).health.restarted =
          .enter ((ofEvents probes events).health.restarts + 1)
            (probes.map (·.map Thresholds.ofProbe)) := by
        rw [Health.restarted, thresholds]
      rw [next, again]
      exact started _

end HealthCourse

/-! ## The law -/

namespace Probe

/-- How many failures in a row it takes; a threshold of zero acts like one. -/
def failuresNeeded (probe : Probe) : Nat := max probe.failureThreshold 1

/-- How many successes in a row it takes; a threshold of zero acts like one. -/
def successesNeeded (probe : Probe) : Nat := max probe.successThreshold 1

/-- So many successes in a row as it takes, and after them never so many failures in a row. -/
def Admits (probe : Probe) (answers : List Bool) : Prop :=
  ∃ before after, answers = before ++ List.replicate probe.successesNeeded true ++ after ∧
    ¬ List.replicate probe.failuresNeeded false <:+: after

theorem failuresNeeded_pos (probe : Probe) : 0 < probe.failuresNeeded :=
  Nat.lt_of_lt_of_le Nat.zero_lt_one (Nat.le_max_right _ _)

theorem successesNeeded_pos (probe : Probe) : 0 < probe.successesNeeded :=
  Nat.lt_of_lt_of_le Nat.zero_lt_one (Nat.le_max_right _ _)

end Probe

namespace ProbeSet

/-- No threshold lies beyond the limit up to which answers are counted. -/
def Countable (probes : ProbeSet) : Prop :=
  ∀ kind probe, probes.get kind = some probe →
    probe.failureThreshold ≤ Streak.countLimit ∧ probe.successThreshold ≤ Streak.countLimit

/-- No startup answer has been a success, and not enough of them have failed. -/
def Pending (probes : ProbeSet) (observations : List Observation) : Prop :=
  ∃ probe, probes.startup = some probe ∧ ⟨.startup, true⟩ ∉ observations ∧
    (answers .startup observations).length < probe.failuresNeeded

/-- The first startup answers have failed, as many as it takes. -/
def GivenUp (probes : ProbeSet) (observations : List Observation) : Prop :=
  ∃ probe, probes.startup = some probe ∧
    List.replicate probe.failuresNeeded false <+: answers .startup observations

/-- The instance runs from a moment on, after which certain answers came: at once if it has no
startup probe, and otherwise from the first startup success on, unless it was given up before. -/
inductive RunsSince (probes : ProbeSet) : List Observation → List Observation → Prop
  | atOnce {lived : List Observation} (unwatched : probes.startup = .none) :
      RunsSince probes lived lived
  | started {probe : Probe} {before lived : List Observation}
      (watched : probes.startup = some probe) (first : ⟨.startup, true⟩ ∉ before)
      (few : (answers .startup before).length < probe.failuresNeeded) :
      RunsSince probes (before ++ ⟨.startup, true⟩ :: lived) lived

/-- Among the answers since the instance runs, liveness has failed as often in a row as it takes. -/
def Condemned (probes : ProbeSet) (lived : List Observation) : Prop :=
  ∃ probe, probes.liveness = some probe ∧
    List.replicate probe.failuresNeeded false <:+: answers .liveness lived

/-- Going by the answers since the instance runs, it serves; without a readiness probe it does
always. -/
def Serves (probes : ProbeSet) (lived : List Observation) : Prop :=
  ∀ probe, probes.readiness = some probe → probe.Admits (answers .readiness lived)

/-- What the answers since an instance was launched say about where it stands and whether it
serves. -/
def Tells (probes : ProbeSet) (observations : List Observation) (serving : Bool) :
    Lifecycle → Prop
  | .starting => Pending probes observations ∧ serving = false
  | .failedToStart => GivenUp probes observations ∧ serving = false
  | .running => ∃ lived, RunsSince probes observations lived ∧ ¬ Condemned probes lived ∧
      (serving = true ↔ Serves probes lived)
  | .restarting => ∃ lived, RunsSince probes observations lived ∧ Condemned probes lived ∧
      serving = false

variable {probes : ProbeSet} {observations lived : List Observation} {observation : Observation}

theorem RunsSince.concat (runs : RunsSince probes observations lived)
    (observation : Observation) :
    RunsSince probes (observations ++ [observation]) (lived ++ [observation]) := by
  cases runs with
  | atOnce unwatched => exact .atOnce unwatched
  | started watched first few =>
    rw [List.append_assoc, List.cons_append]
    exact .started watched first few

theorem RunsSince.eq_of_unwatched (runs : RunsSince probes observations lived)
    (unwatched : probes.startup = .none) : lived = observations := by
  cases runs with
  | atOnce => rfl
  | started watched => rw [unwatched] at watched; cases watched

theorem RunsSince.exists_before {probe : Probe} (runs : RunsSince probes observations lived)
    (watched : probes.startup = some probe) :
    ∃ before, observations = before ++ ⟨.startup, true⟩ :: lived ∧ ⟨.startup, true⟩ ∉ before ∧
      (answers .startup before).length < probe.failuresNeeded := by
  cases runs with
  | atOnce unwatched => rw [unwatched] at watched; cases watched
  | started alsoWatched first few =>
    cases watched.symm.trans alsoWatched
    exact ⟨_, rfl, first, few⟩

/-- An instance runs from one moment on. -/
theorem RunsSince.unique {other : List Observation} (runs : RunsSince probes observations lived)
    (also : RunsSince probes observations other) : other = lived := by
  cases watched : probes.startup with
  | none => rw [also.eq_of_unwatched watched, runs.eq_of_unwatched watched]
  | some probe =>
    rcases runs.exists_before watched with ⟨before, split, first, -⟩
    rcases also.exists_before watched with ⟨otherBefore, otherSplit, otherFirst, -⟩
    exact Observation.eq_of_first otherFirst first (otherSplit.symm.trans split)

theorem Pending.not_runsSince (pending : Pending probes observations) :
    ¬ RunsSince probes observations lived := by
  intro runs
  rcases pending with ⟨probe, watched, unsuccessful, -⟩
  rcases runs.exists_before watched with ⟨before, rfl, -, -⟩
  exact unsuccessful (List.mem_append_right _ List.mem_cons_self)

theorem GivenUp.not_pending (givenUp : GivenUp probes observations) :
    ¬ Pending probes observations := by
  rintro ⟨probe, watched, -, few⟩
  rcases givenUp with ⟨same, alsoWatched, failed⟩
  cases watched.symm.trans alsoWatched
  have enough := failed.length_le
  rw [List.length_replicate] at enough
  omega

theorem GivenUp.not_runsSince (givenUp : GivenUp probes observations) :
    ¬ RunsSince probes observations lived := by
  intro runs
  rcases givenUp with ⟨probe, watched, failed⟩
  rcases runs.exists_before watched with ⟨before, rfl, -, few⟩
  have upToSuccess : answers .startup before ++ [true] <+:
      answers .startup (before ++ ⟨.startup, true⟩ :: lived) := by
    rw [Observation.answers_append]
    exact ⟨answers .startup lived, by simp [answers]⟩
  have inside : answers .startup before ++ [true] <+: List.replicate probe.failuresNeeded false :=
    List.prefix_of_prefix_length_le upToSuccess failed (by simpa using Nat.succ_le_of_lt few)
  have member : true ∈ List.replicate probe.failuresNeeded false :=
    inside.subset (List.mem_append_right _ List.mem_cons_self)
  cases List.eq_of_mem_replicate member

/-- A history says one thing only. -/
theorem Tells.unique {serving otherServing : Bool} {lifecycle other : Lifecycle}
    (tells : Tells probes observations serving lifecycle)
    (also : Tells probes observations otherServing other) :
    other = lifecycle ∧ otherServing = serving := by
  cases lifecycle with
  | starting =>
    rcases tells with ⟨pending, rfl⟩
    cases other with
    | starting => exact ⟨rfl, also.2⟩
    | running =>
      rcases also with ⟨lived, runs, -⟩
      exact absurd runs pending.not_runsSince
    | restarting =>
      rcases also with ⟨lived, runs, -⟩
      exact absurd runs pending.not_runsSince
    | failedToStart => exact absurd pending also.1.not_pending
  | running =>
    rcases tells with ⟨lived, runs, alive, serves⟩
    cases other with
    | starting => exact absurd runs also.1.not_runsSince
    | running =>
      rcases also with ⟨otherLived, otherRuns, -, otherServes⟩
      cases runs.unique otherRuns
      exact ⟨rfl, Bool.eq_iff_iff.2 (otherServes.trans serves.symm)⟩
    | restarting =>
      rcases also with ⟨otherLived, otherRuns, condemned, -⟩
      cases runs.unique otherRuns
      exact absurd condemned alive
    | failedToStart => exact absurd runs also.1.not_runsSince
  | restarting =>
    rcases tells with ⟨lived, runs, condemned, rfl⟩
    cases other with
    | starting => exact absurd runs also.1.not_runsSince
    | running =>
      rcases also with ⟨otherLived, otherRuns, alive, -⟩
      cases runs.unique otherRuns
      exact absurd condemned alive
    | restarting =>
      rcases also with ⟨-, -, -, idle⟩
      exact ⟨rfl, idle⟩
    | failedToStart => exact absurd runs also.1.not_runsSince
  | failedToStart =>
    rcases tells with ⟨givenUp, rfl⟩
    cases other with
    | starting => exact absurd also.1 givenUp.not_pending
    | running =>
      rcases also with ⟨lived, runs, -⟩
      exact absurd runs givenUp.not_runsSince
    | restarting =>
      rcases also with ⟨lived, runs, -⟩
      exact absurd runs givenUp.not_runsSince
    | failedToStart => exact ⟨rfl, also.2⟩

end ProbeSet

/-! ## One more answer -/

namespace Probe

variable {probe : Probe}

/-- If a list of answers has gone on after enough successes in a row, enough failures in a row at
its end have come since then. -/
theorem suffix_of_suffix_append {before after : List Bool}
    (failed : List.replicate probe.failuresNeeded false <:+
      before ++ List.replicate probe.successesNeeded true ++ after) :
    List.replicate probe.failuresNeeded false <:+ after := by
  have latest : true :: after <:+
      before ++ List.replicate probe.successesNeeded true ++ after := by
    rw [← Nat.sub_add_cancel probe.successesNeeded_pos, List.replicate_succ']
    exact ⟨before ++ List.replicate (probe.successesNeeded - 1) true, by simp⟩
  rcases List.suffix_or_suffix_of_suffix failed latest with inside | outside
  · rcases List.suffix_cons_iff.1 inside with whole | suffix
    · have member : true ∈ List.replicate probe.failuresNeeded false := by
        rw [whole]
        exact List.mem_cons_self
      cases List.eq_of_mem_replicate member
    · exact suffix
  · cases List.eq_of_mem_replicate (outside.subset List.mem_cons_self)

/-- One more answer: enough successes in a row let an instance serve, enough failures in a row keep
it from serving, and otherwise nothing changes. -/
theorem admits_concat_iff {answers : List Bool} {last : Bool} :
    probe.Admits (answers ++ [last]) ↔
      List.replicate probe.successesNeeded true <:+ answers ++ [last] ∨
        (probe.Admits answers ∧
          ¬ List.replicate probe.failuresNeeded false <:+ answers ++ [last]) := by
  constructor
  · rintro ⟨before, after, split, steady⟩
    rcases List.eq_nil_or_concat after with rfl | ⟨front, final, rfl⟩
    · left
      rw [split, List.append_nil]
      exact List.suffix_append _ _
    · right
      have unfailed : ¬ List.replicate probe.failuresNeeded false <:+ answers ++ [last] := by
        rw [split]
        exact fun failed => steady (suffix_of_suffix_append failed).isInfix
      rw [List.concat_eq_append] at split steady
      rw [← List.append_assoc] at split
      refine ⟨⟨before, front, (List.append_inj' split rfl).1, fun failed => steady ?_⟩, unfailed⟩
      exact failed.trans (List.prefix_append _ _).isInfix
  · rintro (⟨before, split⟩ | ⟨⟨before, after, rfl, steady⟩, unfailed⟩)
    · refine ⟨before, [], by rw [← split, List.append_nil], fun failed => ?_⟩
      have none := failed.length_le
      have positive := probe.failuresNeeded_pos
      rw [List.length_replicate, List.length_nil] at none
      omega
    · refine ⟨before, after ++ [last], by simp, fun failed => ?_⟩
      rcases List.infix_concat_iff.1 failed with atEnd | earlier
      · refine unfailed (atEnd.trans ?_)
        rw [List.append_assoc]
        exact List.suffix_append _ _
      · exact steady earlier

theorem not_admits_nil : ¬ probe.Admits [] := by
  rintro ⟨before, after, split, -⟩
  have long := congrArg List.length split
  have positive := probe.successesNeeded_pos
  simp only [List.length_append, List.length_replicate, List.length_nil] at long
  omega

end Probe

namespace ProbeSet

variable {probes : ProbeSet} {lived : List Observation} {observation : Observation}

theorem not_condemned_nil : ¬ Condemned probes [] := by
  rintro ⟨probe, -, failed⟩
  have none := failed.length_le
  have positive := probe.failuresNeeded_pos
  rw [List.length_replicate, answers, List.filter_nil, List.map_nil, List.length_nil] at none
  omega

/-- Once an instance has to be restarted, no later answer changes that. -/
theorem Condemned.concat (condemned : Condemned probes lived) (observation : Observation) :
    Condemned probes (lived ++ [observation]) := by
  rcases condemned with ⟨probe, watched, failed⟩
  refine ⟨probe, watched, failed.trans ?_⟩
  rw [Observation.answers_append]
  exact (List.prefix_append _ _).isInfix

theorem condemned_concat_of_ne (different : observation.kind ≠ .liveness) :
    Condemned probes (lived ++ [observation]) ↔ Condemned probes lived := by
  simp only [Condemned, Observation.answers_concat_of_ne different]

theorem condemned_concat_liveness {probe : Probe} (watched : probes.liveness = some probe)
    (success : Bool) :
    Condemned probes (lived ++ [⟨.liveness, success⟩]) ↔
      List.replicate probe.failuresNeeded false <:+ answers .liveness lived ++ [success] ∨
        Condemned probes lived := by
  simp [Condemned, watched, Observation.answers_concat_self, List.infix_concat_iff]

theorem serves_concat_of_ne (different : observation.kind ≠ .readiness) :
    Serves probes (lived ++ [observation]) ↔ Serves probes lived := by
  simp only [Serves, Observation.answers_concat_of_ne different]

theorem serves_concat_readiness {probe : Probe} (watched : probes.readiness = some probe)
    (success : Bool) :
    Serves probes (lived ++ [⟨.readiness, success⟩]) ↔
      List.replicate probe.successesNeeded true <:+ answers .readiness lived ++ [success] ∨
        (Serves probes lived ∧
          ¬ List.replicate probe.failuresNeeded false <:+
            answers .readiness lived ++ [success]) := by
  simp [Serves, watched, Observation.answers_concat_self, Probe.admits_concat_iff]

theorem serves_nil_iff : Serves probes [] ↔ probes.readiness = .none := by
  cases watched : probes.readiness with
  | none => simp [Serves, watched]
  | some probe => simp [Serves, watched, answers, Probe.not_admits_nil]

theorem GivenUp.concat {observations : List Observation} (givenUp : GivenUp probes observations)
    (observation : Observation) : GivenUp probes (observations ++ [observation]) := by
  rcases givenUp with ⟨probe, watched, failed⟩
  refine ⟨probe, watched, failed.trans ?_⟩
  rw [Observation.answers_append]
  exact List.prefix_append _ _

theorem pending_concat_of_ne {observations : List Observation}
    (different : observation.kind ≠ .startup) (pending : Pending probes observations) :
    Pending probes (observations ++ [observation]) := by
  rcases pending with ⟨probe, watched, unsuccessful, few⟩
  refine ⟨probe, watched, ?_, ?_⟩
  · intro member
    rcases List.mem_append.1 member with before | last
    · exact unsuccessful before
    · rw [← List.mem_singleton.1 last] at different
      exact different rfl
  · rwa [Observation.answers_concat_of_ne different]

end ProbeSet

end Convoy
