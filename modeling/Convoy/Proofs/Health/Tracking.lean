import Convoy.Proofs.Health.History

/-!
# Health follows history

The counts and flags of an instance's health are tied to the answers since the instance was last
replaced by an invariant that every answer keeps, whether it counts or not. So where the instance
stands and whether it serves is what the history says, and nothing else.
-/

namespace Convoy

open Observation (answers)

/-! ## Counts and history -/

namespace Streak

theorem replicate_suffix_concat_iff {value last : Bool} {count : Nat} {answers : List Bool} :
    List.replicate count value <:+ answers ++ [last] ↔
      count = 0 ∨ value = last ∧ List.replicate (count - 1) value <:+ answers := by
  cases count with
  | zero => simp
  | succ fewer =>
    rw [List.replicate_succ', List.suffix_concat_iff]
    constructor
    · rintro (empty | ⟨front, same, ends⟩)
      · simp at empty
      · rcases List.append_inj' same rfl with ⟨rfl, equal⟩
        exact Or.inr ⟨List.singleton_inj.1 equal, ends⟩
    · rintro (zero | ⟨rfl, ends⟩)
      · cases zero
      · exact Or.inr ⟨_, rfl, ends⟩

theorem eq_of_suffix {value last : Bool} {count : Nat} {answers : List Bool}
    (positive : 0 < count) (ends : List.replicate count value <:+ answers ++ [last]) :
    last = value := by
  rcases replicate_suffix_concat_iff.1 ends with zero | ⟨same, -⟩
  · omega
  · exact same.symm

/-- The counts are those of the answers alike with which a list of answers ends, as far as answers
are counted. -/
def Counts (streak : Streak) (answers : List Bool) : Prop :=
  ∀ count ≤ countLimit,
    (count ≤ streak.successes ↔ List.replicate count true <:+ answers) ∧
      (count ≤ streak.failures ↔ List.replicate count false <:+ answers)

theorem counts_zero : zero.Counts [] := by
  intro count _
  simp [zero]

theorem Counts.record {streak : Streak} {answers : List Bool} (counts : streak.Counts answers)
    (success : Bool) : (streak.record success).Counts (answers ++ [success]) := by
  intro count limited
  have fewer := counts (count - 1) (Nat.le_trans (Nat.sub_le _ _) limited)
  rw [replicate_suffix_concat_iff, replicate_suffix_concat_iff, ← fewer.1, ← fewer.2]
  cases success with
  | true =>
    simp only [Streak.record, if_true, Nat.le_min, limited, and_true, Nat.le_zero, reduceCtorEq,
      false_and, or_false, true_and]
    omega
  | false =>
    simp only [Streak.record, Bool.false_eq_true, if_false, Nat.le_min, limited, and_true,
      Nat.le_zero, reduceCtorEq, false_and, or_false, true_and]
    omega

end Streak

/-- A readiness answer leaves an instance where it is. -/
theorem Health.lifecycle_observeReadiness {health : Health} {thresholds : Thresholds}
    {success : Bool} :
    (health.observeReadiness thresholds success).1.lifecycle = health.lifecycle := by
  unfold observeReadiness
  dsimp only
  repeat' split
  all_goals rfl

/-- After a readiness answer an instance serves if enough successes have been counted, or if it has
served before and not enough failures have. -/
theorem Health.serving_observeReadiness {health : Health} {thresholds : Thresholds}
    {success : Bool} :
    (health.observeReadiness thresholds success).1.serving = true ↔
      success = true ∧ thresholds.success ≤
          (health.streaks.readiness.record success).successes ∨
        health.serving = true ∧ ¬ (success = false ∧ thresholds.failure ≤
          (health.streaks.readiness.record success).failures) := by
  unfold observeReadiness
  dsimp only
  cases success <;> cases health.serving <;> simp <;> split <;> simp_all

namespace ProbeSet

variable {probes : ProbeSet} {observations lived : List Observation} {observation : Observation}
  {health : Health}

/-- For the kinds of probe that ask a running instance, the counts are those of the answers since
the instance runs. -/
def Tallies (probes : ProbeSet) (lived : List Observation) (health : Health) : Prop :=
  ∀ kind, kind ≠ .startup → (probes.get kind).isSome →
    (health.streaks.get kind).Counts (answers kind lived)

/-- The health of an instance fits the answers since the instance was launched. -/
inductive Tracks (probes : ProbeSet) (observations : List Observation) (health : Health) : Prop
  | starting (stage : health.lifecycle = .starting) (pending : Pending probes observations)
      (idle : health.serving = false)
      (counted : health.streaks.startup.Counts (answers .startup observations))
      (fresh : ∀ kind, kind ≠ .startup → health.streaks.get kind = .zero)
  | failedToStart (stage : health.lifecycle = .failedToStart)
      (givenUp : GivenUp probes observations) (idle : health.serving = false)
  | running {lived : List Observation} (stage : health.lifecycle = .running)
      (runs : RunsSince probes observations lived) (alive : ¬ Condemned probes lived)
      (serves : health.serving = true ↔ Serves probes lived) (tallies : Tallies probes lived health)
  | restarting {lived : List Observation} (stage : health.lifecycle = .restarting)
      (runs : RunsSince probes observations lived) (condemned : Condemned probes lived)
      (idle : health.serving = false)

theorem Tracks.tells (tracks : Tracks probes observations health) :
    Tells probes observations health.serving health.lifecycle := by
  cases tracks with
  | starting stage pending idle => rw [stage]; exact ⟨pending, idle⟩
  | failedToStart stage givenUp idle => rw [stage]; exact ⟨givenUp, idle⟩
  | running stage runs alive serves => rw [stage]; exact ⟨_, runs, alive, serves⟩
  | restarting stage runs condemned idle => rw [stage]; exact ⟨_, runs, condemned, idle⟩

/-- An instance that was just launched fits a history without answers. -/
theorem tracks_enter (probes : ProbeSet) (restarts : Nat) :
    Tracks probes [] (.enter restarts (probes.map (·.map Thresholds.ofProbe))) := by
  have fresh : ∀ kind, (Health.enter restarts (probes.map (·.map Thresholds.ofProbe))).streaks.get
      kind = .zero := fun kind => PerKind.get_replicate kind Streak.zero
  cases watched : probes.startup with
  | some probe =>
    refine .starting ?_ ⟨probe, watched, List.not_mem_nil, probe.failuresNeeded_pos⟩ ?_
      Streak.counts_zero fun kind _ => fresh kind
    · simp [Health.enter, PerKind.map, watched]
    · simp [Health.enter, PerKind.map, watched]
  | none =>
    refine .running ?_ (.atOnce watched) not_condemned_nil ?_ ?_
    · simp [Health.enter, PerKind.map, watched]
    · rw [serves_nil_iff]
      simp [Health.enter, PerKind.map, watched]
    · intro kind _ _
      rw [fresh]
      exact Streak.counts_zero

theorem thresholds_get (known : health.thresholds = probes.map (·.map Thresholds.ofProbe))
    (kind : ProbeKind) :
    health.thresholds.get kind = (probes.get kind).map Thresholds.ofProbe := by
  rw [known, PerKind.get_map]

/-- Counts stay true at an answer that counts. -/
theorem Tallies.concat (tallies : Tallies probes lived health)
    (counted : health.counts observation.kind = true) :
    Tallies probes (lived ++ [observation])
      (health.observe observation.kind observation.success).1 := by
  intro kind later configured
  rw [Health.streaks_observe counted]
  by_cases own : kind = observation.kind
  · subst own
    rw [PerKind.get_set_self, Observation.answers_concat_self]
    exact (tallies _ later configured).record _
  · rw [PerKind.get_set_of_ne _ _ own, Observation.answers_concat_of_ne (Ne.symm own)]
    exact tallies kind later configured

/-- An answer that does not count says nothing new. -/
theorem Tracks.ignore (known : health.thresholds = probes.map (·.map Thresholds.ofProbe))
    (tracks : Tracks probes observations health)
    (ignored : health.counts observation.kind = false) :
    Tracks probes (observations ++ [observation]) health := by
  have uncounted : ¬ health.counts observation.kind = true := Bool.eq_false_iff.1 ignored
  rw [Health.counts_iff, thresholds_get known, Option.isSome_map] at uncounted
  cases tracks with
  | starting stage pending idle counted fresh =>
    have different : observation.kind ≠ .startup := by
      intro same
      rcases pending with ⟨probe, watched, -⟩
      exact uncounted ⟨by simp [same, PerKind.get, watched], Or.inl ⟨stage, same⟩⟩
    refine .starting stage (pending_concat_of_ne different pending) idle ?_ fresh
    rwa [Observation.answers_concat_of_ne different]
  | failedToStart stage givenUp idle => exact .failedToStart stage (givenUp.concat _) idle
  | @running lived stage runs alive serves tallies =>
    have other : ∀ kind, kind ≠ .startup → (probes.get kind).isSome →
        observation.kind ≠ kind := by
      rintro kind later configured rfl
      exact uncounted ⟨configured, Or.inr ⟨stage, later⟩⟩
    refine .running stage (runs.concat _) ?_ (serves.trans ?_) ?_
    · rintro ⟨probe, watched, failed⟩
      have different := other .liveness (by decide) (by simp [PerKind.get, watched])
      exact alive ((condemned_concat_of_ne different).1 ⟨probe, watched, failed⟩)
    · cases watched : probes.readiness with
      | none => simp [Serves, watched]
      | some probe =>
        have different := other .readiness (by decide) (by simp [PerKind.get, watched])
        exact (serves_concat_of_ne different).symm
    · intro kind later configured
      rw [Observation.answers_concat_of_ne (other kind later configured)]
      exact tallies kind later configured
  | restarting stage runs condemned idle =>
    exact .restarting stage (runs.concat _) (condemned.concat _) idle

/-- Startup answers that were no successes were failures. -/
theorem answers_eq_replicate (unsuccessful : ⟨.startup, true⟩ ∉ observations) :
    answers .startup observations =
      List.replicate (answers .startup observations).length false := by
  apply List.eq_replicate_of_mem
  intro answer member
  rcases List.mem_map.1 member with ⟨⟨kind, success⟩, asked, rfl⟩
  rcases List.mem_filter.1 asked with ⟨listed, same⟩
  cases of_decide_eq_true same
  cases success with
  | false => rfl
  | true => exact absurd listed unsuccessful

/-- A startup answer to an instance that has not started. -/
theorem Tracks.observeStartup {probe : Probe} {success : Bool}
    (known : health.thresholds = probes.map (·.map Thresholds.ofProbe))
    (countable : probe.failuresNeeded ≤ Streak.countLimit)
    (stage : health.lifecycle = .starting) (watched : probes.startup = some probe)
    (unsuccessful : ⟨.startup, true⟩ ∉ observations)
    (few : (answers .startup observations).length < probe.failuresNeeded)
    (idle : health.serving = false)
    (counted : health.streaks.startup.Counts (answers .startup observations))
    (fresh : ∀ kind, kind ≠ .startup → health.streaks.get kind = .zero) :
    Tracks probes (observations ++ [⟨.startup, success⟩])
      (health.observeStartup (.ofProbe probe) success).1 := by
  have readiness : health.thresholds.readiness.isNone = probes.readiness.isNone := by
    rw [known, PerKind.map, Option.isNone_map]
  have others : ∀ kind, kind ≠ .startup →
      (health.streaks.set .startup (health.streaks.startup.record success)).get kind = .zero :=
    fun kind later => (PerKind.get_set_of_ne _ _ later).trans (fresh kind later)
  have recorded := counted.record success
  cases success with
  | true =>
    have runs : RunsSince probes (observations ++ [⟨.startup, true⟩]) [] :=
      .started watched unsuccessful few
    have tallies : ∀ {after : Health}, after.streaks =
        health.streaks.set .startup (health.streaks.startup.record true) →
        Tallies probes [] after := by
      intro after same kind later _
      rw [same, others kind later]
      exact Streak.counts_zero
    unfold Health.observeStartup
    dsimp only
    rw [if_pos rfl, readiness]
    split
    · rename_i unwatched
      refine .running rfl runs not_condemned_nil ?_ (tallies rfl)
      simpa [serves_nil_iff] using unwatched
    · rename_i alsoWatched
      refine .running rfl runs not_condemned_nil ?_ (tallies rfl)
      simpa [serves_nil_iff, idle] using alsoWatched
  | false =>
    have reached := (recorded probe.failuresNeeded countable).2
    rw [← Observation.answers_concat_self] at reached
    have length : (answers .startup (observations ++ [⟨.startup, false⟩])).length =
        (answers .startup observations).length + 1 := by
      rw [Observation.answers_concat_self, List.length_append, List.length_singleton]
    unfold Health.observeStartup
    dsimp only
    rw [if_neg Bool.false_ne_true]
    split
    · rename_i enough
      have whole := (reached.1 enough).eq_of_length_le (by rw [List.length_replicate]; omega)
      exact .failedToStart rfl ⟨probe, watched, whole ▸ List.prefix_rfl⟩ idle
    · rename_i notEnough
      refine .starting stage ⟨probe, watched, ?_, ?_⟩ idle ?_ others
      · simpa using unsuccessful
      · -- If there were enough answers, all of them failures, they would be enough in a row.
        by_contra many
        refine notEnough (reached.2 ?_)
        have all : answers .startup (observations ++ [⟨.startup, false⟩]) =
            List.replicate probe.failuresNeeded false := by
          rw [answers_eq_replicate (by simpa using unsuccessful)]
          congr 1
          omega
        rw [all]
      · rwa [Observation.answers_concat_self]

/-- A liveness answer to a running instance. -/
theorem Tracks.observeLiveness {probe : Probe} {success : Bool}
    (countable : probe.failuresNeeded ≤ Streak.countLimit)
    (stage : health.lifecycle = .running) (watched : probes.liveness = some probe)
    (runs : RunsSince probes observations lived) (alive : ¬ Condemned probes lived)
    (serves : health.serving = true ↔ Serves probes lived)
    (counted : health.streaks.liveness.Counts (answers .liveness lived))
    (tallies : Tallies probes (lived ++ [⟨.liveness, success⟩])
      (health.observeLiveness (.ofProbe probe) success).1) :
    Tracks probes (observations ++ [⟨.liveness, success⟩])
      (health.observeLiveness (.ofProbe probe) success).1 := by
  have reached := (counted.record success probe.failuresNeeded countable).2
  unfold Health.observeLiveness at tallies ⊢
  dsimp only at tallies ⊢
  split
  · rename_i enough
    rw [Bool.and_eq_true, decide_eq_true_eq] at enough
    refine .restarting rfl (runs.concat _) ?_ rfl
    exact (condemned_concat_liveness watched success).2 (Or.inl (reached.1 enough.2))
  · rename_i notEnough
    rw [if_neg notEnough] at tallies
    refine .running stage (runs.concat _) ?_ ?_ tallies
    · rw [condemned_concat_liveness watched]
      rintro (failed | before)
      · rw [Bool.and_eq_true, decide_eq_true_eq, Bool.not_eq_true'] at notEnough
        exact notEnough ⟨Streak.eq_of_suffix probe.failuresNeeded_pos failed, reached.2 failed⟩
      · exact alive before
    · rw [serves_concat_of_ne (by simp)]
      exact serves

/-- A readiness answer to a running instance. -/
theorem Tracks.observeReadiness {probe : Probe} {success : Bool}
    (countableFailures : probe.failuresNeeded ≤ Streak.countLimit)
    (countableSuccesses : probe.successesNeeded ≤ Streak.countLimit)
    (stage : health.lifecycle = .running) (watched : probes.readiness = some probe)
    (runs : RunsSince probes observations lived) (alive : ¬ Condemned probes lived)
    (serves : health.serving = true ↔ Serves probes lived)
    (counted : health.streaks.readiness.Counts (answers .readiness lived))
    (tallies : Tallies probes (lived ++ [⟨.readiness, success⟩])
      (health.observeReadiness (.ofProbe probe) success).1) :
    Tracks probes (observations ++ [⟨.readiness, success⟩])
      (health.observeReadiness (.ofProbe probe) success).1 := by
  have recorded := counted.record success
  have admitted : success = true ∧ (Thresholds.ofProbe probe).success ≤
      (health.streaks.readiness.record success).successes ↔
        List.replicate probe.successesNeeded true <:+ answers .readiness lived ++ [success] := by
    rw [← (recorded probe.successesNeeded countableSuccesses).1]
    refine and_iff_right_of_imp fun enough => ?_
    exact Streak.eq_of_suffix probe.successesNeeded_pos
      ((recorded probe.successesNeeded countableSuccesses).1.1 enough)
  have refused : success = false ∧ (Thresholds.ofProbe probe).failure ≤
      (health.streaks.readiness.record success).failures ↔
        List.replicate probe.failuresNeeded false <:+ answers .readiness lived ++ [success] := by
    rw [← (recorded probe.failuresNeeded countableFailures).2]
    refine and_iff_right_of_imp fun enough => ?_
    exact Streak.eq_of_suffix probe.failuresNeeded_pos
      ((recorded probe.failuresNeeded countableFailures).2.1 enough)
  refine .running ?_ (runs.concat _) ?_ ?_ tallies
  · rw [Health.lifecycle_observeReadiness, stage]
  · rwa [condemned_concat_of_ne (by simp)]
  · rw [serves_concat_readiness watched, Health.serving_observeReadiness, serves, admitted,
      refused]

/-- An answer keeps health and history together. -/
theorem Tracks.concat (known : health.thresholds = probes.map (·.map Thresholds.ofProbe))
    (countable : Countable probes) (tracks : Tracks probes observations health)
    (observation : Observation) :
    Tracks probes (observations ++ [observation])
      (health.observe observation.kind observation.success).1 := by
  cases counted : health.counts observation.kind with
  | false =>
    rw [Health.observe_of_not_counts counted]
    exact tracks.ignore known counted
  | true =>
    rcases observation with ⟨kind, success⟩
    rcases Health.counts_iff.1 counted with ⟨configured, place⟩
    rw [thresholds_get known, Option.isSome_map] at configured
    rcases Option.isSome_iff_exists.1 configured with ⟨probe, watched⟩
    have found : health.thresholds.get kind = some (.ofProbe probe) := by
      rw [thresholds_get known, watched, Option.map_some]
    have limits := countable kind probe watched
    have failures : probe.failuresNeeded ≤ Streak.countLimit := Nat.max_le.2 ⟨limits.1, by decide⟩
    have successes : probe.successesNeeded ≤ Streak.countLimit :=
      Nat.max_le.2 ⟨limits.2, by decide⟩
    cases tracks with
    | starting stage pending idle counts fresh =>
      have startup : kind = .startup := by simpa [stage] using place
      subst startup
      rw [Health.observe_startup stage found]
      rcases pending with ⟨other, alsoWatched, unsuccessful, few⟩
      cases watched.symm.trans alsoWatched
      exact observeStartup known failures stage alsoWatched unsuccessful few idle counts fresh
    | failedToStart stage => simp [stage] at place
    | @running lived stage runs alive serves tallies =>
      have counts := fun later => tallies kind later configured
      have recorded := tallies.concat counted
      cases kind with
      | startup => simp [stage] at place
      | liveness =>
        rw [Health.observe_liveness stage found] at recorded ⊢
        exact observeLiveness failures stage watched runs alive serves (counts (by decide)) recorded
      | readiness =>
        rw [Health.observe_readiness stage found] at recorded ⊢
        exact observeReadiness failures successes stage watched runs alive serves
          (counts (by decide)) recorded
    | restarting stage => simp [stage] at place

end ProbeSet

namespace HealthCourse

variable {probes : ProbeSet}

theorem tracks_ofEvents (countable : probes.Countable) (events : List HealthEvent) :
    probes.Tracks (ofEvents probes events).observations (ofEvents probes events).health :=
  ofEvents_induction (motive := fun course => probes.Tracks course.observations course.health)
    (fun restarts => ProbeSet.tracks_enter probes restarts)
    (fun _ observation known tracks => tracks.concat known countable observation) events

/-- An instance that was given up, or that has to be restarted, takes in no answer. -/
theorem health_ofEvents_append {events : List HealthEvent}
    (finished : (ofEvents probes events).health.lifecycle = .failedToStart ∨
      (ofEvents probes events).health.lifecycle = .restarting) (later : List Observation) :
    (ofEvents probes (events ++ later.map .observed)).health =
      (ofEvents probes events).health := by
  induction later using List.reverseRecOn with
  | nil => rw [List.map_nil, List.append_nil]
  | append_singleton later observation induction =>
    have ignored : (ofEvents probes events).health.counts observation.kind = false := by
      rw [Bool.eq_false_iff, ne_eq, Health.counts_iff]
      rcases finished with stage | stage <;> simp [stage]
    rw [List.map_append, List.map_singleton, ← List.append_assoc, ofEvents_concat]
    show ((ofEvents probes (events ++ later.map .observed)).health.observe _ _).1 = _
    rw [induction, Health.observe_of_not_counts ignored]

/-- Where an instance stands and whether it serves is what the answers since it was last replaced
say, and they say nothing else. Answers to probes that there are not change nothing, and whether an
instance was given up or has to be restarted does not change before it is replaced. -/
theorem told_by_history (probes : ProbeSet) (countable : probes.Countable)
    (events : List HealthEvent) :
    (∀ lifecycle serving,
      probes.Tells (ofEvents probes events).observations serving lifecycle ↔
        (ofEvents probes events).health.lifecycle = lifecycle ∧
          (ofEvents probes events).health.serving = serving) ∧
      (∀ observation : Observation, probes.get observation.kind = none →
        (ofEvents probes (events ++ [.observed observation])).health =
          (ofEvents probes events).health) ∧
      ((ofEvents probes events).health.lifecycle = .failedToStart ∨
          (ofEvents probes events).health.lifecycle = .restarting →
        ∀ later : List Observation,
          (ofEvents probes (events ++ later.map .observed)).health =
            (ofEvents probes events).health) := by
  have tells := (tracks_ofEvents countable events).tells
  refine ⟨fun lifecycle serving => ⟨?_, ?_⟩, fun observation unwatched => ?_,
    health_ofEvents_append⟩
  · intro also
    have same := tells.unique also
    exact ⟨same.1.symm, same.2.symm⟩
  · rintro ⟨rfl, rfl⟩
    exact tells
  · have ignored : (ofEvents probes events).health.counts observation.kind = false := by
      rw [Bool.eq_false_iff, ne_eq, Health.counts_iff,
        ProbeSet.thresholds_get (thresholds_ofEvents probes events), unwatched]
      simp
    rw [ofEvents_concat]
    exact congrArg Prod.fst (Health.observe_of_not_counts ignored observation.success)

/-- Probes of all three kinds; one failure of liveness is enough, although none is asked for. -/
def watchful : ProbeSet where
  startup := some { Probe.ofHandler (.tcpSocket 80) with failureThreshold := 2 }
  liveness := some { Probe.ofHandler (.tcpSocket 80) with failureThreshold := 0 }
  readiness := some { Probe.ofHandler (.tcpSocket 80) with successThreshold := 2 }

/-- An instance that was replaced, starts after a failure and serves after two successes in a
row. -/
def watchful.story : List HealthEvent :=
  [.observed ⟨.startup, true⟩, .replaced, .observed ⟨.liveness, false⟩,
    .observed ⟨.startup, false⟩, .observed ⟨.startup, true⟩, .observed ⟨.readiness, true⟩,
    .observed ⟨.readiness, false⟩, .observed ⟨.readiness, true⟩, .observed ⟨.readiness, true⟩]

theorem watchful_countable : watchful.Countable := by
  rintro (- | - | -) probe watched <;> cases watched <;> decide

theorem watchful_told_by_history :
    watchful.Countable ∧
      watchful.Tells (ofEvents watchful watchful.story).observations true .running ∧
      watchful.Tells (ofEvents watchful (watchful.story ++
        [.observed ⟨.liveness, false⟩])).observations false .restarting :=
  ⟨watchful_countable,
    ((told_by_history watchful watchful_countable watchful.story).1 .running true).2 ⟨rfl, rfl⟩,
    ((told_by_history watchful watchful_countable _).1 .restarting false).2 ⟨rfl, rfl⟩⟩

end HealthCourse

end Convoy
