import Convoy.Proofs.Health.History
import Mathlib.Data.List.Chain

/-!
# What follows from the answers

What follows from the answers to the probes of one instance, up to its replacement, has one form:
the instance starts, it is put into routing and taken out by turns, and at the end it is given up or
restarted. So whoever carries out the actions knows whether the instance serves, without a look at
its health.
-/

namespace Convoy

namespace HealthAction

/-- Whether an action puts an instance into routing or takes it out. -/
def isTurn : HealthAction → Bool
  | addToRouting => true
  | removeFromRouting => true
  | _ => false

/-- Actions that put an instance into routing and take it out by turns; the flags say whether it is
in routing before and after them. -/
inductive Turns (before : Bool) : List HealthAction → Bool → Prop
  | still : Turns before [] before
  | add {turns : List HealthAction} (earlier : Turns before turns false) :
      Turns before (turns ++ [.addToRouting]) true
  | remove {turns : List HealthAction} (earlier : Turns before turns true) :
      Turns before (turns ++ [.removeFromRouting]) false

namespace Turns

variable {before after : Bool} {turns : List HealthAction}

theorem isTurn (alternate : Turns before turns after) :
    ∀ action ∈ turns, action.isTurn = true := by
  induction alternate with
  | still => simp
  | add earlier induction =>
    simpa [or_imp, forall_and, HealthAction.isTurn] using induction
  | remove earlier induction =>
    simpa [or_imp, forall_and, HealthAction.isTurn] using induction

/-- Carrying out the turns leads from the one flag to the other. -/
theorem foldl_routes (alternate : Turns before turns after) :
    turns.foldl routes before = after := by
  cases alternate with
  | still => rfl
  | add => rw [List.foldl_append]; rfl
  | remove => rw [List.foldl_append]; rfl

/-- The last turn is the one that the flag after it says. -/
theorem eq_of_mem_getLast? (alternate : Turns before turns after) :
    ∀ last ∈ turns.getLast?, last = if after then .addToRouting else .removeFromRouting := by
  cases alternate with
  | still => simp
  | add => simp
  | remove => simp

/-- No turn is repeated. -/
theorem isChain (alternate : Turns before turns after) : turns.IsChain (· ≠ ·) := by
  induction alternate with
  | still => exact .nil
  | add earlier induction =>
    refine List.isChain_append.2 ⟨induction, .singleton _, ?_⟩
    intro last member next isNext
    rw [earlier.eq_of_mem_getLast? last member, ← Option.mem_some_iff.1 isNext]
    simp
  | remove earlier induction =>
    refine List.isChain_append.2 ⟨induction, .singleton _, ?_⟩
    intro last member next isNext
    rw [earlier.eq_of_mem_getLast? last member, ← Option.mem_some_iff.1 isNext]
    simp

theorem eq_of_eq_nil (alternate : Turns before turns after) (none : turns = []) :
    after = before := by
  cases alternate with
  | still => rfl
  | add => simp at none
  | remove => simp at none

/-- The first turn changes whether the instance is in routing. -/
theorem head?_ne (alternate : Turns before turns after) :
    turns.head? ≠ some (if before then .addToRouting else .removeFromRouting) := by
  induction alternate with
  | still => simp
  | @add turns earlier induction =>
    cases turns with
    | nil => simp [← earlier.eq_of_eq_nil rfl]
    | cons first rest => exact induction
  | @remove turns earlier induction =>
    cases turns with
    | nil => simp [← earlier.eq_of_eq_nil rfl]
    | cons first rest => exact induction

end Turns

end HealthAction

namespace HealthCourse

/-- What follows before the first turn: an instance with a startup probe starts. -/
def opening (probes : ProbeSet) : Lifecycle → List HealthAction
  | .running | .restarting => if probes.startup.isSome then [.started] else []
  | .starting | .failedToStart => []

/-- What follows after the last turn. -/
def closing : Lifecycle → List HealthAction
  | .restarting => [.restart]
  | .failedToStart => [.startupFailed]
  | .starting | .running => []

/-- What has followed from the answers is an opening, turns and a closing. -/
structure Narrated (probes : ProbeSet) (course : HealthCourse) (turns : List HealthAction) :
    Prop where
  told : course.actions =
    opening probes course.health.lifecycle ++ turns ++ closing course.health.lifecycle
  alternate : HealthAction.Turns course.first.serving turns course.health.serving
  /-- An instance that has not started has not been in routing. -/
  silent : course.health.lifecycle = .starting ∨ course.health.lifecycle = .failedToStart →
    probes.startup.isSome = true ∧ turns = []
  /-- Only a running instance is in routing. -/
  idle : course.health.serving = true → course.health.lifecycle = .running

variable {probes : ProbeSet} {course : HealthCourse} {turns : List HealthAction}

theorem narrated_start (probes : ProbeSet) (restarts : Nat) :
    Narrated probes (start (.enter restarts (probes.map (·.map Thresholds.ofProbe)))) [] := by
  constructor
  case told => cases watched : probes.startup <;>
    simp [start, Health.enter, PerKind.map, watched, opening, closing]
  case alternate => exact .still
  case silent => cases watched : probes.startup <;> simp [start, Health.enter, PerKind.map, watched]
  case idle => cases watched : probes.startup <;> simp [start, Health.enter, PerKind.map, watched]

/-- What a startup answer to an instance that has not started adds. -/
theorem Narrated.observeStartup (narrated : Narrated probes course turns)
    (stage : course.health.lifecycle = .starting) (observations : List Observation)
    (thresholds : Thresholds) (success : Bool) :
    ∃ later, Narrated probes
      ⟨course.first, observations,
        course.actions ++ (course.health.observeStartup thresholds success).2,
        (course.health.observeStartup thresholds success).1⟩ later := by
  rcases narrated.silent (Or.inl stage) with ⟨watched, rfl⟩
  have nothing : course.actions = [] := by rw [narrated.told, stage]; rfl
  have unserved : course.health.serving = false := by
    rw [← Bool.not_eq_true]
    intro serving
    have running := narrated.idle serving
    rw [stage] at running
    cases running
  have before : course.first.serving = false := by
    rw [← narrated.alternate.eq_of_eq_nil rfl, unserved]
  unfold Health.observeStartup
  dsimp only
  split
  · split
    · refine ⟨[.addToRouting], ?_, ?_, by simp, fun _ => rfl⟩
      · simp [nothing, opening, closing, watched]
      · rw [before]
        exact .add .still
    · refine ⟨[], ?_, narrated.alternate, by simp, fun _ => rfl⟩
      simp [nothing, opening, closing, watched]
  · split
    · refine ⟨[], ?_, narrated.alternate, fun _ => ⟨watched, rfl⟩, ?_⟩
      · simp [nothing, opening, closing]
      · simp [unserved]
    · refine ⟨[], ?_, narrated.alternate, fun _ => ⟨watched, rfl⟩, narrated.idle⟩
      simp [nothing, opening, closing, stage]

/-- What a liveness answer to a running instance adds. -/
theorem Narrated.observeLiveness (narrated : Narrated probes course turns)
    (stage : course.health.lifecycle = .running) (observations : List Observation)
    (thresholds : Thresholds) (success : Bool) :
    ∃ later, Narrated probes
      ⟨course.first, observations,
        course.actions ++ (course.health.observeLiveness thresholds success).2,
        (course.health.observeLiveness thresholds success).1⟩ later := by
  have told := narrated.told
  have alternate := narrated.alternate
  unfold Health.observeLiveness
  dsimp only
  split
  · cases serving : course.health.serving with
    | true =>
      rw [serving] at alternate
      refine ⟨turns ++ [.removeFromRouting], ?_, alternate.remove, by simp, by simp⟩
      simp [told, stage, opening, closing]
    | false =>
      rw [serving] at alternate
      refine ⟨turns, ?_, alternate, by simp, by simp⟩
      simp [told, stage, opening, closing]
  · refine ⟨turns, ?_, alternate, narrated.silent, fun _ => stage⟩
    rw [List.append_nil]
    exact told

/-- What a readiness answer to a running instance adds. -/
theorem Narrated.observeReadiness (narrated : Narrated probes course turns)
    (stage : course.health.lifecycle = .running) (observations : List Observation)
    (thresholds : Thresholds) (success : Bool) :
    ∃ later, Narrated probes
      ⟨course.first, observations,
        course.actions ++ (course.health.observeReadiness thresholds success).2,
        (course.health.observeReadiness thresholds success).1⟩ later := by
  have told := narrated.told
  have alternate := narrated.alternate
  unfold Health.observeReadiness
  dsimp only
  split
  · rename_i admitted
    have out : course.health.serving = false := by simp_all
    rw [out] at alternate
    refine ⟨turns ++ [.addToRouting], ?_, alternate.add, by simp [stage], fun _ => stage⟩
    simp [told, stage, opening, closing]
  · split
    · rename_i refused
      have inside : course.health.serving = true := by simp_all
      rw [inside] at alternate
      refine ⟨turns ++ [.removeFromRouting], ?_, alternate.remove, by simp [stage], by simp⟩
      simp [told, stage, opening, closing]
    · refine ⟨turns, ?_, alternate, narrated.silent, fun _ => stage⟩
      rw [List.append_nil]
      exact told

/-- An answer adds turns, or the opening, or the closing. -/
theorem Narrated.observe (narrated : Narrated probes course turns) (observation : Observation) :
    ∃ later, Narrated probes (course.observe observation) later := by
  cases counted : course.health.counts observation.kind with
  | false =>
    have nothing := Health.observe_of_not_counts counted observation.success
    refine ⟨turns, ?_, ?_, ?_, ?_⟩
    all_goals rw [HealthCourse.observe, nothing]
    · rw [List.append_nil]
      exact narrated.told
    · exact narrated.alternate
    · exact narrated.silent
    · exact narrated.idle
  | true =>
    rcases observation with ⟨kind, success⟩
    rcases Health.counts_iff.1 counted with ⟨configured, place⟩
    rcases Option.isSome_iff_exists.1 configured with ⟨thresholds, found⟩
    cases kind with
    | startup =>
      have stage : course.health.lifecycle = .starting := by simpa using place
      rw [HealthCourse.observe, Health.observe_startup stage found]
      exact narrated.observeStartup stage _ thresholds success
    | liveness =>
      have stage : course.health.lifecycle = .running := by simpa using place
      rw [HealthCourse.observe, Health.observe_liveness stage found]
      exact narrated.observeLiveness stage _ thresholds success
    | readiness =>
      have stage : course.health.lifecycle = .running := by simpa using place
      rw [HealthCourse.observe, Health.observe_readiness stage found]
      exact narrated.observeReadiness stage _ thresholds success

theorem exists_narrated (probes : ProbeSet) (events : List HealthEvent) :
    ∃ turns, Narrated probes (ofEvents probes events) turns :=
  ofEvents_induction (motive := fun course => ∃ turns, Narrated probes course turns)
    (fun restarts => ⟨[], narrated_start probes restarts⟩)
    (fun _ observation _ ⟨_, narrated⟩ => narrated.observe observation) events

/-! ## The promises to whoever carries out the actions -/

theorem foldl_routes_opening (probes : ProbeSet) (lifecycle : Lifecycle) (before : Bool) :
    (opening probes lifecycle).foldl HealthAction.routes before = before := by
  unfold opening
  repeat' split
  all_goals rfl

theorem foldl_routes_closing (lifecycle : Lifecycle) (before : Bool) :
    (closing lifecycle).foldl HealthAction.routes before = before := by
  cases lifecycle <;> rfl

theorem eq_started_of_mem_opening {lifecycle : Lifecycle} :
    ∀ action ∈ opening probes lifecycle, action = .started ∧ probes.startup.isSome = true := by
  unfold opening
  repeat' split
  all_goals simp_all

theorem length_opening_le (probes : ProbeSet) (lifecycle : Lifecycle) :
    (opening probes lifecycle).length ≤ 1 := by
  unfold opening
  repeat' split
  all_goals simp

theorem length_closing_le (lifecycle : Lifecycle) : (closing lifecycle).length ≤ 1 := by
  cases lifecycle <;> simp [closing]

theorem closes_of_mem_closing {lifecycle : Lifecycle} :
    ∀ action ∈ closing lifecycle, closing lifecycle = [action] ∧ action.repairs = true ∧
      action.isTurn = false := by
  cases lifecycle <;> simp [closing, HealthAction.repairs, HealthAction.isTurn]

namespace Narrated

variable (narrated : Narrated probes course turns)

include narrated

theorem mem_actions_iff {action : HealthAction} :
    action ∈ course.actions ↔ action ∈ opening probes course.health.lifecycle ∨ action ∈ turns ∨
      action ∈ closing course.health.lifecycle := by
  rw [narrated.told, List.mem_append, List.mem_append, or_assoc]

/-- The turns are what of the actions concerns routing. -/
theorem filter_actions : course.actions.filter HealthAction.isTurn = turns := by
  rw [narrated.told, List.filter_append, List.filter_append]
  have front : (opening probes course.health.lifecycle).filter HealthAction.isTurn = [] := by
    rw [List.filter_eq_nil_iff]
    intro action member
    rw [(eq_started_of_mem_opening action member).1]
    decide
  have back : (closing course.health.lifecycle).filter HealthAction.isTurn = [] := by
    rw [List.filter_eq_nil_iff]
    intro action member
    simp [(closes_of_mem_closing action member).2.2]
  rw [front, back, List.filter_eq_self.2 narrated.alternate.isTurn, List.nil_append,
    List.append_nil]

theorem count_started_le : course.actions.count .started ≤ 1 := by
  have inTurns : turns.count .started = 0 := by
    rw [List.count_eq_zero]
    intro member
    cases narrated.alternate.isTurn _ member
  have inClosing : (closing course.health.lifecycle).count .started = 0 := by
    rw [List.count_eq_zero]
    intro member
    cases (closes_of_mem_closing _ member).2.1
  rw [narrated.told, List.count_append, List.count_append, inTurns, inClosing]
  exact List.count_le_length.trans (length_opening_le probes _)

/-- Before the closing, nothing replaces the instance. -/
theorem repairs_eq_false :
    ∀ action ∈ opening probes course.health.lifecycle ++ turns, action.repairs = false := by
  intro action member
  rcases List.mem_append.1 member with first | turn
  · rw [(eq_started_of_mem_opening action first).1]
    rfl
  · have isTurn := narrated.alternate.isTurn action turn
    cases action <;> first | rfl | cases isTurn

theorem countP_repairs_le : course.actions.countP HealthAction.repairs ≤ 1 := by
  have before : (opening probes course.health.lifecycle ++ turns).countP HealthAction.repairs =
      0 := by
    rw [List.countP_eq_zero]
    intro action member
    rw [narrated.repairs_eq_false action member]
    exact Bool.false_ne_true
  rw [narrated.told, List.countP_append, before, Nat.zero_add]
  exact List.countP_le_length.trans (length_closing_le _)

/-- An action that replaces the instance is the last one, and it is the closing. -/
theorem closing_eq_of_repairs {front back : List HealthAction} {action : HealthAction}
    (split : course.actions = front ++ action :: back) (repairs : action.repairs = true) :
    closing course.health.lifecycle = [action] ∧ back = [] := by
  have member : action ∈ course.actions := split ▸ List.mem_append_right _ List.mem_cons_self
  have closes : closing course.health.lifecycle = [action] := by
    rw [narrated.told] at member
    rcases List.mem_append.1 member with before | last
    · rw [narrated.repairs_eq_false action before] at repairs
      cases repairs
    · exact (closes_of_mem_closing action last).1
  refine ⟨closes, ?_⟩
  rcases List.eq_nil_or_concat back with rfl | ⟨middle, last, rfl⟩
  · rfl
  · rw [narrated.told, closes, List.concat_eq_append, ← List.cons_append, ← List.append_assoc]
      at split
    have early : action ∈ opening probes course.health.lifecycle ++ turns := by
      rw [(List.append_inj' split rfl).1]
      exact List.mem_append_right _ List.mem_cons_self
    rw [narrated.repairs_eq_false action early] at repairs
    cases repairs

end Narrated

/-- What has followed from the answers since an instance was last replaced, as whoever carries it
out relies on it. -/
structure Replays (probes : ProbeSet) (course : HealthCourse) : Prop where
  /-- Carrying out the actions tells whether the instance serves. -/
  serving : course.actions.foldl HealthAction.routes course.first.serving = course.health.serving
  alternates : (course.actions.filter HealthAction.isTurn).IsChain (· ≠ ·)
  /-- The first turn is not one that changes nothing. -/
  turns : (course.actions.filter HealthAction.isTurn).head? ≠
    some (if course.first.serving then .addToRouting else .removeFromRouting)
  startedOnce : course.actions.count .started ≤ 1
  startedWatched : .started ∈ course.actions → probes.startup.isSome = true
  /-- With a startup probe, the start comes before all else but giving up. -/
  startedFirst : probes.startup.isSome = true → ∀ action ∈ course.actions,
    action ≠ .startupFailed → course.actions.head? = some .started
  /-- Giving up excludes the start and everything else. -/
  givenUp : .startupFailed ∈ course.actions → course.actions = [.startupFailed]
  repairedOnce : course.actions.countP HealthAction.repairs ≤ 1
  repairedLast : ∀ front action back, course.actions = front ++ action :: back →
    action.repairs = true → back = []
  /-- After a restart or a failed start nothing follows from any answer. -/
  silenced : ∀ action ∈ course.actions, action.repairs = true → ∀ observation : Observation,
    (course.observe observation).actions = course.actions
  /-- A restart follows when the instance serves no longer, just after its removal if it did. -/
  restarted : ∀ observation : Observation,
    .restart ∈ (course.health.observe observation.kind observation.success).2 →
      (course.observe observation).health.serving = false ∧
        (course.observe observation).actions = course.actions ++
          if course.health.serving then [.removeFromRouting, .restart] else [.restart]

/-- Between two replacements of an instance, the actions that follow from the answers can be carried
out instead of looking at its health. -/
theorem actions_replay (probes : ProbeSet) (events : List HealthEvent) :
    Replays probes (ofEvents probes events) := by
  rcases exists_narrated probes events with ⟨turns, narrated⟩
  generalize ofEvents probes events = course at narrated
  constructor
  case serving =>
    rw [narrated.told, List.foldl_append, List.foldl_append, foldl_routes_opening,
      narrated.alternate.foldl_routes, foldl_routes_closing]
  case alternates =>
    rw [narrated.filter_actions]
    exact narrated.alternate.isChain
  case turns =>
    rw [narrated.filter_actions]
    exact narrated.alternate.head?_ne
  case startedOnce => exact narrated.count_started_le
  case startedWatched =>
    intro member
    rcases narrated.mem_actions_iff.1 member with first | turn | last
    · exact (eq_started_of_mem_opening _ first).2
    · cases narrated.alternate.isTurn _ turn
    · cases (closes_of_mem_closing _ last).2.1
  case startedFirst =>
    intro watched action member other
    have told := narrated.told
    cases stage : course.health.lifecycle with
    | starting =>
      rw [stage, (narrated.silent (Or.inl stage)).2] at told
      rw [told] at member
      cases member
    | failedToStart =>
      rw [stage, (narrated.silent (Or.inr stage)).2] at told
      rw [told] at member
      exact absurd (List.mem_singleton.1 member) other
    | running => simp [told, stage, opening, watched]
    | restarting => simp [told, stage, opening, watched]
  case givenUp =>
    intro member
    have told := narrated.told
    rcases List.append_of_mem member with ⟨front, back, split⟩
    have closes := (narrated.closing_eq_of_repairs split rfl).1
    cases stage : course.health.lifecycle with
    | failedToStart =>
      rw [stage, (narrated.silent (Or.inr stage)).2] at told
      exact told
    | starting => simp [stage, closing] at closes
    | running => simp [stage, closing] at closes
    | restarting => simp [stage, closing] at closes
  case repairedOnce => exact narrated.countP_repairs_le
  case repairedLast =>
    intro front action back split repairs
    exact (narrated.closing_eq_of_repairs split repairs).2
  case silenced =>
    intro action member repairs observation
    rcases List.append_of_mem member with ⟨front, back, split⟩
    have closes := (narrated.closing_eq_of_repairs split repairs).1
    have ignored : course.health.counts observation.kind = false := by
      rw [Bool.eq_false_iff, ne_eq, Health.counts_iff]
      rintro ⟨-, ⟨stage, -⟩ | ⟨stage, -⟩⟩
      all_goals simp [stage, closing] at closes
    rw [HealthCourse.observe, Health.observe_of_not_counts ignored, List.append_nil]
  case restarted =>
    intro observation restarts
    rcases Health.restart_observe restarts with ⟨unserved, emitted⟩
    exact ⟨unserved, congrArg (course.actions ++ ·) emitted⟩

end HealthCourse

end Convoy
