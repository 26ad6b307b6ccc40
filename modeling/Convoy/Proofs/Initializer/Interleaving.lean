import Convoy.Proofs.Initializer.Store
import Mathlib.Logic.Function.Basic

/-!
# Several initializations of one store

Any number of runs take their steps on one store, in any order. Between two steps of a run others
may have taken theirs, a call may fail, and a run may be stopped at any time, even after its last
call and before it has told how it ended. A history lists the steps in the order in which they were
taken, each with the store to which it led.
-/

namespace Convoy.Initializer

/-- One of the runs. -/
structure Party where
  hasher : Hasher
  admin : AdminAccount
  chance : Chance

/-- The account that a run asks for, unless its password cannot be hashed. -/
def Party.account (party : Party) : Except Failure NewAccount :=
  makeAccount party.hasher party.admin party.chance

theorem username_of_makeAccount {hasher : Hasher} {admin : AdminAccount} {chance : Chance}
    {account : NewAccount} (made : makeAccount hasher admin chance = .ok account) :
    account.username = admin.username := by
  unfold makeAccount at made
  split at made
  · cases made
  · cases made
    rfl

/-- A store and the stage of each run on it. -/
structure Shared (ι : Type) where
  store : Store
  stage : ι → InitStage

namespace Shared

variable {ι : Type} [DecidableEq ι] (state : Shared ι) (who : ι) (after : InitStage) (store : Store)

/-- The state after a step of a run. -/
def advanced : Shared ι := ⟨store, Function.update state.stage who after⟩

@[simp]
theorem store_advanced : (state.advanced who after store).store = store := rfl

@[simp]
theorem stage_advanced_self : (state.advanced who after store).stage who = after := by
  simp [advanced]

@[simp]
theorem stage_advanced_of_ne {other : ι} (different : other ≠ who) :
    (state.advanced who after store).stage other = state.stage other := by
  simp [advanced, different]

@[simp]
theorem advanced_advanced (further : InitStage) (next : Store) :
    (state.advanced who after store).advanced who further next =
      state.advanced who further next := by
  simp [advanced]

theorem advanced_stage : state.advanced who (state.stage who) state.store = state := by
  simp [advanced]

end Shared

/-- A step of a run. -/
structure Turn (ι : Type) where
  who : ι
  /-- The stage at which the run was. -/
  before : InitStage
  after : InitStage
  /-- The store to which the step led. -/
  store : Store

/-- A run takes its next step, or fails or is stopped between its steps. -/
inductive Advance (party : Party) (stage : InitStage) (store : Store) : InitStage → Store → Prop
  | call (behaviour : StoreBehaviour Store) (atomic : behaviour.Atomic)
      (left : 0 < stage.callsLeft) :
      Advance party stage store
        (step party.hasher behaviour party.admin party.chance stage store).stage
        (step party.hasher behaviour party.admin party.chance stage store).store
  | stop (failure : Failure) : Advance party stage store (.ended (.error failure)) store

/-- What runs can do to a store that is given, as a history and the state that they have reached. -/
inductive Interleaving {ι : Type} [DecidableEq ι] (parties : ι → Party) (initial : Store) :
    List (Turn ι) → Shared ι → Prop where
  | start : Interleaving parties initial [] ⟨initial, fun _ => .migrating⟩
  | advance {history : List (Turn ι)} {state : Shared ι} {who : ι} {after : InitStage}
      {store : Store}
      (before : Interleaving parties initial history state)
      (made : Advance (parties who) (state.stage who) state.store after store) :
      Interleaving parties initial (history ++ [⟨who, state.stage who, after, store⟩])
        (state.advanced who after store)

/-! ## One step -/

/-- What a step comes to: the run is over, or the store has answered its call. -/
inductive Course (party : Party) (store : Store) : InitStage → InitStage → Store → Prop
  | failed {stage : InitStage} (failure : Failure) :
      Course party store stage (.ended (.error failure)) store
  | migrated : Course party store .migrating .seeding (store.answer .migrate).2
  | seeded :
      Course party store .seeding (.creating (store.answer (.seed defaultSettings)).1)
        (store.answer (.seed defaultSettings)).2
  | created {seeded : Nat} {account : NewAccount} (own : party.account = .ok account) :
      Course party store (.creating seeded)
        (.ended (.ok (.initialized seeded (store.answer (.create account)).1)))
        (store.answer (.create account)).2

theorem Advance.course {party : Party} {stage after : InitStage} {store next : Store}
    (made : Advance party stage store after next) : Course party store stage after next := by
  cases made with
  | stop failure => exact .failed failure
  | call behaviour atomic left =>
    cases stage with
    | migrating =>
      rcases atomic .migrate store with answered | ⟨failure, refused⟩
      · simp only [step, answered]
        exact .migrated
      · simp only [step, refused]
        exact .failed failure
    | seeding =>
      rcases atomic (.seed defaultSettings) store with answered | ⟨failure, refused⟩
      · simp only [step, answered]
        exact .seeded
      · simp only [step, refused]
        exact .failed failure
    | creating seeded =>
      cases made : makeAccount party.hasher party.admin party.chance with
      | error failure =>
        simp only [step, made]
        exact .failed failure
      | ok account =>
        rcases atomic (.create account) store with answered | ⟨failure, refused⟩
        · simp only [step, made, answered]
          exact .created made
        · simp only [step, made, refused]
          exact .failed failure
    | ended result => cases left

theorem Course.keeps {party : Party} {stage after : InitStage} {store next : Store}
    (course : Course party store stage after next) : store.Keeps next := by
  cases course with
  | failed failure => exact .refl store
  | migrated => exact store.keeps_answer .migrate
  | seeded => exact store.keeps_answer (.seed defaultSettings)
  | created own => exact store.keeps_answer (.create _)

variable {ι : Type}

namespace Turn

/-- How many settings a step has put in, if it is one that seeds. -/
def seeded? (turn : Turn ι) : Option Nat :=
  match turn.before, turn.after with
  | .seeding, .creating seeded => some seeded
  | _, _ => none

/-- Whether a step has created its account, if it is one that asks for an account of a name. -/
def created? (parties : ι → Party) (username : String) (turn : Turn ι) : Option (ι × Bool) :=
  match turn.before, turn.after with
  | .creating _, .ended (.ok (.initialized _ created)) =>
    if (parties turn.who).admin.username = username then some (turn.who, created) else none
  | _, _ => none

theorem seeded?_failed (who : ι) (stage : InitStage) (failure : Failure) (store : Store) :
    seeded? ⟨who, stage, .ended (.error failure), store⟩ = none := by
  cases stage <;> rfl

theorem created?_failed (parties : ι → Party) (username : String) (who : ι) (stage : InitStage)
    (failure : Failure) (store : Store) :
    created? parties username ⟨who, stage, .ended (.error failure), store⟩ = none := by
  cases stage <;> rfl

/-- Only a run that has seeded the settings asks for its account. -/
theorem exists_creating {parties : ι → Party} {username : String} {turn : Turn ι}
    {answer : ι × Bool} (created : turn.created? parties username = some answer) :
    ∃ seeded, turn.before = .creating seeded := by
  unfold created? at created
  split at created
  · rename_i seeded _ _ before _
    exact ⟨seeded, before⟩
  · cases created

end Turn

/-- The answers to all steps that seed: how many settings each has put in. -/
def seedings (history : List (Turn ι)) : List Nat := history.filterMap Turn.seeded?

/-- The answers to all steps that ask for an account of a name: who asked, and whether the account
was created. -/
def creations (parties : ι → Party) (username : String) (history : List (Turn ι)) :
    List (ι × Bool) :=
  history.filterMap (Turn.created? parties username)

variable {parties : ι → Party} {username : String}

theorem seedings_append (earlier later : List (Turn ι)) :
    seedings (earlier ++ later) = seedings earlier ++ seedings later :=
  List.filterMap_append

theorem creations_append (earlier later : List (Turn ι)) :
    creations parties username (earlier ++ later) =
      creations parties username earlier ++ creations parties username later :=
  List.filterMap_append

theorem seedings_concat (history : List (Turn ι)) (turn : Turn ι) :
    seedings (history ++ [turn]) = seedings history ++ turn.seeded?.toList := by
  rw [seedings_append]
  cases seeded : turn.seeded? <;> simp [seedings, seeded]

theorem creations_concat (history : List (Turn ι)) (turn : Turn ι) :
    creations parties username (history ++ [turn]) =
      creations parties username history ++ (turn.created? parties username).toList := by
  rw [creations_append]
  cases created : turn.created? parties username <;> simp [creations, created]

/-! ## What runs know -/

/-- What the stage of a run tells is what the store has answered to it in some part of a history. -/
def Told (parties : ι → Party) (history : List (Turn ι)) (who : ι) : InitStage → Prop
  | .migrating | .seeding | .ended (.error _) => True
  | .creating seeded => seeded ∈ seedings history
  | .ended (.ok (.initialized seeded created)) =>
    seeded ∈ seedings history ∧
      (who, created) ∈ creations parties (parties who).admin.username history
  | .ended (.ok .skipped) => False

namespace Told

variable {history : List (Turn ι)} {who : ι} {stage after : InitStage} {store next : Store}

theorem concat (told : Told parties history who stage) (turn : Turn ι) :
    Told parties (history ++ [turn]) who stage := by
  cases stage with
  | creating seeded =>
    rw [Told, seedings_append]
    exact List.mem_append_left _ told
  | ended result =>
    rcases result with failure | outcome
    · trivial
    · cases outcome with
      | skipped => exact told
      | initialized seeded created =>
        rw [Told, seedings_append, creations_append]
        exact told.imp (List.mem_append_left _) (List.mem_append_left _)
  | _ => trivial

theorem course (told : Told parties history who stage)
    (course : Course (parties who) store stage after next) :
    Told parties (history ++ [⟨who, stage, after, next⟩]) who after := by
  cases course with
  | failed failure => trivial
  | migrated => trivial
  | seeded =>
    rw [Told, seedings_concat]
    exact List.mem_append_right _ List.mem_cons_self
  | created own =>
    rw [Told, seedings_append, creations_concat]
    exact ⟨List.mem_append_left _ told, by simp [Turn.created?]⟩

end Told

namespace Interleaving

variable [DecidableEq ι] {initial : Store} {history earlier later : List (Turn ι)}
  {state : Shared ι} {who : ι}

/-- Every part of a history up to some step is a history. -/
theorem exists_prefix (run : Interleaving parties initial history state)
    (parts : history = earlier ++ later) :
    ∃ before, Interleaving parties initial earlier before := by
  induction run generalizing later with
  | start =>
    obtain ⟨rfl, -⟩ := List.append_eq_nil_iff.1 parts.symm
    exact ⟨_, .start⟩
  | advance before made induction =>
    rcases List.eq_nil_or_concat later with rfl | ⟨front, last, rfl⟩
    · rw [← parts.trans (List.append_nil earlier)]
      exact ⟨_, before.advance made⟩
    · rw [List.concat_eq_append, ← List.append_assoc] at parts
      exact induction (List.append_inj' parts rfl).1

/-- A run that has not taken part in the beginning of a history knows of the rest only. -/
theorem told (run : Interleaving parties initial history state)
    (parts : history = earlier ++ later) (fresh : ∀ turn ∈ earlier, turn.who ≠ who) :
    Told parties later who (state.stage who) := by
  induction run generalizing earlier later with
  | start => trivial
  | @advance history state mover after store before made induction =>
    rcases List.eq_nil_or_concat later with rfl | ⟨front, last, rfl⟩
    -- The rest is empty, so that the last step belongs to the beginning and to another run.
    · rw [List.append_nil] at parts
      subst parts
      obtain ⟨others, last⟩ := List.forall_mem_append.1 fresh
      rw [Shared.stage_advanced_of_ne _ _ _ _ (last _ List.mem_cons_self).symm]
      exact induction (List.append_nil history).symm others
    · rw [List.concat_eq_append, ← List.append_assoc] at parts
      obtain ⟨rest, equal⟩ := List.append_inj' parts rfl
      cases equal
      rw [List.concat_eq_append]
      have known := induction rest fresh
      by_cases own : who = mover
      · subst own
        rw [Shared.stage_advanced_self]
        exact known.course made.course
      · rw [Shared.stage_advanced_of_ne _ _ _ _ own]
        exact known.concat _

/-- Nobody asks for an account before settings have been seeded. -/
theorem seedings_ne_nil (run : Interleaving parties initial history state)
    (asked : creations parties username history ≠ []) : seedings history ≠ [] := by
  induction run with
  | start => exact absurd rfl asked
  | @advance history state who after store before made induction =>
    rw [seedings_append]
    refine List.append_ne_nil_of_left_ne_nil ?_ _
    cases answer : Turn.created? parties username ⟨who, state.stage who, after, store⟩ with
    | none =>
      rw [creations_concat, answer, Option.toList_none, List.append_nil] at asked
      exact induction asked
    | some created =>
      obtain ⟨seeded, stage⟩ := Turn.exists_creating answer
      have known : Told parties history who (state.stage who) :=
        before.told (List.nil_append history).symm (by simp)
      rw [show state.stage who = .creating seeded from stage] at known
      exact List.ne_nil_of_mem known

end Interleaving

/-! ## Whole runs -/

section Finish

variable {σ : Type} (hasher : Hasher) (behaviour : StoreBehaviour σ) (admin : AdminAccount)
  (chance : Chance) (store : σ)

theorem result_finish {stage : InitStage} (left : 0 < stage.callsLeft) :
    (finish hasher behaviour admin chance stage store).result =
      (finish hasher behaviour admin chance (step hasher behaviour admin chance stage store).stage
        (step hasher behaviour admin chance stage store).store).result := by
  cases stage with
  | ended result => cases left
  | _ => rw [finish]

theorem store_finish {stage : InitStage} (left : 0 < stage.callsLeft) :
    (finish hasher behaviour admin chance stage store).store =
      (finish hasher behaviour admin chance (step hasher behaviour admin chance stage store).stage
        (step hasher behaviour admin chance stage store).store).store := by
  cases stage with
  | ended result => cases left
  | _ => rw [finish]

theorem finish_ended (result : Except Failure InitOutcome) :
    finish hasher behaviour admin chance (.ended result) store = ⟨result, store, [], []⟩ := by
  rw [finish]

end Finish

section Uninterrupted

variable [DecidableEq ι] (parties : ι → Party) (behaviour : StoreBehaviour Store)
  (state : Shared ι) (who : ι)

/-- The state in which a run ends that nobody interrupts. -/
def Shared.finished : Shared ι :=
  let done := finish (parties who).hasher behaviour (parties who).admin (parties who).chance
    (state.stage who) state.store
  state.advanced who (.ended done.result) done.store

variable {state who}

theorem Shared.finished_ended {result : Except Failure InitOutcome}
    (ended : state.stage who = .ended result) :
    state.finished parties behaviour who = state := by
  rw [finished, ended, finish_ended, ← ended, advanced_stage]

theorem Shared.finished_of_left (left : 0 < (state.stage who).callsLeft) :
    let next := step (parties who).hasher behaviour (parties who).admin (parties who).chance
      (state.stage who) state.store
    (state.advanced who next.stage next.store).finished parties behaviour who =
      state.finished parties behaviour who := by
  simp [finished, result_finish _ behaviour _ _ _ left, store_finish _ behaviour _ _ _ left]

variable {parties behaviour} {initial : Store} {history : List (Turn ι)}

/-- A run that nobody interrupts is a part of a history. -/
theorem Interleaving.exists_finished (run : Interleaving parties initial history state)
    (atomic : behaviour.Atomic) (who : ι) :
    ∃ own, (∀ turn ∈ own, turn.who = who) ∧
      Interleaving parties initial (history ++ own) (state.finished parties behaviour who) := by
  induction calls : (state.stage who).callsLeft using Nat.strong_induction_on
    generalizing history state with
  | _ calls induction =>
    subst calls
    rcases Nat.eq_zero_or_pos (state.stage who).callsLeft with none | left
    · cases stage : state.stage who with
      | ended result =>
        refine ⟨[], by simp, ?_⟩
        rw [Shared.finished_ended parties behaviour stage, List.append_nil]
        exact run
      | _ =>
        rw [stage] at none
        cases none
    · have fewer := callsLeft_step_lt (parties who).hasher behaviour (parties who).admin
        (parties who).chance state.store left
      have next := run.advance (.call behaviour atomic left)
      obtain ⟨own, mine, further⟩ := induction _ (by simpa using fewer) next rfl
      rw [Shared.finished_of_left parties behaviour left, List.append_assoc,
        List.singleton_append] at further
      exact ⟨_, List.forall_mem_cons.2 ⟨rfl, mine⟩, further⟩

end Uninterrupted

end Convoy.Initializer
