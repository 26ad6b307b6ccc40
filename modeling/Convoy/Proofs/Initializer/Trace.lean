import Convoy.Proofs.Gate
import Convoy.Proofs.Initializer.Interleaving
import Mathlib.Logic.Relation

/-!
# The effects of a run, one after another

A run of an initializer as a machine that makes one connection attempt, opens the store or makes one
call at a time, and keeps a list of what it has done to the world around it. The machine comes to
the end that the run tells of, having made the same attempts and calls.
-/

namespace Convoy

/-- What a run does to the world around it, with what came of it. -/
inductive InitEffect where
  | connect (target : Address) (attempt : Attempt)
  | access (database : DatabaseSettings) (outcome : Except Failure Unit)
  | call (call : StoreCall) (answer : Except Failure call.Answer)

namespace InitEffect

@[simp]
def attempt? : InitEffect → Option Attempt
  | connect _ attempt => some attempt
  | _ => none

@[simp]
def database? : InitEffect → Option DatabaseSettings
  | access database _ => some database
  | _ => none

@[simp]
def call? : InitEffect → Option StoreCall
  | call request _ => some request
  | _ => none

variable (target : Address)

@[simp]
theorem attempt?_comp_connect : attempt? ∘ connect target = some := rfl

@[simp]
theorem database?_comp_connect : database? ∘ connect target = fun _ => none := rfl

@[simp]
theorem call?_comp_connect : call? ∘ connect target = fun _ => none := rfl

end InitEffect

/-- Whether a run tells of the attempts, openings and calls of a history, each in their order. -/
structure InitRun.Tells {σ : Type} (run : InitRun σ) (history : List InitEffect) : Prop where
  attempts : (run.wait.map (·.attempts)).getD [] = history.filterMap InitEffect.attempt?
  opened : run.opened = history.filterMap InitEffect.database?
  calls : run.calls = history.filterMap InitEffect.call?

/-! ## The calls of a run -/

/-- The call to the store that is next at a stage. There is none if the account that is to be created
cannot be made. -/
def InitStage.call? (party : Initializer.Party) : InitStage → Option StoreCall
  | migrating => some .migrate
  | seeding => some (.seed Initializer.defaultSettings)
  | creating _ => party.account.toOption.map .create
  | ended _ => none

namespace Initializer

variable {σ : Type}

theorem calls_step (party : Party) (behaviour : StoreBehaviour σ) (stage : InitStage) (store : σ) :
    (step party.hasher behaviour party.admin party.chance stage store).calls =
      (stage.call? party).toList := by
  cases stage with
  | creating seeded =>
    simp only [step, InitStage.call?, Party.account]
    cases makeAccount party.hasher party.admin party.chance with
    | error failure => rfl
    | ok account =>
      dsimp only
      split <;> rfl
  | ended result => rfl
  | _ =>
    simp only [step]
    split <;> rfl

/-- What comes of the calls that are left is what comes of the next step and then of the others. -/
theorem finish_eq_step (party : Party) (behaviour : StoreBehaviour σ) (stage : InitStage)
    (store : σ) :
    finish party.hasher behaviour party.admin party.chance stage store =
      let now := step party.hasher behaviour party.admin party.chance stage store
      let later := finish party.hasher behaviour party.admin party.chance now.stage now.store
      ⟨later.result, later.store, now.calls ++ later.calls, now.lines ++ later.lines⟩ := by
  cases stage with
  | ended result => simp only [step, finish_ended, List.append_nil]
  | _ => rw [finish]

end Initializer

/-! ## The machine -/

/-- How far a run has come. -/
inductive RunStage where
  | checking
  | waiting (made : Nat) (now : Duration)
  | opening
  | calling (stage : InitStage)

namespace RunStage

/-- A run that has ended has no call left, even if it has not come as far as the calls. -/
abbrev ended (result : Except Failure InitOutcome) : RunStage := calling (.ended result)

/-- Where a run goes from its wait for the store. -/
def waited : Except Cause Duration → RunStage
  | .error cause => ended (.error (InitializerSettings.unreachedFailure cause))
  | .ok _ => opening

/-- Where a run goes that nothing keeps from waiting. The clock has to reach the deadline. -/
def cleared (settings : InitializerSettings) (begun : Duration) : RunStage :=
  if (begun + settings.gate.timeout).IsInstant then waiting 0 begun
  else waited (.error (.overflow .instant))

/-- Where a run goes from its checks. -/
def checked (settings : InitializerSettings) (begun : Duration) : RunStage :=
  if settings.enabled then
    match settings.admin.check with
    | .error failure => ended (.error (failure.within "Admin account validation failed"))
    | .ok () => cleared settings begun
  else ended (.ok .skipped)

/-- Where a run goes from the opening of the store. -/
def opened : Except Failure Unit → RunStage
  | .error failure => ended (.error failure)
  | .ok () => calling .migrating

end RunStage

/-- A run at some moment: how far it has come, the store, and what it has done so far. -/
structure RunState (σ : Type) where
  stage : RunStage
  store : σ
  history : List InitEffect

/-- What one run depends on: its settings, the instant at which it begins, and how the world around
it answers. -/
structure Occasion (σ : Type) where
  settings : InitializerSettings
  timer : Timer
  connector : Connector
  hasher : Hasher
  behaviour : StoreBehaviour σ
  chance : Chance
  begun : Duration

namespace Occasion

variable {σ : Type} (occasion : Occasion σ)

/-- The whole run. -/
def run (store : σ) : InitRun σ :=
  occasion.settings.run occasion.timer occasion.connector occasion.hasher occasion.behaviour
    occasion.chance store occasion.begun

/-- Who asks for an account. -/
def party : Initializer.Party := ⟨occasion.hasher, occasion.settings.admin, occasion.chance⟩

/-- The instant at which the wait for the store gives up. -/
def deadline : Duration := occasion.begun + occasion.settings.gate.timeout

/-- The attempt that a run makes at an instant. -/
def attempt (now : Duration) : Attempt :=
  occasion.settings.gate.attempt occasion.connector occasion.deadline now

/-- The attempt that a run makes at an instant, as an effect. -/
def connect (now : Duration) : InitEffect :=
  .connect occasion.settings.gate.target (occasion.attempt now)

/-- When the attempt after the one at an instant is due. -/
def nextStart (now : Duration) : Duration :=
  occasion.settings.gate.nextStart occasion.timer occasion.deadline now
    (occasion.attempt now).finished

/-- Whether the clock reaches the end of the interval of an attempt. -/
abbrev InClock (now : Duration) : Prop := (now + occasion.settings.gate.pollInterval).IsInstant

/-- What a stage asks the store for, with its answer. -/
def calls (stage : InitStage) (store : σ) : List InitEffect :=
  (stage.call? occasion.party).toList.map fun call =>
    .call call (occasion.behaviour.answer call store).1

/-- The next step of a run. A run that has ended stays as it is. -/
def advance (state : RunState σ) : RunState σ :=
  match state.stage with
  | .checking => { state with stage := .checked occasion.settings occasion.begun }
  | .waiting made now =>
    if now < occasion.deadline then
      { state with
        stage :=
          if (occasion.attempt now).succeeded then .opening
          else if occasion.InClock now then .waiting (made + 1) (occasion.nextStart now)
          else .waited (.error (.overflow .instant))
        history := state.history ++ [occasion.connect now] }
    else { state with stage := .waited (.error (.gate (occasion.settings.gate.timeoutError made))) }
  | .opening =>
    let (outcome, after) := occasion.behaviour.connect occasion.settings.database state.store
    { stage := .opened outcome
      store := after
      history := state.history ++ [.access occasion.settings.database outcome] }
  | .calling stage =>
    let made := Initializer.step occasion.hasher occasion.behaviour occasion.settings.admin
      occasion.chance stage state.store
    { stage := .calling made.stage
      store := made.store
      history := state.history ++ occasion.calls stage state.store }

/-- A run gets from one state to another in some number of steps. -/
def Leads : RunState σ → RunState σ → Prop :=
  Relation.ReflTransGen fun before after => after = occasion.advance before

variable {occasion} {store : σ} {history : List InitEffect}

section Waiting

variable {made : Nat} {now : Duration}

theorem advance_of_succeeded (inTime : now < occasion.deadline)
    (succeeded : (occasion.attempt now).succeeded = true) :
    occasion.advance ⟨.waiting made now, store, history⟩ =
      ⟨.opening, store, history ++ [occasion.connect now]⟩ := by
  simp [advance, inTime, succeeded]

theorem advance_of_refused (inTime : now < occasion.deadline)
    (refused : (occasion.attempt now).succeeded = false) (inClock : occasion.InClock now) :
    occasion.advance ⟨.waiting made now, store, history⟩ =
      ⟨.waiting (made + 1) (occasion.nextStart now), store, history ++ [occasion.connect now]⟩ := by
  simp [advance, inTime, refused, inClock]

theorem advance_of_overrun (inTime : now < occasion.deadline)
    (refused : (occasion.attempt now).succeeded = false) (beyond : ¬ occasion.InClock now) :
    occasion.advance ⟨.waiting made now, store, history⟩ =
      ⟨.waited (.error (.overflow .instant)), store, history ++ [occasion.connect now]⟩ := by
  simp [advance, inTime, refused, beyond]

theorem advance_of_late (late : ¬ now < occasion.deadline) :
    occasion.advance ⟨.waiting made now, store, history⟩ =
      ⟨.waited (.error (.gate (occasion.settings.gate.timeoutError made))), store, history⟩ := by
  simp [advance, late]

end Waiting

theorem advance_opening :
    occasion.advance ⟨.opening, store, history⟩ =
      let (outcome, after) := occasion.behaviour.connect occasion.settings.database store
      ⟨.opened outcome, after, history ++ [.access occasion.settings.database outcome]⟩ :=
  rfl

theorem advance_calling (stage : InitStage) :
    occasion.advance ⟨.calling stage, store, history⟩ =
      let made := Initializer.step occasion.hasher occasion.behaviour occasion.settings.admin
        occasion.chance stage store
      ⟨.calling made.stage, made.store, history ++ occasion.calls stage store⟩ :=
  rfl

@[simp]
theorem calls_ended (result : Except Failure InitOutcome) (store : σ) :
    occasion.calls (.ended result) store = [] :=
  rfl

/-- A run that has ended stays as it is. -/
theorem advance_ended (result : Except Failure InitOutcome) :
    occasion.advance ⟨.ended result, store, history⟩ = ⟨.ended result, store, history⟩ := by
  simp [advance_calling, Initializer.step]

@[simp]
theorem filterMap_attempt?_calls (stage : InitStage) (store : σ) :
    (occasion.calls stage store).filterMap InitEffect.attempt? = [] := by
  simp [calls, List.filterMap_map, Function.comp_def]

@[simp]
theorem filterMap_database?_calls (stage : InitStage) (store : σ) :
    (occasion.calls stage store).filterMap InitEffect.database? = [] := by
  simp [calls, List.filterMap_map, Function.comp_def]

@[simp]
theorem filterMap_call?_calls (stage : InitStage) (store : σ) :
    (occasion.calls stage store).filterMap InitEffect.call? =
      (stage.call? occasion.party).toList := by
  simp [calls, List.filterMap_map, Function.comp_def]

/-! ## From the beginning to the end -/

/-- A run at the end of a wait. -/
def waitedFor (occasion : Occasion σ) (wait : Wait) (store : σ) (history : List InitEffect) :
    RunState σ :=
  ⟨.waited wait.result, store,
    history ++ wait.attempts.map (.connect occasion.settings.gate.target)⟩

theorem waitedFor_after (now : Duration) (wait : Wait) :
    occasion.waitedFor (wait.after (occasion.attempt now)) store history =
      occasion.waitedFor wait store (history ++ [occasion.connect now]) := by
  simp [waitedFor, Wait.after, connect]

theorem waitedFor_nil (result : Except Cause Duration) (now : Duration) :
    occasion.waitedFor ⟨result, now, []⟩ store history = ⟨.waited result, store, history⟩ := by
  simp [waitedFor]

/-- The attempts that a run makes are those of its wait. -/
theorem leads_waitFrom (made : Nat) (now : Duration) (store : σ) (history : List InitEffect) :
    occasion.Leads ⟨.waiting made now, store, history⟩
      (occasion.waitedFor (occasion.settings.gate.waitFrom occasion.timer occasion.connector
        occasion.begun made now) store history) := by
  induction made, now using
    occasion.settings.gate.wait_induction occasion.timer occasion.connector occasion.begun
    generalizing history with
  | late made now late =>
    rw [Gate.waitFrom_of_late late, waitedFor_nil]
    exact .single (advance_of_late late).symm
  | succeeded made now inTime succeeded =>
    rw [Gate.waitFrom_of_succeeded inTime succeeded]
    exact .single (advance_of_succeeded inTime succeeded).symm
  | overrun made now inTime refused beyond =>
    rw [Gate.waitFrom_of_overrun inTime refused beyond]
    exact .single (advance_of_overrun inTime refused beyond).symm
  | refused made now inTime refused inClock induction =>
    rw [Gate.waitFrom_of_refused inTime refused inClock]
    refine .head (advance_of_refused inTime refused inClock).symm ?_
    rw [← deadline, ← attempt, waitedFor_after]
    exact induction (history ++ [occasion.connect now])

/-- A run that nothing keeps from waiting gets to the end of its wait. -/
theorem leads_wait (occasion : Occasion σ) (store : σ) :
    occasion.Leads ⟨.cleared occasion.settings occasion.begun, store, []⟩
      (occasion.waitedFor
        (occasion.settings.gate.wait occasion.timer occasion.connector occasion.begun) store
        []) := by
  unfold RunStage.cleared
  by_cases fits : (occasion.begun + occasion.settings.gate.timeout).IsInstant
  · rw [if_pos fits, Gate.wait_of_isInstant fits]
    exact occasion.leads_waitFrom 0 occasion.begun store []
  · rw [if_neg fits, Gate.wait_of_not_isInstant fits, Wait.crashed, waitedFor_nil]
    exact .refl

/-- A run makes the calls that are left, and ends as they do. -/
theorem leads_finish (stage : InitStage) (store : σ) (history : List InitEffect) :
    let done := Initializer.finish occasion.hasher occasion.behaviour occasion.settings.admin
      occasion.chance stage store
    ∃ effects,
      occasion.Leads ⟨.calling stage, store, history⟩
        ⟨.ended done.result, done.store, history ++ effects⟩ ∧
      effects.filterMap InitEffect.attempt? = [] ∧
      effects.filterMap InitEffect.database? = [] ∧
      effects.filterMap InitEffect.call? = done.calls := by
  induction left : stage.callsLeft using Nat.strong_induction_on
    generalizing stage store history with
  | _ left induction =>
    subst left
    rcases Nat.eq_zero_or_pos stage.callsLeft with none | some
    · cases stage with
      | ended result =>
        rw [Initializer.finish_ended]
        refine ⟨[], ?_, rfl, rfl, rfl⟩
        rw [List.append_nil]
        exact .refl
      | _ => cases none
    · have fewer := Initializer.callsLeft_step_lt occasion.hasher occasion.behaviour
        occasion.settings.admin occasion.chance store some
      obtain ⟨effects, leads, attempts, databases, calls⟩ := induction _ fewer _
        (Initializer.step occasion.hasher occasion.behaviour occasion.settings.admin
          occasion.chance stage store).store
        (history ++ occasion.calls stage store) rfl
      have made := Initializer.calls_step occasion.party occasion.behaviour stage store
      have later := Initializer.finish_eq_step occasion.party occasion.behaviour stage store
      simp only [party] at made later
      rw [later]
      refine ⟨occasion.calls stage store ++ effects, ?_, ?_, ?_, ?_⟩
      · rw [← List.append_assoc]
        exact .head (advance_calling stage).symm leads
      · rw [List.filterMap_append, filterMap_attempt?_calls, attempts, List.append_nil]
      · rw [List.filterMap_append, filterMap_database?_calls, databases, List.append_nil]
      · rw [List.filterMap_append, filterMap_call?_calls, calls, made]
        rfl

/-- From its checks on, a run ends as the machine does, and tells of what that has done. -/
theorem leads_runChecked (occasion : Occasion σ) (store : σ) :
    let run := occasion.settings.runChecked occasion.timer occasion.connector occasion.hasher
      occasion.behaviour occasion.chance store occasion.begun
    ∃ history,
      occasion.Leads ⟨.cleared occasion.settings occasion.begun, store, []⟩
        ⟨.ended run.result, run.store, history⟩ ∧
      run.Tells history := by
  have waits := occasion.leads_wait store
  rw [waitedFor, List.nil_append] at waits
  simp only [InitializerSettings.runChecked]
  generalize occasion.settings.gate.wait occasion.timer occasion.connector occasion.begun = wait
    at waits ⊢
  rcases wait with ⟨error | waited, finished, attempts⟩
  · exact ⟨_, waits, by simp, by simp, by simp⟩
  · have opens := waits.tail advance_opening.symm
    generalize occasion.behaviour.connect occasion.settings.database store = answer at opens ⊢
    rcases answer with ⟨failure | ⟨⟩, after⟩
    · exact ⟨_, opens, by simp [List.filterMap_cons], by simp, by simp [List.filterMap_cons]⟩
    · obtain ⟨effects, calls, noAttempts, noDatabases, made⟩ :=
        occasion.leads_finish .migrating after
          (attempts.map (.connect occasion.settings.gate.target) ++
            [.access occasion.settings.database (.ok ())])
      refine ⟨_, opens.trans calls, ?_, ?_, ?_⟩
      · simp [List.filterMap_cons, noAttempts]
      · simp [noDatabases]
      · simp [List.filterMap_cons, made, Initializer.prepare]

/-- A whole run ends as the machine does, and tells of what that has done. -/
theorem leads_run (occasion : Occasion σ) (store : σ) :
    ∃ history,
      occasion.Leads ⟨.checking, store, []⟩
        ⟨.ended (occasion.run store).result, (occasion.run store).store, history⟩ ∧
      (occasion.run store).Tells history := by
  have begins : occasion.Leads ⟨.checking, store, []⟩
      ⟨.checked occasion.settings occasion.begun, store, []⟩ := .single rfl
  unfold RunStage.checked at begins
  unfold run InitializerSettings.run
  by_cases enabled : occasion.settings.enabled = true
  · rw [if_pos enabled] at begins ⊢
    cases checks : occasion.settings.admin.check with
    | error failure =>
      rw [checks] at begins
      exact ⟨[], begins, rfl, rfl, rfl⟩
    | ok result =>
      rw [checks] at begins
      obtain ⟨history, leads, tells⟩ := occasion.leads_runChecked store
      exact ⟨history, begins.trans leads, tells⟩
  · rw [if_neg enabled] at begins ⊢
    exact ⟨[], begins, rfl, rfl, rfl⟩

end Occasion

end Convoy
