import Convoy.Proofs.Initializer.Trace

/-!
# Nothing touches the store too early

What a run has done when it is at a stage: nothing before its checks are passed, refused attempts
while it waits, one attempt that succeeded before the store is opened, and calls that all succeeded
before the last one. Every step keeps this, and what a run may do to the store follows for the whole
of it.
-/

namespace Convoy

/-- A list is split at its only entry of a kind in one way. -/
theorem eq_of_append_cons_eq {α : Type} (kind : α → Prop) {front back before after : List α}
    {only entry : α} (split : front ++ only :: back = before ++ entry :: after)
    (noneInFront : ∀ other ∈ front, ¬ kind other) (noneBehind : ∀ other ∈ back, ¬ kind other)
    (right : kind entry) : before = front ∧ entry = only ∧ after = back := by
  obtain ⟨middle, rfl, rest⟩ | ⟨middle, rfl, rest⟩ := List.append_eq_append_iff.1 split
  · cases middle with
    | nil =>
      cases rest
      exact ⟨List.append_nil front, rfl, rfl⟩
    | cons first middle =>
      cases rest
      exact absurd right (noneBehind entry (by simp))
  · cases middle with
    | nil =>
      cases rest
      exact ⟨(List.append_nil before).symm, rfl, rfl⟩
    | cons first middle =>
      cases rest
      exact absurd right (noneInFront entry (by simp))

/-- Whether nothing but calls to an open store has been made. -/
def OnlyCalls (effects : List InitEffect) : Prop :=
  ∀ effect ∈ effects, ∃ call answer, effect = .call call answer

namespace OnlyCalls

variable {effects : List InitEffect}

theorem connect_notMem (calls : OnlyCalls effects) {target : Address} {attempt : Attempt} :
    .connect target attempt ∉ effects := by
  intro held
  obtain ⟨_, _, same⟩ := calls _ held
  cases same

theorem access_notMem (calls : OnlyCalls effects) {database : DatabaseSettings}
    {outcome : Except Failure Unit} : .access database outcome ∉ effects := by
  intro held
  obtain ⟨_, _, same⟩ := calls _ held
  cases same

end OnlyCalls

namespace Initializer

/-- All calls of a run, in their order. An account that cannot be made is not asked for. -/
def allCalls (party : Party) : List StoreCall :=
  [.migrate, .seed defaultSettings] ++ (party.account.toOption.map .create).toList

/-- What an open store has been asked when a run is at a stage. -/
inductive Dealt (party : Party) : InitStage → List InitEffect → Prop
  | untouched : Dealt party .migrating []
  | migrated : Dealt party .seeding [.call .migrate (.ok ())]
  | seeded (seeded : Nat) :
      Dealt party (.creating seeded)
        [.call .migrate (.ok ()), .call (.seed defaultSettings) (.ok seeded)]
  | created (seeded : Nat) (created : Bool) {account : NewAccount}
      (own : party.account = .ok account) :
      Dealt party (.ended (.ok (.initialized seeded created)))
        [.call .migrate (.ok ()), .call (.seed defaultSettings) (.ok seeded),
          .call (.create account) (.ok created)]
  | unmade (seeded : Nat) {failure : Failure} (none : party.account = .error failure) :
      Dealt party (.ended (.error failure))
        [.call .migrate (.ok ()), .call (.seed defaultSettings) (.ok seeded)]
  | failed {stage : InitStage} {effects : List InitEffect} {call : StoreCall} (failure : Failure)
      (dealt : Dealt party stage effects) (next : stage.call? party = some call) :
      Dealt party (.ended (.error failure)) (effects ++ [.call call (.error failure)])

namespace Dealt

variable {σ : Type} {party : Party} {stage : InitStage} {effects : List InitEffect}
  {call : StoreCall}

/-- A step asks the store for what is next, and the answer decides the next stage. -/
theorem step (occasion : Occasion σ) (store : σ) (dealt : Dealt occasion.party stage effects) :
    Dealt occasion.party
      (Initializer.step occasion.hasher occasion.behaviour occasion.settings.admin occasion.chance
        stage store).stage
      (effects ++ occasion.calls stage store) := by
  cases dealt with
  | untouched =>
    simp only [Initializer.step, Occasion.calls, InitStage.call?, Option.toList_some,
      List.map_singleton]
    rcases occasion.behaviour.answer .migrate store with ⟨failure | answer, after⟩
    · exact .failed failure .untouched rfl
    · exact .migrated
  | migrated =>
    simp only [Initializer.step, Occasion.calls, InitStage.call?, Option.toList_some,
      List.map_singleton]
    rcases occasion.behaviour.answer (.seed defaultSettings) store with ⟨failure | answer, after⟩
    · exact .failed failure .migrated rfl
    · exact .seeded answer
  | seeded seeded =>
    cases own : occasion.party.account with
    | error failure =>
      have stage : makeAccount occasion.hasher occasion.settings.admin occasion.chance =
          .error failure := own
      simp only [Initializer.step, Occasion.calls, InitStage.call?, stage, own]
      exact .unmade seeded own
    | ok account =>
      have stage : makeAccount occasion.hasher occasion.settings.admin occasion.chance =
          .ok account := own
      have next : (InitStage.creating seeded).call? occasion.party = some (.create account) := by
        simp only [InitStage.call?, own]
        rfl
      simp only [Initializer.step, Occasion.calls, next, stage, Option.toList_some,
        List.map_singleton]
      rcases occasion.behaviour.answer (.create account) store with ⟨failure | answer, after⟩
      · exact .failed failure (.seeded seeded) next
      · exact .created seeded answer own
  | created seeded created own => exact .created seeded created own
  | unmade seeded none => exact .unmade seeded none
  | failed failure dealt next =>
    rw [Occasion.calls_ended, List.append_nil]
    exact .failed failure dealt next

/-- Before the last call, every call has succeeded. -/
theorem succeeded_of_call (dealt : Dealt party stage effects)
    (next : stage.call? party = some call) :
    ∀ effect ∈ effects, ∃ call answer, effect = .call call (.ok answer) := by
  cases dealt with
  | untouched => exact fun _ none => nomatch none
  | migrated => simp
  | seeded => simp
  | created | unmade | failed => cases next

/-- An open store is only called. -/
theorem onlyCalls (dealt : Dealt party stage effects) : OnlyCalls effects := by
  cases dealt with
  | untouched => exact fun _ none => nomatch none
  | failed failure dealt next =>
    intro effect held
    rcases List.mem_append.1 held with held | held
    · obtain ⟨call, answer, rfl⟩ := dealt.succeeded_of_call next effect held
      exact ⟨_, _, rfl⟩
    · cases List.mem_singleton.1 held
      exact ⟨_, _, rfl⟩
  | _ => simp [OnlyCalls]

/-- The calls so far and the next one are the first ones of all calls. -/
theorem concat_prefix (dealt : Dealt party stage effects) (next : stage.call? party = some call) :
    effects.filterMap InitEffect.call? ++ [call] <+: allCalls party := by
  cases dealt with
  | created | unmade | failed => cases next
  | seeded seeded =>
    rw [allCalls, show (party.account.toOption.map .create) = some call from next]
    exact List.prefix_rfl
  | _ =>
    cases next
    simp [allCalls]

/-- The calls are the first ones of all calls. -/
theorem calls_prefix (dealt : Dealt party stage effects) :
    effects.filterMap InitEffect.call? <+: allCalls party := by
  cases dealt with
  | failed failure dealt next =>
    rw [List.filterMap_append]
    exact dealt.concat_prefix next
  | created seeded created own =>
    rw [allCalls, own]
    exact List.prefix_rfl
  | _ => simp [allCalls]

/-- A call that fails is the last one, and its failure is what the calls come to. -/
theorem last_of_error {result : Except Failure InitOutcome} {before after : List InitEffect}
    {failure : Failure}
    (dealt : Dealt party (.ended result) (before ++ .call call (.error failure) :: after)) :
    after = [] ∧ result = .error failure := by
  have asked : .call call (.error failure) ∈ before ++ .call call (.error failure) :: after :=
    List.mem_append_cons_self
  generalize split : before ++ .call call (.error failure) :: after = effects at dealt asked
  cases dealt with
  | created =>
    simp only [List.mem_cons, List.not_mem_nil, or_false] at asked
    rcases asked with same | same | same <;> cases same
  | unmade =>
    simp only [List.mem_cons, List.not_mem_nil, or_false] at asked
    rcases asked with same | same <;> cases same
  | @failed stage earlier last first dealt next =>
    have noneBefore :
        ∀ effect ∈ earlier, ¬ ∃ call failure, effect = .call call (.error failure) := by
      rintro _ held ⟨call, failure, rfl⟩
      obtain ⟨_, _, same⟩ := dealt.succeeded_of_call next _ held
      cases same
    obtain ⟨-, same, rfl⟩ := eq_of_append_cons_eq _ split.symm noneBefore
      (fun _ none => nomatch none) ⟨_, _, rfl⟩
    cases same
    exact ⟨rfl, rfl⟩

/-- Where every call is answered, the calls are all calls, and they come to what the making of the
account leaves possible. -/
theorem all_of_answered {result : Except Failure InitOutcome}
    (dealt : Dealt party (.ended result) effects)
    (answered : ∀ call failure, .call call (.error failure) ∉ effects) :
    effects.filterMap InitEffect.call? = allCalls party ∧
      ∃ seeded created, result = party.account.map fun _ => .initialized seeded created := by
  cases dealt with
  | created seeded created own =>
    rw [allCalls, own]
    exact ⟨rfl, seeded, created, rfl⟩
  | unmade seeded none =>
    rw [allCalls, none]
    exact ⟨rfl, seeded, false, rfl⟩
  | @failed _ _ last failure dealt next => exact absurd (by simp) (answered last failure)

end Dealt

end Initializer

namespace Occasion

variable {σ : Type} (occasion : Occasion σ)

/-- The address that the settings name. -/
def address : Address := ⟨occasion.settings.database.host, occasion.settings.database.port⟩

/-- Whether nothing but attempts to reach the store have been made. -/
def OnlyConnects (history : List InitEffect) : Prop :=
  ∀ effect ∈ history, ∃ attempt, effect = .connect occasion.address attempt

/-- Attempts to reach the store, none of which succeeded. -/
def Refused (history : List InitEffect) : Prop :=
  ∀ effect ∈ history, ∃ attempt,
    effect = .connect occasion.address attempt ∧ attempt.succeeded = false

/-- Attempts to reach the store, of which the last one succeeded in time. -/
def Reached (history : List InitEffect) : Prop :=
  ∃ refused last, history = refused ++ [.connect occasion.address last] ∧
    occasion.Refused refused ∧ last.succeeded = true ∧
    last.finished ≤ occasion.begun + occasion.settings.readinessTimeout

/-- Whether the clock reaches the deadline of a run and the end of the interval of each of its
attempts that was refused. -/
def WithinClock (history : List InitEffect) : Prop :=
  occasion.deadline.IsInstant ∧ ∀ target attempt, .connect target attempt ∈ history →
    ¬ attempt.Overruns occasion.settings.gate.pollInterval

/-- Whether no attempt has reached the store in time. -/
def Unreached (history : List InitEffect) : Prop :=
  ∀ target attempt, .connect target attempt ∈ history → attempt.succeeded = true →
    ¬ attempt.finished ≤ occasion.begun + occasion.settings.readinessTimeout

/-- Whether nothing keeps a run from waiting for the store. -/
structure Cleared : Prop where
  enabled : occasion.settings.enabled = true
  account : occasion.settings.admin.check = .ok ()

/-- What a run has done when it is at a stage. -/
inductive Position : RunStage → List InitEffect → Prop
  | fresh : Position .checking []
  | skipped (disabled : occasion.settings.enabled = false) : Position (.ended (.ok .skipped)) []
  | rejected {failure : Failure} (enabled : occasion.settings.enabled = true)
      (rejected : occasion.settings.admin.check = .error failure) :
      Position (.ended (.error (failure.within "Admin account validation failed"))) []
  | waiting {history : List InitEffect} (made : Nat) (now : Duration) (cleared : occasion.Cleared)
      (refused : occasion.Refused history) (inClock : occasion.WithinClock history) :
      Position (.waiting made now) history
  | missed {history : List InitEffect} (made : Nat) (cleared : occasion.Cleared)
      (refused : occasion.Refused history) (inClock : occasion.WithinClock history) :
      Position
        (.ended (.error ((occasion.settings.gate.timeoutError made : Failure).within
          "Store never became reachable")))
        history
  | crashed {history : List InitEffect} (cleared : occasion.Cleared)
      (refused : occasion.Refused history) (beyond : ¬ occasion.WithinClock history) :
      Position (.ended (.error (.ofCause (.overflow .instant)))) history
  | reached {history : List InitEffect} (cleared : occasion.Cleared)
      (reached : occasion.Reached history) : Position .opening history
  | closed {history : List InitEffect} (failure : Failure) (cleared : occasion.Cleared)
      (reached : occasion.Reached history) :
      Position (.ended (.error failure))
        (history ++ [.access occasion.settings.database (.error failure)])
  | opened {history : List InitEffect} {stage : InitStage} {effects : List InitEffect}
      (cleared : occasion.Cleared) (reached : occasion.Reached history)
      (dealt : Initializer.Dealt occasion.party stage effects) :
      Position (.calling stage)
        (history ++ .access occasion.settings.database (.ok ()) :: effects)

variable {occasion} {history : List InitEffect}

theorem Refused.concat {now : Duration} (refused : occasion.Refused history)
    (failed : (occasion.attempt now).succeeded = false) :
    occasion.Refused (history ++ [occasion.connect now]) := by
  intro effect held
  rcases List.mem_append.1 held with held | held
  · exact refused effect held
  · exact ⟨_, List.mem_singleton.1 held, failed⟩

theorem Refused.onlyConnects (refused : occasion.Refused history) :
    occasion.OnlyConnects history := by
  intro effect held
  obtain ⟨attempt, rfl, -⟩ := refused effect held
  exact ⟨attempt, rfl⟩

theorem Reached.onlyConnects (reached : occasion.Reached history) :
    occasion.OnlyConnects history := by
  obtain ⟨front, last, rfl, refused, -⟩ := reached
  intro effect held
  rcases List.mem_append.1 held with held | held
  · exact refused.onlyConnects effect held
  · exact ⟨last, List.mem_singleton.1 held⟩

theorem Reached.not_unreached {whole : List InitEffect} (reached : occasion.Reached history)
    (held : history ⊆ whole) : ¬ occasion.Unreached whole := by
  obtain ⟨refused, last, rfl, -, succeeded, inTime⟩ := reached
  exact fun unreached => unreached occasion.address last (held (by simp)) succeeded inTime

theorem WithinClock.concat {now : Duration} (inClock : occasion.WithinClock history)
    (fits : occasion.InClock now) : occasion.WithinClock (history ++ [occasion.connect now]) := by
  refine ⟨inClock.1, fun target attempt held => ?_⟩
  rcases List.mem_append.1 held with held | held
  · exact inClock.2 target attempt held
  · cases List.mem_singleton.1 held
    exact fun overruns => overruns.2 fits

theorem not_withinClock_concat {now : Duration} (refused : (occasion.attempt now).succeeded = false)
    (beyond : ¬ occasion.InClock now) :
    ¬ occasion.WithinClock (history ++ [occasion.connect now]) :=
  fun inClock => inClock.2 _ _ (List.mem_concat_self) ⟨refused, beyond⟩

namespace OnlyConnects

theorem aimed (connects : occasion.OnlyConnects history) {target : Address} {attempt : Attempt}
    (held : .connect target attempt ∈ history) : target = occasion.address := by
  obtain ⟨_, same⟩ := connects _ held
  cases same
  rfl

theorem access_notMem (connects : occasion.OnlyConnects history) {database : DatabaseSettings}
    {outcome : Except Failure Unit} : .access database outcome ∉ history := by
  intro held
  obtain ⟨_, same⟩ := connects _ held
  cases same

theorem call_notMem (connects : occasion.OnlyConnects history) {call : StoreCall}
    {answer : Except Failure call.Answer} : .call call answer ∉ history := by
  intro held
  obtain ⟨_, same⟩ := connects _ held
  cases same

theorem filterMap_call? (connects : occasion.OnlyConnects history) :
    history.filterMap InitEffect.call? = [] := by
  rw [List.filterMap_eq_nil_iff]
  intro effect held
  obtain ⟨_, rfl⟩ := connects effect held
  rfl

end OnlyConnects

namespace Position

theorem cleared (cleared : occasion.Cleared) :
    occasion.Position (.cleared occasion.settings occasion.begun) [] := by
  have none : occasion.Refused [] := fun _ none => nomatch none
  unfold RunStage.cleared
  by_cases fits : (occasion.begun + occasion.settings.gate.timeout).IsInstant
  · rw [if_pos fits]
    exact .waiting 0 occasion.begun cleared none ⟨fits, fun _ _ none => nomatch none⟩
  · rw [if_neg fits]
    exact .crashed cleared none fun inClock => fits inClock.1

theorem checked (occasion : Occasion σ) :
    occasion.Position (.checked occasion.settings occasion.begun) [] := by
  unfold RunStage.checked
  by_cases enabled : occasion.settings.enabled = true
  · rw [if_pos enabled]
    cases account : occasion.settings.admin.check with
    | error failure => exact .rejected enabled account
    | ok _ => exact cleared ⟨enabled, account⟩
  · rw [if_neg enabled]
    exact .skipped (Bool.eq_false_iff.2 enabled)

/-- One step of a run. -/
theorem advance {state : RunState σ} (punctual : occasion.connector.Punctual)
    (position : occasion.Position state.stage state.history) :
    occasion.Position (occasion.advance state).stage (occasion.advance state).history := by
  obtain ⟨stage, store, history⟩ := state
  cases position with
  | fresh => exact checked occasion
  | skipped disabled =>
    rw [advance_ended]
    exact .skipped disabled
  | rejected enabled rejected =>
    rw [advance_ended]
    exact .rejected enabled rejected
  | waiting made now cleared refused inClock =>
    by_cases inTime : now < occasion.deadline
    · cases outcome : (occasion.attempt now).succeeded with
      | false =>
        by_cases fits : occasion.InClock now
        · rw [advance_of_refused inTime outcome fits]
          exact .waiting _ _ cleared (refused.concat outcome) (inClock.concat fits)
        · rw [advance_of_overrun inTime outcome fits]
          exact .crashed cleared (refused.concat outcome) (not_withinClock_concat outcome fits)
      | true =>
        rw [advance_of_succeeded inTime outcome]
        exact .reached cleared ⟨history, occasion.attempt now, rfl, refused, outcome,
          Gate.finished_attempt_le punctual inTime⟩
    · rw [advance_of_late inTime]
      exact .missed made cleared refused inClock
  | missed made cleared refused inClock =>
    rw [advance_ended]
    exact .missed made cleared refused inClock
  | crashed cleared refused beyond =>
    rw [advance_ended]
    exact .crashed cleared refused beyond
  | reached cleared reached =>
    rw [advance_opening]
    generalize occasion.behaviour.connect occasion.settings.database store = answer
    rcases answer with ⟨failure | ⟨⟩, after⟩
    · exact .closed failure cleared reached
    · exact .opened cleared reached .untouched
  | closed failure cleared reached =>
    rw [advance_ended]
    exact .closed failure cleared reached
  | @opened before stage effects cleared reached dealt =>
    have asked := opened cleared reached (dealt.step occasion store)
    rw [← List.cons_append, ← List.append_assoc] at asked
    exact asked

/-- A whole run. -/
theorem of_leads {before after : RunState σ} (punctual : occasion.connector.Punctual)
    (position : occasion.Position before.stage before.history)
    (leads : occasion.Leads before after) : occasion.Position after.stage after.history := by
  induction leads with
  | refl => exact position
  | tail _ next held =>
    subst next
    exact held.advance punctual

end Position

/-! ## What a run may do to the store -/

/-- How a run that has ended has dealt with the store. -/
structure Guarded (occasion : Occasion σ) (result : Except Failure InitOutcome)
    (history : List InitEffect) : Prop where
  skipped : occasion.settings.enabled = false → history = [] ∧ result = .ok .skipped
  rejected : ∀ failure, occasion.settings.enabled = true →
    occasion.settings.admin.check = .error failure →
      history = [] ∧ result = .error (failure.within "Admin account validation failed")
  aimed : ∀ target attempt, .connect target attempt ∈ history →
    target = ⟨occasion.settings.database.host, occasion.settings.database.port⟩
  /-- The store is opened once, right after the attempt that succeeded. -/
  opened : ∀ before database outcome after,
    history = before ++ .access database outcome :: after →
      database = occasion.settings.database ∧ occasion.Reached before ∧ OnlyCalls after
  /-- A store that is reached is opened. -/
  reached : ∀ target attempt, .connect target attempt ∈ history → attempt.succeeded = true →
    ∃ outcome, .access occasion.settings.database outcome ∈ history
  /-- A run that does not reach the store in time tells so with a status of its own. -/
  missed : occasion.Cleared → occasion.Unreached history → occasion.WithinClock history →
    ∃ failure, result = .error failure ∧ failure.exitCode = 124
  crashed : occasion.Cleared → occasion.Unreached history → ¬ occasion.WithinClock history →
    result = .error (.ofCause (.overflow .instant))
  /-- A store that is not reached in time is not opened. -/
  unopened : occasion.Unreached history → ∀ database outcome, .access database outcome ∉ history
  closed : ∀ database failure, .access database (.error failure) ∈ history → result = .error failure
  called : ∀ before call answer after, history = before ++ .call call answer :: after →
    .access occasion.settings.database (.ok ()) ∈ before
  calls : history.filterMap InitEffect.call? <+:
    Initializer.allCalls occasion.party
  /-- A call that fails is the last one. -/
  failed : ∀ before call failure after, history = before ++ .call call (.error failure) :: after →
    after = [] ∧ result = .error failure
  completed : .access occasion.settings.database (.ok ()) ∈ history →
    (∀ call failure, .call call (.error failure) ∉ history) →
    history.filterMap InitEffect.call? = Initializer.allCalls occasion.party ∧
      ∃ seeded created, result = occasion.party.account.map fun _ => .initialized seeded created

namespace Position

variable {result : Except Failure InitOutcome} {before after : List InitEffect}

/-- A run that has ended did not reach the store, or opened it once, as soon as it had. -/
theorem shape (position : occasion.Position (.ended result) history) :
    occasion.Refused history ∨ ∃ before outcome calls,
      history = before ++ .access occasion.settings.database outcome :: calls ∧
      occasion.Reached before ∧ OnlyCalls calls := by
  cases position with
  | skipped | rejected => exact .inl fun _ none => nomatch none
  | missed made cleared refused => exact .inl refused
  | crashed cleared refused => exact .inl refused
  | closed failure cleared reached =>
    exact .inr ⟨_, _, [], rfl, reached, fun _ none => nomatch none⟩
  | opened cleared reached dealt => exact .inr ⟨_, _, _, rfl, reached, dealt.onlyCalls⟩

theorem aimed (position : occasion.Position (.ended result) history) {target : Address}
    {attempt : Attempt} (held : .connect target attempt ∈ history) : target = occasion.address := by
  rcases position.shape with refused | ⟨front, outcome, calls, rfl, reached, only⟩
  · exact refused.onlyConnects.aimed held
  · rcases List.mem_append.1 held with held | held
    · exact reached.onlyConnects.aimed held
    · exact absurd (by simpa using held) only.connect_notMem

theorem opened_of_split (position : occasion.Position (.ended result) history)
    {database : DatabaseSettings} {outcome : Except Failure Unit}
    (split : history = before ++ .access database outcome :: after) :
    database = occasion.settings.database ∧ occasion.Reached before ∧ OnlyCalls after := by
  rcases position.shape with refused | ⟨front, first, calls, rfl, reached, only⟩
  · subst split
    exact absurd (List.mem_append_cons_self) refused.onlyConnects.access_notMem
  · have noneInFront :
        ∀ effect ∈ front, ¬ ∃ database outcome, effect = .access database outcome := by
      rintro _ held ⟨_, _, rfl⟩
      exact reached.onlyConnects.access_notMem held
    have noneBehind :
        ∀ effect ∈ calls, ¬ ∃ database outcome, effect = .access database outcome := by
      rintro _ held ⟨_, _, rfl⟩
      exact only.access_notMem held
    obtain ⟨rfl, same, rfl⟩ := eq_of_append_cons_eq _ split noneInFront noneBehind ⟨_, _, rfl⟩
    cases same
    exact ⟨rfl, reached, only⟩

theorem opened_of_succeeded (position : occasion.Position (.ended result) history)
    {target : Address} {attempt : Attempt} (held : .connect target attempt ∈ history)
    (succeeded : attempt.succeeded = true) :
    ∃ outcome, .access occasion.settings.database outcome ∈ history := by
  rcases position.shape with refused | ⟨front, outcome, calls, rfl, -⟩
  · obtain ⟨_, same, failed⟩ := refused _ held
    cases same
    exact absurd succeeded (Bool.eq_false_iff.1 failed)
  · exact ⟨outcome, List.mem_append_cons_self⟩

/-- Where a run has not reached the store in time, it has ended at its checks or in its wait. -/
theorem outcome_of_unreached (position : occasion.Position (.ended result) history)
    (cleared : occasion.Cleared) (unreached : occasion.Unreached history) :
    (∃ made, occasion.WithinClock history ∧
      result = .error ((occasion.settings.gate.timeoutError made : Failure).within
        "Store never became reachable")) ∨
      ¬ occasion.WithinClock history ∧ result = .error (.ofCause (.overflow .instant)) := by
  cases position with
  | skipped disabled => exact absurd cleared.enabled (Bool.eq_false_iff.1 disabled)
  | rejected enabled rejected => exact nomatch rejected.symm.trans cleared.account
  | missed made _ _ inClock => exact .inl ⟨made, inClock, rfl⟩
  | crashed _ _ beyond => exact .inr ⟨beyond, rfl⟩
  | closed failure _ reached => exact absurd unreached (reached.not_unreached (by simp))
  | opened _ reached dealt => exact absurd unreached (reached.not_unreached (by simp))

theorem missed_of_unreached (position : occasion.Position (.ended result) history)
    (cleared : occasion.Cleared) (unreached : occasion.Unreached history)
    (inClock : occasion.WithinClock history) :
    ∃ failure, result = .error failure ∧ failure.exitCode = 124 := by
  obtain ⟨made, -, rfl⟩ | ⟨beyond, -⟩ := position.outcome_of_unreached cleared unreached
  · exact ⟨_, rfl, rfl⟩
  · exact absurd inClock beyond

theorem crashed_of_unreached (position : occasion.Position (.ended result) history)
    (cleared : occasion.Cleared) (unreached : occasion.Unreached history)
    (beyond : ¬ occasion.WithinClock history) :
    result = .error (.ofCause (.overflow .instant)) := by
  obtain ⟨made, inClock, -⟩ | ⟨-, same⟩ := position.outcome_of_unreached cleared unreached
  · exact absurd inClock beyond
  · exact same

theorem access_notMem_of_unreached (position : occasion.Position (.ended result) history)
    (unreached : occasion.Unreached history) {database : DatabaseSettings}
    {outcome : Except Failure Unit} : .access database outcome ∉ history := by
  rcases position.shape with refused | ⟨front, first, calls, rfl, reached, -⟩
  · exact refused.onlyConnects.access_notMem
  · exact absurd unreached (reached.not_unreached (List.subset_append_left _ _))

theorem closed_of_mem (position : occasion.Position (.ended result) history)
    {database : DatabaseSettings} {failure : Failure}
    (held : .access database (.error failure) ∈ history) : result = .error failure := by
  cases position with
  | skipped | rejected => cases held
  | missed _ cleared refused | crashed cleared refused =>
    exact absurd held refused.onlyConnects.access_notMem
  | closed first cleared reached =>
    rcases List.mem_append.1 held with held | held
    · exact absurd held reached.onlyConnects.access_notMem
    · cases List.mem_singleton.1 held
      rfl
  | opened cleared reached dealt =>
    rcases List.mem_append.1 held with held | held
    · exact absurd held reached.onlyConnects.access_notMem
    · exact absurd (by simpa using held) dealt.onlyCalls.access_notMem

/-- Before a call, the store has been opened, and asked for nothing but the calls before. -/
theorem exists_dealt_of_split (position : occasion.Position (.ended result) history)
    {call : StoreCall} {answer : Except Failure call.Answer}
    (split : history = before ++ .call call answer :: after) :
    ∃ front earlier, before = front ++ .access occasion.settings.database (.ok ()) :: earlier ∧
      Initializer.Dealt occasion.party (.ended result)
        (earlier ++ .call call answer :: after) := by
  have asked : .call call answer ∈ history := split ▸ List.mem_append_cons_self
  cases position with
  | skipped | rejected => cases asked
  | missed _ cleared refused | crashed cleared refused =>
    exact absurd asked refused.onlyConnects.call_notMem
  | closed failure cleared reached =>
    exact absurd (by simpa using asked) reached.onlyConnects.call_notMem
  | @opened front stage effects cleared reached dealt =>
    obtain ⟨middle, rfl, rest⟩ | ⟨middle, rfl, rest⟩ := List.append_eq_append_iff.1 split
    · cases middle with
      | nil => cases rest
      | cons first middle =>
        cases rest
        exact ⟨front, middle, rfl, dealt⟩
    · cases middle with
      | nil => cases rest
      | cons first middle =>
        cases rest
        exact absurd List.mem_append_cons_self reached.onlyConnects.call_notMem

theorem calls_prefix (position : occasion.Position (.ended result) history) :
    history.filterMap InitEffect.call? <+: Initializer.allCalls occasion.party := by
  cases position with
  | skipped | rejected => exact List.nil_prefix
  | missed _ cleared refused | crashed cleared refused =>
    rw [refused.onlyConnects.filterMap_call?]
    exact List.nil_prefix
  | closed failure cleared reached =>
    rw [List.filterMap_append, reached.onlyConnects.filterMap_call?]
    exact List.nil_prefix
  | opened cleared reached dealt =>
    rw [List.filterMap_append, reached.onlyConnects.filterMap_call?]
    exact dealt.calls_prefix

/-- A run whose store is opened and answers every call makes all of them. -/
theorem completed (position : occasion.Position (.ended result) history)
    (opened : .access occasion.settings.database (.ok ()) ∈ history)
    (answered : ∀ call failure, .call call (.error failure) ∉ history) :
    history.filterMap InitEffect.call? = Initializer.allCalls occasion.party ∧
      ∃ seeded created,
        result = occasion.party.account.map fun _ => .initialized seeded created := by
  cases position with
  | skipped | rejected => cases opened
  | missed _ cleared refused | crashed cleared refused =>
    exact absurd opened refused.onlyConnects.access_notMem
  | closed failure cleared reached =>
    exact absurd (by simpa using opened) reached.onlyConnects.access_notMem
  | opened cleared reached dealt =>
    rw [List.filterMap_append, reached.onlyConnects.filterMap_call?]
    exact dealt.all_of_answered fun call failure held => answered call failure (by simp [held])

/-- Where a run can come to an end, the store has been dealt with in the right way. -/
theorem guarded (position : occasion.Position (.ended result) history) :
    occasion.Guarded result history where
  skipped disabled := by
    cases position with
    | skipped => exact ⟨rfl, rfl⟩
    | rejected enabled rejected => exact nomatch disabled.symm.trans enabled
    | missed _ cleared => exact nomatch disabled.symm.trans cleared.enabled
    | crashed cleared => exact nomatch disabled.symm.trans cleared.enabled
    | closed failure cleared reached => exact nomatch disabled.symm.trans cleared.enabled
    | opened cleared reached dealt => exact nomatch disabled.symm.trans cleared.enabled
  rejected failure enabled refused := by
    cases position with
    | skipped disabled => exact nomatch disabled.symm.trans enabled
    | rejected enabled rejected =>
      cases rejected.symm.trans refused
      exact ⟨rfl, rfl⟩
    | missed _ cleared => exact nomatch refused.symm.trans cleared.account
    | crashed cleared => exact nomatch refused.symm.trans cleared.account
    | closed failure cleared reached => exact nomatch refused.symm.trans cleared.account
    | opened cleared reached dealt => exact nomatch refused.symm.trans cleared.account
  aimed _ _ held := position.aimed held
  opened _ _ _ _ split := position.opened_of_split split
  reached _ _ held succeeded := position.opened_of_succeeded held succeeded
  missed cleared unreached inClock := position.missed_of_unreached cleared unreached inClock
  crashed cleared unreached beyond := position.crashed_of_unreached cleared unreached beyond
  unopened unreached _ _ := position.access_notMem_of_unreached unreached
  closed _ _ held := position.closed_of_mem held
  called _ _ _ _ split := by
    obtain ⟨front, earlier, rfl, -⟩ := position.exists_dealt_of_split split
    exact List.mem_append_cons_self
  calls := position.calls_prefix
  failed _ _ _ _ split := by
    obtain ⟨_, _, -, dealt⟩ := position.exists_dealt_of_split split
    exact dealt.last_of_error
  completed opened answered := position.completed opened answered

end Position

variable (occasion)

/-- Nothing touches the store too early: from its checks to its end, a run makes the attempts,
openings and calls that it tells of one after another, and never one before its time. -/
theorem store_guarded (store : σ) (punctual : occasion.connector.Punctual) :
    ∃ history,
      occasion.Leads ⟨.checking, store, []⟩
        ⟨.ended (occasion.run store).result, (occasion.run store).store, history⟩ ∧
      (occasion.run store).Tells history ∧
      occasion.Guarded (occasion.run store).result history := by
  obtain ⟨history, leads, tells⟩ := occasion.leads_run store
  exact ⟨history, leads, tells, (Position.fresh.of_leads punctual leads).guarded⟩

/-- A run whose store refuses connections for two seconds. -/
def slow : Occasion Store where
  settings := ⟨true, .standard, ⟨"db", 5432, "app", "app", none, .ofSeconds 5⟩, .ofSeconds 60⟩
  timer := .exact
  hasher := .argon2id
  connector := fun _ now _ =>
    ⟨.zero, if now < .ofSeconds 2 then some "connection refused" else none⟩
  behaviour := Store.behaviour
  chance := ⟨"generated", []⟩
  begun := .zero

theorem slow_store_guarded :
    slow.connector.Punctual ∧ ∃ history,
      slow.Leads ⟨.checking, .ofSettings .empty, []⟩
        ⟨.ended (slow.run (.ofSettings .empty)).result, (slow.run (.ofSettings .empty)).store,
          history⟩ ∧
      (slow.run (.ofSettings .empty)).Tells history ∧
      slow.Guarded (slow.run (.ofSettings .empty)).result history ∧
      (history.filterMap InitEffect.attempt?).length = 3 ∧
      (slow.run (.ofSettings .empty)).result.toOption = some (.initialized 5 true) := by
  have punctual : slow.connector.Punctual := fun _ _ budget => Nat.zero_le budget.nanos
  obtain ⟨history, leads, tells, guarded⟩ := slow.store_guarded (.ofSettings .empty) punctual
  refine ⟨punctual, history, leads, tells, guarded, ?_, by decide +kernel⟩
  rw [← tells.attempts]
  decide +kernel

/-- A run whose store refuses every connection, and which has more time than the clock can count. -/
def patient : Occasion Store :=
  { slow with
    settings := { slow.settings with readinessTimeout := .ofSeconds 0xFFFFFFFFFFFFFFFF }
    connector := fun _ _ _ => ⟨.zero, some "connection refused"⟩ }

/-- Such a run makes no attempt, and does not end with the status of one that ran out of time. -/
theorem patient_crashes :
    patient.connector.Punctual ∧ patient.Cleared ∧
      ((patient.run (.ofSettings .empty)).wait.map (·.attempts)) = some [] ∧
      ∃ failure, (patient.run (.ofSettings .empty)).result = .error failure ∧
        failure.exitCode = 101 :=
  ⟨fun _ _ budget => Nat.zero_le budget.nanos, ⟨rfl, by decide +kernel⟩, by decide +kernel,
    .ofCause (.overflow .instant), by rfl, rfl⟩

end Occasion

end Convoy
