import Convoy.Proofs.Initializer.Interleaving
import Mathlib

/-!
# Initializations converge

However the steps of several runs on one store are mixed, and wherever runs fail or are stopped,
nothing that is there is changed, the settings that are missing are put in once, and of all runs
that ask for an account of a name only the first is given it. Nothing is left to do for a further
run.
-/

namespace Convoy.Initializer

variable {ι : Type} {parties : ι → Party} {username : String}

/-! ## Settings -/

/-- Whether a store has the settings that another one had and, behind them, the default settings. -/
def Filled (initial store : Store) : Prop :=
  ∀ key, store.settings.get? key =
    (initial.settings.get? key).or (defaultSettings.lookup key)

/-- A store that has been filled misses none of the default settings. -/
theorem Filled.contains {initial store : Store} (filled : Filled initial store) :
    ∀ setting ∈ defaultSettings, store.settings.contains setting.1 = true := by
  intro setting member
  have known : defaultSettings.lookup setting.1 = some setting.2 :=
    (Dictionary.lookup_eq_some_iff_mem distinct_defaultSettings).2 member
  rw [Dictionary.contains, filled setting.1, known]
  cases initial.settings.get? setting.1 <;> rfl

/-- How the settings of a store came about. No step has seeded yet, or the first one that did has
put in what was missing and left nothing to the later ones. -/
inductive Supplied (initial store : Store) : List Nat → Prop
  | never (same : store.settings = initial.settings) : Supplied initial store []
  | once {rest : List Nat}
      (filled : Filled initial store)
      (nothing : ∀ seeded ∈ rest, seeded = 0) :
      Supplied initial store (Store.missing initial.settings defaultSettings :: rest)

namespace Supplied

variable {initial store next : Store} {answers : List Nat}

theorem congr (supplied : Supplied initial store answers)
    (same : next.settings = store.settings) : Supplied initial next answers := by
  cases supplied with
  | never former => exact .never (same.trans former)
  | once filled nothing => exact .once (fun key => by rw [same, filled key]) nothing

theorem seed (supplied : Supplied initial store answers) :
    Supplied initial (store.answer (.seed defaultSettings)).2
      (answers ++ [(store.answer (.seed defaultSettings)).1]) := by
  cases supplied with
  | never same =>
    have count : (store.answer (.seed defaultSettings)).1 =
        Store.missing initial.settings defaultSettings := by
      rw [← same]
      rfl
    rw [List.nil_append, count]
    refine .once (fun key => ?_) (by simp)
    rw [← same]
    exact Store.get?_foldl_seedOne store.settings defaultSettings key
  | once filled nothing =>
    have none : (store.answer (.seed defaultSettings)).1 = 0 :=
      Store.missing_eq_zero filled.contains
    rw [none, List.cons_append]
    refine .once (fun key => ?_) ?_
    · rw [Store.answer, Store.get?_foldl_seedOne, filled key, Option.or_assoc, Option.or_self]
    · simpa [or_imp, forall_and] using nothing

theorem course {party : Party} {stage after : InitStage}
    (supplied : Supplied initial store answers) (course : Course party store stage after next)
    (who : ι) :
    Supplied initial next (answers ++ (Turn.seeded? ⟨who, stage, after, next⟩).toList) := by
  cases course with
  | failed failure =>
    rw [Turn.seeded?_failed, Option.toList_none, List.append_nil]
    exact supplied
  | migrated =>
    have same : (store.answer .migrate).2.settings = store.settings := rfl
    simpa [Turn.seeded?] using supplied.congr same
  | seeded => simpa [Turn.seeded?] using supplied.seed
  | created own => simpa [Turn.seeded?] using supplied.congr (store.settings_answer_create _)

theorem filled (supplied : Supplied initial store answers) (seeded : answers ≠ []) :
    Filled initial store := by
  cases supplied with
  | never same => exact absurd rfl seeded
  | once filled nothing => exact filled

/-- Together, the steps that seed put in what was missing. -/
theorem sum (supplied : Supplied initial store answers) (seeded : answers ≠ []) :
    answers.sum = defaultSettings.countP fun setting => !initial.settings.contains setting.1 := by
  cases supplied with
  | never same => exact absurd rfl seeded
  | once filled nothing =>
    rw [List.sum_cons, List.sum_eq_zero nothing, Nat.add_zero,
      Store.missing_eq_countP _ distinct_defaultSettings]

/-- After the first one, a step that seeds finds nothing missing. -/
theorem nothing_later {earlier later : List Nat}
    (supplied : Supplied initial store (earlier ++ later)) (seeded : earlier ≠ []) :
    ∀ seeded ∈ later, seeded = 0 := by
  obtain ⟨first, rest, rfl⟩ := List.exists_cons_of_ne_nil seeded
  cases supplied with
  | once filled nothing =>
    exact fun seeded member => nothing seeded (List.mem_append_right _ member)

end Supplied

/-! ## Accounts -/

/-- How the account of a name came about. It was there from the beginning, nobody has asked for one,
or the first run that asked was given it; all others were refused. -/
inductive Granted (parties : ι → Party) (username : String) (initial store : Store) :
    List (ι × Bool) → Prop
  | taken {answers : List (ι × Bool)} {account : NewAccount}
      (present : initial.accounts.get? username = some account)
      (stored : store.accounts.get? username = some account)
      (refused : ∀ answer ∈ answers, answer.2 = false) :
      Granted parties username initial store answers
  | free (absent : initial.accounts.get? username = none)
      (still : store.accounts.get? username = none) : Granted parties username initial store []
  | first {who : ι} {rest : List (ι × Bool)} {account : NewAccount}
      (absent : initial.accounts.get? username = none)
      (own : (parties who).account = .ok account)
      (stored : store.accounts.get? username = some account)
      (refused : ∀ answer ∈ rest, answer.2 = false) :
      Granted parties username initial store ((who, true) :: rest)

namespace Granted

variable {initial store next : Store} {answers : List (ι × Bool)}

theorem congr (granted : Granted parties username initial store answers)
    (same : next.accounts.get? username = store.accounts.get? username) :
    Granted parties username initial next answers := by
  cases granted with
  | taken present stored refused => exact .taken present (same.trans stored) refused
  | free absent still => exact .free absent (same.trans still)
  | first absent own stored refused => exact .first absent own (same.trans stored) refused

theorem create (granted : Granted parties username initial store answers) {who : ι}
    {account : NewAccount} (own : (parties who).account = .ok account)
    (named : (parties who).admin.username = username) :
    Granted parties username initial (store.answer (.create account)).2
      (answers ++ [(who, (store.answer (.create account)).1)]) := by
  have name : account.username = username := (username_of_makeAccount own).trans named
  have after := store.get?_answer_create account username
  have answer := store.fst_answer_create account
  rw [name, if_pos rfl] at after
  rw [name, Dictionary.contains] at answer
  -- Both what is stored and what is answered depend on whether the name was free just before.
  cases granted with
  | taken present stored refused =>
    rw [stored] at after answer
    rw [answer]
    refine .taken present after ?_
    simpa [or_imp, forall_and] using refused
  | free absent still =>
    rw [still] at after answer
    rw [answer]
    exact .first absent own after (by simp)
  | first absent former stored refused =>
    rw [stored] at after answer
    rw [answer]
    refine .first absent former after ?_
    simpa [or_imp, forall_and] using refused

theorem course {stage after : InitStage} {who : ι}
    (granted : Granted parties username initial store answers)
    (course : Course (parties who) store stage after next) :
    Granted parties username initial next
      (answers ++ (Turn.created? parties username ⟨who, stage, after, next⟩).toList) := by
  cases course with
  | failed failure =>
    rw [Turn.created?_failed, Option.toList_none, List.append_nil]
    exact granted
  | migrated =>
    have same : (store.answer .migrate).2.accounts = store.accounts := rfl
    simpa [Turn.created?] using granted.congr (congrArg (·.get? username) same)
  | seeded =>
    have same : (store.answer (.seed defaultSettings)).2.accounts = store.accounts := rfl
    simpa [Turn.created?] using granted.congr (congrArg (·.get? username) same)
  | @created seeded account own =>
    by_cases named : (parties who).admin.username = username
    · simpa [Turn.created?, named] using granted.create own named
    · have other : username ≠ account.username := fun equal =>
        named ((username_of_makeAccount own).symm.trans equal.symm)
      have same := store.get?_answer_create account username
      rw [if_neg other, Option.or_none] at same
      simpa [Turn.created?, named] using granted.congr same

/-- Once somebody has asked for it, there is an account of the name. -/
theorem contains (granted : Granted parties username initial store answers)
    (asked : answers ≠ []) : store.accounts.contains username = true := by
  cases granted with
  | taken present stored refused => exact Dictionary.contains_iff_exists.2 ⟨_, stored⟩
  | free absent still => exact absurd rfl asked
  | first absent own stored refused => exact Dictionary.contains_iff_exists.2 ⟨_, stored⟩

theorem countP_le_one (granted : Granted parties username initial store answers) :
    answers.countP (·.2) ≤ 1 := by
  have none : ∀ {rest : List (ι × Bool)}, (∀ answer ∈ rest, answer.2 = false) →
      rest.countP (·.2) = 0 := fun refused =>
    List.countP_eq_zero.2 fun answer member => by simp [refused answer member]
  cases granted with
  | taken present stored refused => simp [none refused]
  | free absent still => simp
  | first absent own stored refused => simp [none refused]

/-- The account that is stored is that of the run that created it. -/
theorem stored (granted : Granted parties username initial store answers) {who : ι}
    (created : (who, true) ∈ answers) :
    ∃ account, (parties who).account = .ok account ∧
      store.accounts.get? username = some account := by
  cases granted with
  | taken present stored refused => cases refused _ created
  | free absent still => cases created
  | first absent own stored refused =>
    rcases List.mem_cons.1 created with equal | later
    · cases equal
      exact ⟨_, own, stored⟩
    · cases refused _ later

theorem exists_created_iff (granted : Granted parties username initial store answers) :
    (∃ who, (who, true) ∈ answers) ↔
      initial.accounts.get? username = none ∧ answers ≠ [] := by
  cases granted with
  | taken present stored refused =>
    rw [present]
    constructor
    · rintro ⟨who, created⟩
      cases refused _ created
    · rintro ⟨absent, -⟩
      cases absent
  | free absent still => simp
  | @first who rest account absent own stored refused =>
    exact ⟨fun _ => ⟨absent, List.cons_ne_nil _ _⟩, fun _ => ⟨who, List.mem_cons_self⟩⟩

/-- After the first one, nobody who asks is given an account. -/
theorem refused_later {earlier later : List (ι × Bool)}
    (granted : Granted parties username initial store (earlier ++ later)) (asked : earlier ≠ []) :
    ∀ answer ∈ later, answer.2 = false := by
  obtain ⟨first, rest, rfl⟩ := List.exists_cons_of_ne_nil asked
  cases granted with
  | taken present stored refused =>
    exact fun answer member => refused answer (List.mem_append_right _ member)
  | first absent own stored refused =>
    exact fun answer member => refused answer (List.mem_append_right _ member)

end Granted

/-! ## Runs -/

namespace Interleaving

variable [DecidableEq ι] {initial : Store} {history : List (Turn ι)} {state : Shared ι}

theorem supplied (run : Interleaving parties initial history state) :
    Supplied initial state.store (seedings history) := by
  induction run with
  | start => exact .never rfl
  | advance before made induction =>
    rw [seedings_concat]
    exact induction.course made.course _

theorem granted (run : Interleaving parties initial history state) (username : String) :
    Granted parties username initial state.store (creations parties username history) := by
  induction run with
  | start =>
    cases found : initial.accounts.get? username with
    | none => exact .free found found
    | some account => exact .taken found found (by simp [creations])
  | advance before made induction =>
    rw [creations_concat]
    exact induction.course made.course

/-- What the store has at some moment, it has at every later one. -/
theorem kept (run : Interleaving parties initial history state) :
    (initial :: history.map (·.store)).Pairwise Store.Keeps ∧
      ∀ former ∈ initial :: history.map (·.store), former.Keeps state.store := by
  induction run with
  | start => simp [Store.Keeps.refl]
  | @advance history state who after store before made induction =>
    obtain ⟨ordered, last⟩ := induction
    have reaches : ∀ former ∈ initial :: history.map (·.store), former.Keeps store :=
      fun former member => (last former member).trans made.course.keeps
    rw [List.map_append, ← List.cons_append]
    refine ⟨List.pairwise_append.2 ⟨ordered, List.pairwise_singleton _ _, ?_⟩, ?_⟩
    · intro former member later equal
      cases List.mem_singleton.1 equal
      exact reaches former member
    · intro former member
      rcases List.mem_append.1 member with earlier | equal
      · exact reaches former earlier
      · cases List.mem_singleton.1 equal
        exact .refl store

/-- Once somebody has asked for an account, nothing is left to do for its name. -/
theorem furnished (run : Interleaving parties initial history state)
    (asked : creations parties username history ≠ []) : Furnished username state.store where
  settings := (run.supplied.filled (run.seedings_ne_nil asked)).contains
  account := (run.granted username).contains asked

end Interleaving

/-! ## A further run -/

/-- A run on a store that is furnished for its name does nothing but bring the schema up to date, if
its password can be hashed. -/
theorem prepare_of_furnished {hasher : Hasher} {admin : AdminAccount} {chance : Chance}
    {account : NewAccount} {store : Store} (furnished : Furnished admin.username store)
    (made : makeAccount hasher admin chance = .ok account) :
    (prepare hasher Store.behaviour admin chance store).result = .ok (.initialized 0 false) ∧
      (prepare hasher Store.behaviour admin chance store).store =
        { store with migrations := store.migrations + 1 } := by
  have still := furnished.keeps (store.keeps_answer .migrate)
  have named := username_of_makeAccount made
  simp (disch := decide) only [prepare, result_finish, store_finish, finish_ended, step, made,
    Store.behaviour, still.answer_seed, still.answer_create named]
  exact ⟨trivial, rfl⟩

/-! ## All together -/

/-- What several runs on a store have come to, in whatever order they have taken their steps. -/
structure Converged (parties : ι → Party) (initial : Store) (history : List (Turn ι))
    (state : Shared ι) : Prop where
  /-- What is there at some moment is neither changed nor removed later. -/
  kept : (initial :: history.map (·.store)).Pairwise Store.Keeps
  /-- Once a step has seeded, the settings are those of the beginning and the missing defaults. -/
  settings : seedings history ≠ [] → Filled initial state.store
  /-- Together, the steps that seed put in as many settings as were missing. -/
  seeded : seedings history ≠ [] → (seedings history).sum =
    defaultSettings.countP fun setting => !initial.settings.contains setting.1
  /-- Whoever tells of settings and of an account, was answered so by the store. -/
  told : ∀ who, Told parties history who (state.stage who)
  /-- At most one account of a name is created. -/
  once : ∀ username, (creations parties username history).countP (·.2) ≤ 1
  /-- Whoever created an account, it is the account that is stored. -/
  stored : ∀ username who, (who, true) ∈ creations parties username history →
    ∃ account, (parties who).account = .ok account ∧
      state.store.accounts.get? username = some account
  /-- An account is created if there was none of its name and somebody has asked for it. -/
  created : ∀ username, (∃ who, (who, true) ∈ creations parties username history) ↔
    initial.accounts.get? username = none ∧ creations parties username history ≠ []
  /-- After somebody has asked for an account, a whole run for its name whose password can be hashed
  has nothing left to do. -/
  rerun : ∀ hasher admin chance account, creations parties admin.username history ≠ [] →
    makeAccount hasher admin chance = .ok account →
      (prepare hasher Store.behaviour admin chance state.store).result =
          .ok (.initialized 0 false) ∧
        (prepare hasher Store.behaviour admin chance state.store).store =
          { state.store with migrations := state.store.migrations + 1 }
  /-- The same is true of a run for its name that only then begins, while others are under way. -/
  latecomer : ∀ earlier later who outcome, history = earlier ++ later →
    creations parties (parties who).admin.username earlier ≠ [] →
    (∀ turn ∈ earlier, turn.who ≠ who) → state.stage who = .ended (.ok outcome) →
    outcome = .initialized 0 false

/-- Initializations of one store converge, in whatever order their steps are taken and wherever some
of them fail or are stopped. -/
theorem converged_of_interleaving [DecidableEq ι] {initial : Store} {history : List (Turn ι)}
    {state : Shared ι} (run : Interleaving parties initial history state) :
    Converged parties initial history state where
  kept := run.kept.1
  settings := run.supplied.filled
  seeded := run.supplied.sum
  told := fun who => run.told (List.nil_append history).symm (by simp)
  once := fun username => (run.granted username).countP_le_one
  stored := fun username who created => (run.granted username).stored created
  created := fun username => (run.granted username).exists_created_iff
  rerun := fun _ _ _ _ asked made => prepare_of_furnished (run.furnished asked) made
  latecomer := by
    rintro earlier later who outcome rfl asked fresh ended
    -- What the run has been told comes from the rest, where nothing is missing and nobody is first.
    obtain ⟨_, early⟩ := run.exists_prefix rfl
    have supplied := run.supplied
    have granted := run.granted (parties who).admin.username
    rw [seedings_append] at supplied
    rw [creations_append] at granted
    have told := run.told rfl fresh
    rw [ended] at told
    cases outcome with
    | skipped => exact told.elim
    | initialized seeded created =>
      have nothing : seeded = 0 :=
        supplied.nothing_later (early.seedings_ne_nil asked) seeded told.1
      have refused : created = false := granted.refused_later asked (who, created) told.2
      rw [nothing, refused]

/-! ## Three runs -/

section Replay

variable [DecidableEq ι] (parties : ι → Party)

/-- Takes steps in an order that is given, on a store that does not fail. A run that comes with a
failure is stopped. -/
def replay (history : List (Turn ι)) (state : Shared ι) :
    List (ι × Option Failure) → List (Turn ι) × Shared ι
  | [] => (history, state)
  | (who, some failure) :: rest =>
    replay (history ++ [⟨who, state.stage who, .ended (.error failure), state.store⟩])
      (state.advanced who (.ended (.error failure)) state.store) rest
  | (who, none) :: rest =>
    if 0 < (state.stage who).callsLeft then
      let next := step (parties who).hasher Store.behaviour (parties who).admin
        (parties who).chance (state.stage who) state.store
      replay (history ++ [⟨who, state.stage who, next.stage, next.store⟩])
        (state.advanced who next.stage next.store) rest
    else replay history state rest

variable {parties}

theorem Interleaving.replay {initial : Store} {history : List (Turn ι)} {state : Shared ι}
    (run : Interleaving parties initial history state) (script : List (ι × Option Failure)) :
    Interleaving parties initial (Initializer.replay parties history state script).1
      (Initializer.replay parties history state script).2 := by
  induction script generalizing history state with
  | nil => exact run
  | cons entry rest induction =>
    rcases entry with ⟨who, failure | failure⟩
    · rw [Initializer.replay]
      split
      · rename_i left
        exact induction (run.advance (.call Store.behaviour Store.atomic_behaviour left))
      · exact induction run
    · exact induction (run.advance (.stop failure))

end Replay

/-- Runs for accounts of the same name. -/
def crew : Fin 3 → Party
  | 0 => ⟨.argon2id, .standard, ⟨"first", []⟩⟩
  | 1 => ⟨.argon2id, { AdminAccount.standard with email := "second@example.org" }, ⟨"second", []⟩⟩
  | 2 => ⟨.argon2id, .standard, ⟨"third", []⟩⟩

/-- The first run seeds settings and is stopped, the second one creates its account, and the third
one comes too late for both. -/
def crew.script : List (Fin 3 × Option Failure) :=
  [(0, none), (1, none), (0, none), (0, some (.ofText "terminated")), (2, none), (1, none),
    (1, none), (2, none), (2, none)]

/-- A store with one of the settings. -/
def crew.store : Store := .ofSettings (.ofList [("time_zone", "Europe/Berlin")])

theorem crew_converged :
    ∃ history state, Interleaving crew crew.store history state ∧
      Converged crew crew.store history state ∧
      seedings history = [4, 0, 0] ∧
      creations crew "admin" history = [(1, true), (2, false)] := by
  have run : Interleaving crew crew.store _ _ := Interleaving.start.replay crew.script
  refine ⟨_, _, run, converged_of_interleaving run, ?_, ?_⟩
  · decide +kernel
  · decide +kernel

end Convoy.Initializer
