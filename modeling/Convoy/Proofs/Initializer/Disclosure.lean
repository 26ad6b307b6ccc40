import Convoy.Proofs.Dictionary
import Convoy.Proofs.Initializer.Interleaving
import Convoy.Proofs.Initializer.Trace
import Mathlib.Data.List.Infix

/-!
# What a run tells of passwords

Two runs that differ in the password of the administrator alone tell the same and do the same, up to
the hashes that they store. The only line that depends on a password is the one that tells of a
generated one: it is the last line of a run that has created the account, and in no other run.

Hashing is left to somebody else, and can fail: a password can be longer than any that is hashed. A
run with such a password ends where another one asks for the account.
-/

namespace Convoy

/-! ## What does not show a password -/

/-- Whether two calls differ in the hash of a password alone. -/
inductive StoreCall.SameButHash : StoreCall → StoreCall → Prop
  | migrate : SameButHash .migrate .migrate
  | seed (settings : List (String × String)) : SameButHash (.seed settings) (.seed settings)
  | create (account : NewAccount) (hash : PasswordHash) :
      SameButHash (.create account) (.create { account with passwordHash := hash })

/-- Two attempts to make an account that come to the same, up to its hash. -/
inductive SameAccount : Except Failure NewAccount → Except Failure NewAccount → Prop
  | made (account : NewAccount) (hash : PasswordHash) :
      SameAccount (.ok account) (.ok { account with passwordHash := hash })
  | unmade (failure : Failure) : SameAccount (.error failure) (.error failure)

namespace Hasher

/-- Whether a password is not too long to be hashed. -/
def Takes (password : String) : Prop := password.utf8ByteSize ≤ lengthLimit

instance (password : String) : Decidable (Takes password) := Nat.decLe _ _

/-- What is documented of a hasher: it hashes every password that is not too long, and refuses all
others in the same words. -/
structure Documented (hasher : Hasher) (reason : String) : Prop where
  hashes : ∀ password salt, Takes password → ∃ hash, hasher password salt = .ok hash
  refuses : ∀ password salt, ¬ Takes password → hasher password salt = .error reason

theorem argon2id_documented : argon2id.Documented "invalid password" where
  hashes password salt takes := ⟨.ofPassword password salt, if_pos takes⟩
  refuses _ _ long := if_neg long

end Hasher

variable {σ : Type} {alike : σ → σ → Prop}

/-- Two answers that are the same, and leave stores that are alike. -/
inductive SameAnswer {α : Type} (alike : σ → σ → Prop) :
    Except Failure α × σ → Except Failure α × σ → Prop
  | intro (answer : Except Failure α) {first second : σ} (store : alike first second) :
      SameAnswer alike (answer, first) (answer, second)

/-- A store whose answers do not depend on the hashes of passwords: stores that are alike answer in
the same way to calls that differ in a hash alone, and are alike again. -/
structure StoreBehaviour.Blind (behaviour : StoreBehaviour σ) (alike : σ → σ → Prop) : Prop where
  connect : ∀ database {first second}, alike first second →
    SameAnswer alike (behaviour.connect database first) (behaviour.connect database second)
  migrate : ∀ {first second}, alike first second →
    SameAnswer alike (behaviour.answer .migrate first) (behaviour.answer .migrate second)
  seed : ∀ settings {first second}, alike first second →
    SameAnswer alike (behaviour.answer (.seed settings) first)
      (behaviour.answer (.seed settings) second)
  create : ∀ account hash {first second}, alike first second →
    SameAnswer alike (behaviour.answer (.create account) first)
      (behaviour.answer (.create { account with passwordHash := hash }) second)

/-- The same administrator with another password, or with none. -/
def AdminAccount.withPassword (admin : AdminAccount) (password : Option String) : AdminAccount :=
  { admin with password := password }

/-- The same settings with another password of the administrator, or with none. -/
def InitializerSettings.withPassword (settings : InitializerSettings) (password : Option String) :
    InitializerSettings :=
  { settings with admin := settings.admin.withPassword password }

/-! ## What shows one -/

/-- The line that tells of a generated password. -/
def LogLine.disclosing (username password : String) : LogLine :=
  .warn s!"Admin password for '{username}': {password}"

/-- Whether a text stands in a line. -/
def LogLine.mentions (line : LogLine) (text : String) : Bool :=
  decide (text.toList <:+: line.text.toList)

theorem LogLine.mentions_disclosing (username password : String) :
    (LogLine.disclosing username password).mentions password = true := by
  refine decide_eq_true (List.IsSuffix.isInfix ?_)
  change password.toList <:+ ("Admin password for '" ++ username ++ "': " ++ password).toList
  rw [String.toList_append]
  exact List.suffix_append _ _

/-- What is told about the password by the time that a run has come to a result. -/
def AdminAccount.disclosure (admin : AdminAccount) (chance : Chance) :
    Except Failure InitOutcome → List LogLine
  | .ok (.initialized _ true) =>
    match admin.password with
    | some _ => []
    | none => [.disclosing admin.username chance.password]
  | _ => []

/-! ## Calls to a store -/

/-- Two calls of a store that lead to the same, up to hashes. -/
structure InitStep.Agrees (alike : σ → σ → Prop) (first second : InitStep σ) : Prop where
  stage : first.stage = second.stage
  store : alike first.store second.store
  calls : List.Forall₂ StoreCall.SameButHash first.calls second.calls

/-- Two courses of calls that are the same, up to hashes. -/
structure Initialization.Agrees (alike : σ → σ → Prop) (first second : Initialization σ) :
    Prop where
  result : first.result = second.result
  store : alike first.store second.store
  calls : List.Forall₂ StoreCall.SameButHash first.calls second.calls

/-- A course of calls that ends with a failure where another one asks for the account. -/
structure Initialization.Short (failure : Failure) (short whole : Initialization σ) : Prop where
  result : short.result = .error failure
  lines : short.lines <+: whole.lines
  calls : ∃ account, List.Forall₂ StoreCall.SameButHash whole.calls
    (short.calls ++ [.create account])

namespace Initializer

variable {behaviour : StoreBehaviour σ} {first second : σ} {hasher : Hasher} {reason : String}

theorem makeAccount_of_takes (documented : hasher.Documented reason) (admin : AdminAccount)
    (chance : Chance) (takes : Hasher.Takes (password admin chance)) :
    ∃ hash, makeAccount hasher admin chance = .ok (newAccount admin hash) := by
  obtain ⟨hash, hashed⟩ := documented.hashes _ chance.salt takes
  exact ⟨hash, by rw [makeAccount, hashed]⟩

theorem makeAccount_of_not_takes (documented : hasher.Documented reason) (admin : AdminAccount)
    (chance : Chance) (long : ¬ Hasher.Takes (password admin chance)) :
    makeAccount hasher admin chance =
      .error (.ofText s!"Failed to hash admin password: {reason}") := by
  rw [makeAccount, documented.refuses _ chance.salt long]

/-- An account is made, or not made, alike with two passwords if both are hashed or both are too
long. -/
theorem sameAccount_of_takes_iff (documented : hasher.Documented reason) (admin : AdminAccount)
    (given other : Option String) (chance luck : Chance)
    (both : Hasher.Takes (password (admin.withPassword given) chance) ↔
      Hasher.Takes (password (admin.withPassword other) luck)) :
    SameAccount (makeAccount hasher (admin.withPassword given) chance)
      (makeAccount hasher (admin.withPassword other) luck) := by
  by_cases takes : Hasher.Takes (password (admin.withPassword given) chance)
  · obtain ⟨hash, made⟩ := makeAccount_of_takes documented _ chance takes
    obtain ⟨twin, alsoMade⟩ := makeAccount_of_takes documented _ luck (both.1 takes)
    rw [made, alsoMade]
    exact .made _ twin
  · rw [makeAccount_of_not_takes documented _ chance takes,
      makeAccount_of_not_takes documented _ luck fun also => takes (both.2 also)]
    exact .unmade _

/-- What is told about the password by the time that a run has come to a stage. -/
def disclosed (admin : AdminAccount) (chance : Chance) : InitStage → List LogLine
  | .ended result => admin.disclosure chance result
  | _ => []

/-- What is told about an account begins with a line that does not depend on a password. -/
theorem exists_accountLines_eq (admin : AdminAccount) (seeded : Nat) (created : Bool) :
    ∃ line, ∀ password chance,
      accountLines (admin.withPassword password) chance created =
        line :: (admin.withPassword password).disclosure chance
          (.ok (.initialized seeded created)) := by
  cases created with
  | false => exact ⟨.info s!"✓ Admin account '{admin.username}' already exists", fun _ _ => rfl⟩
  | true =>
    refine ⟨.info s!"✓ Admin account '{admin.username}' created", fun password _ => ?_⟩
    cases password <;> rfl

theorem step_agrees (blind : behaviour.Blind alike) (hasher : Hasher) (admin : AdminAccount)
    (given other : Option String) (chance luck : Chance) {stage : InitStage}
    (accounts : ∀ seeded, stage = .creating seeded →
      SameAccount (makeAccount hasher (admin.withPassword given) chance)
        (makeAccount hasher (admin.withPassword other) luck))
    (left : 0 < stage.callsLeft) (same : alike first second) :
    let now := step hasher behaviour (admin.withPassword given) chance stage first
    let also := step hasher behaviour (admin.withPassword other) luck stage second
    now.Agrees alike also ∧ ∃ told,
      now.lines = told ++ disclosed (admin.withPassword given) chance now.stage ∧
      also.lines = told ++ disclosed (admin.withPassword other) luck also.stage := by
  cases stage with
  | migrating =>
    have answers := blind.migrate same
    simp only [step]
    generalize behaviour.answer .migrate first = one at answers ⊢
    generalize behaviour.answer .migrate second = two at answers ⊢
    obtain ⟨failure | _, stores⟩ := answers
    · exact ⟨⟨rfl, stores, .cons .migrate .nil⟩, [_], rfl, rfl⟩
    · exact ⟨⟨rfl, stores, .cons .migrate .nil⟩, [_], rfl, rfl⟩
  | seeding =>
    have answers := blind.seed defaultSettings same
    simp only [step]
    generalize behaviour.answer (.seed defaultSettings) first = one at answers ⊢
    generalize behaviour.answer (.seed defaultSettings) second = two at answers ⊢
    obtain ⟨failure | seeded, stores⟩ := answers
    · exact ⟨⟨rfl, stores, .cons (.seed _) .nil⟩, [_], rfl, rfl⟩
    · exact ⟨⟨rfl, stores, .cons (.seed _) .nil⟩, [_, _], rfl, rfl⟩
  | creating seeded =>
    have made := accounts seeded rfl
    simp only [step]
    generalize makeAccount hasher (admin.withPassword given) chance = own at made ⊢
    generalize makeAccount hasher (admin.withPassword other) luck = others at made ⊢
    cases made with
    | unmade failure => exact ⟨⟨rfl, same, .nil⟩, [_], rfl, rfl⟩
    | made account hash =>
      have answers := blind.create account hash same
      have calls : List.Forall₂ StoreCall.SameButHash [.create account]
          [.create { account with passwordHash := hash }] := .cons (.create account hash) .nil
      dsimp only
      generalize behaviour.answer (.create account) first = one at answers ⊢
      generalize behaviour.answer (.create { account with passwordHash := hash }) second = two
        at answers ⊢
      obtain ⟨failure | created, stores⟩ := answers
      · exact ⟨⟨rfl, stores, calls⟩, [_], rfl, rfl⟩
      · obtain ⟨line, told⟩ := exists_accountLines_eq admin seeded created
        exact ⟨⟨rfl, stores, calls⟩, [_, line], congrArg _ (told given chance),
          congrArg _ (told other luck)⟩
  | ended result => cases left

/-- The course of the calls that are left: its lines are those that do not depend on a password, and
behind them what is told about it. -/
theorem finish_agrees (blind : behaviour.Blind alike) (hasher : Hasher) (admin : AdminAccount)
    (given other : Option String) (chance luck : Chance) {stage : InitStage}
    (accounts : SameAccount (makeAccount hasher (admin.withPassword given) chance)
      (makeAccount hasher (admin.withPassword other) luck))
    (left : 0 < stage.callsLeft) (same : alike first second) :
    let done := finish hasher behaviour (admin.withPassword given) chance stage first
    let also := finish hasher behaviour (admin.withPassword other) luck stage second
    done.Agrees alike also ∧ ∃ told,
      done.lines = told ++ (admin.withPassword given).disclosure chance done.result ∧
      also.lines = told ++ (admin.withPassword other).disclosure luck also.result := by
  induction fewer : stage.callsLeft using Nat.strong_induction_on
    generalizing stage first second with
  | _ calls induction =>
    subst fewer
    have less := callsLeft_step_lt hasher behaviour (admin.withPassword given) chance first left
    obtain ⟨agrees, told, lines, linesAlso⟩ := step_agrees blind hasher admin given other chance luck
      (fun _ _ => accounts) left same
    have own := finish_eq_step ⟨hasher, admin.withPassword given, chance⟩ behaviour stage first
    have others := finish_eq_step ⟨hasher, admin.withPassword other, luck⟩ behaviour stage second
    dsimp only at own others
    rw [own, others]
    generalize step hasher behaviour (admin.withPassword given) chance stage first = now
      at agrees lines less ⊢
    generalize step hasher behaviour (admin.withPassword other) luck stage second = also
      at agrees linesAlso ⊢
    dsimp only
    rw [← agrees.stage] at linesAlso ⊢
    rw [lines, linesAlso]
    have stores := agrees.store
    generalize now.stage = after at less stores ⊢
    by_cases more : 0 < after.callsLeft
    · obtain ⟨later, onward, linesLater, linesAlso⟩ := induction _ less more stores rfl
      have silent : ∀ account chance, disclosed account chance after = [] := by
        cases after with
        | ended result => cases more
        | _ => exact fun _ _ => rfl
      refine ⟨⟨later.result, later.store, List.rel_append agrees.calls later.calls⟩,
        told ++ onward, ?_, ?_⟩
      · rw [silent, linesLater, List.append_nil, List.append_assoc]
      · rw [silent, linesAlso, List.append_nil, List.append_assoc]
    · cases after with
      | ended result =>
        simp only [finish_ended, List.append_nil]
        exact ⟨⟨rfl, stores, agrees.calls⟩, told, rfl, rfl⟩
      | _ => exact absurd (by simp [InitStage.callsLeft]) more

/-- A password that is given is not told. -/
theorem disclosed_withPassword (admin : AdminAccount) (given : String) (chance : Chance)
    (stage : InitStage) : disclosed (admin.withPassword (some given)) chance stage = [] := by
  unfold disclosed AdminAccount.disclosure
  split
  · split <;> rfl
  · rfl

/-- Where the account is asked for, a run without one ends. -/
theorem finish_creating_short (behaviour : StoreBehaviour σ) (hasher : Hasher)
    {admin administrator : AdminAccount} {chance luck : Chance} (seeded : Nat) (first second : σ)
    {account : NewAccount} {failure : Failure}
    (made : makeAccount hasher admin chance = .ok account)
    (unmade : makeAccount hasher administrator luck = .error failure) :
    (finish hasher behaviour administrator luck (.creating seeded) second).Short failure
      (finish hasher behaviour admin chance (.creating seeded) first) := by
  have calls : ∃ other, List.Forall₂ StoreCall.SameButHash [.create account]
      ([] ++ [.create other]) := ⟨account, .cons (.create account account.passwordHash) .nil⟩
  rw [finish, finish]
  simp only [step, made, unmade]
  rcases behaviour.answer (.create account) first with ⟨refusal | created, after⟩
  · simp only [finish_ended]
    exact ⟨rfl, List.prefix_rfl, calls⟩
  · simp only [finish_ended]
    exact ⟨rfl, by simp, calls⟩

/-- The course of the calls that are left with a password that is too long: it is that with another
one, or it ends where that one asks for the account. -/
theorem finish_short (blind : behaviour.Blind alike) (hasher : Hasher) (admin : AdminAccount)
    {given long : String} {chance luck : Chance} {stage : InitStage} {account : NewAccount}
    {failure : Failure}
    (made : makeAccount hasher (admin.withPassword (some given)) chance = .ok account)
    (unmade : makeAccount hasher (admin.withPassword (some long)) luck = .error failure)
    (left : 0 < stage.callsLeft) (same : alike first second) :
    let whole := finish hasher behaviour (admin.withPassword (some given)) chance stage first
    let short := finish hasher behaviour (admin.withPassword (some long)) luck stage second
    whole.Agrees alike short ∧ whole.lines = short.lines ∨ short.Short failure whole := by
  induction fewer : stage.callsLeft using Nat.strong_induction_on
    generalizing stage first second with
  | _ calls induction =>
    subst fewer
    by_cases creating : ∃ seeded, stage = .creating seeded
    · obtain ⟨seeded, rfl⟩ := creating
      exact .inr (finish_creating_short behaviour hasher seeded first second made unmade)
    have less := callsLeft_step_lt hasher behaviour (admin.withPassword (some given)) chance first
      left
    obtain ⟨agrees, told, lines, linesAlso⟩ := step_agrees blind hasher admin (some given)
      (some long) chance luck (fun seeded here => absurd ⟨seeded, here⟩ creating) left same
    have own := finish_eq_step ⟨hasher, admin.withPassword (some given), chance⟩ behaviour stage
      first
    have others := finish_eq_step ⟨hasher, admin.withPassword (some long), luck⟩ behaviour stage
      second
    rw [disclosed_withPassword, List.append_nil] at lines linesAlso
    dsimp only at own others ⊢
    rw [own, others, lines, linesAlso, ← agrees.stage]
    generalize step hasher behaviour (admin.withPassword (some given)) chance stage first = now
      at agrees less ⊢
    generalize step hasher behaviour (admin.withPassword (some long)) luck stage second = also
      at agrees ⊢
    have stores := agrees.store
    generalize now.stage = after at less stores ⊢
    by_cases more : 0 < after.callsLeft
    · rcases induction _ less more stores rfl with ⟨later, linesLater⟩ | short
      · exact .inl ⟨⟨later.result, later.store, List.rel_append agrees.calls later.calls⟩,
          congrArg (told ++ ·) linesLater⟩
      · obtain ⟨asked, calls⟩ := short.calls
        refine .inr ⟨short.result, (List.prefix_append_right_inj told).2 short.lines, asked, ?_⟩
        rw [List.append_assoc]
        exact List.rel_append agrees.calls calls
    · cases after with
      | ended result =>
        simp only [finish_ended, List.append_nil]
        exact .inl ⟨⟨rfl, stores, agrees.calls⟩, trivial⟩
      | _ => exact absurd (by simp [InitStage.callsLeft]) more

end Initializer

/-! ## Whole runs -/

namespace InitRun

/-- Two runs that are the same, up to the hashes that they hand to the store. -/
structure Agrees (alike : σ → σ → Prop) (first second : InitRun σ) : Prop where
  result : first.result = second.result
  finished : first.finished = second.finished
  wait : first.wait = second.wait
  opened : first.opened = second.opened
  calls : List.Forall₂ StoreCall.SameButHash first.calls second.calls
  store : alike first.store second.store

/-- A run that ends with a failure where another one asks for the account. -/
structure Short (failure : Failure) (short whole : InitRun σ) : Prop where
  result : short.result = .error failure
  finished : short.finished = whole.finished
  wait : short.wait = whole.wait
  opened : short.opened = whole.opened
  lines : short.lines <+: whole.lines
  calls : ∃ account, List.Forall₂ StoreCall.SameButHash whole.calls
    (short.calls ++ [.create account])

/-- What a run tells about the password, at its end. -/
def disclosure (run : InitRun σ) (admin : AdminAccount) (chance : Chance) :
    List (Duration × LogLine) :=
  (admin.disclosure chance run.result).map (run.finished, ·)

/-- Whether a run has created the account. -/
def created (run : InitRun σ) : Bool :=
  match run.result with
  | .ok (.initialized _ created) => created
  | _ => false

end InitRun

namespace InitializerSettings

variable {behaviour : StoreBehaviour σ} {store other : σ} {hasher : Hasher} {reason : String}

@[simp]
theorem gate_withPassword (settings : InitializerSettings) (password : Option String) :
    (settings.withPassword password).gate = settings.gate := rfl

@[simp]
theorem database_withPassword (settings : InitializerSettings) (password : Option String) :
    (settings.withPassword password).database = settings.database := rfl

@[simp]
theorem admin_withPassword (settings : InitializerSettings) (password : Option String) :
    (settings.withPassword password).admin = settings.admin.withPassword password := rfl

/-- What is to be hashed in a run. -/
def password (settings : InitializerSettings) (given : Option String) (chance : Chance) : String :=
  Initializer.password (settings.admin.withPassword given) chance

theorem runChecked_agrees (settings : InitializerSettings) (timer : Timer) (connector : Connector)
    (blind : behaviour.Blind alike) (begun : Duration) {first second : Option String}
    {chance luck : Chance}
    (accounts : SameAccount
      (Initializer.makeAccount hasher (settings.admin.withPassword first) chance)
      (Initializer.makeAccount hasher (settings.admin.withPassword second) luck))
    (same : alike store other) :
    let run := (settings.withPassword first).runChecked timer connector hasher behaviour chance store
      begun
    let also := (settings.withPassword second).runChecked timer connector hasher behaviour luck other
      begun
    run.Agrees alike also ∧ ∃ told,
      run.lines = told ++ run.disclosure (settings.admin.withPassword first) chance ∧
      also.lines = told ++ also.disclosure (settings.admin.withPassword second) luck := by
  have answers := blind.connect settings.database same
  simp only [runChecked, gate_withPassword, database_withPassword, admin_withPassword]
  generalize settings.gate.wait timer connector begun = wait
  generalize behaviour.connect settings.database store = one at answers ⊢
  generalize behaviour.connect settings.database other = two at answers ⊢
  obtain ⟨answer, stores⟩ := answers
  rcases wait with ⟨cause | waited, finished, attempts⟩
  · refine ⟨⟨rfl, rfl, rfl, rfl, .nil, same⟩, _, (List.append_nil _).symm, (List.append_nil _).symm⟩
  · cases answer with
    | error failure =>
      exact ⟨⟨rfl, rfl, rfl, rfl, .nil, stores⟩, _, (List.append_nil _).symm,
        (List.append_nil _).symm⟩
    | ok _ =>
      have left : 0 < InitStage.migrating.callsLeft := by decide
      obtain ⟨agrees, told, lines, linesAlso⟩ :=
        Initializer.finish_agrees blind hasher settings.admin first second chance luck accounts left
          stores
      refine ⟨⟨agrees.result, rfl, rfl, rfl, agrees.calls, agrees.store⟩, ?_⟩
      dsimp only [Initializer.prepare]
      rw [lines, linesAlso]
      simp only [List.map_append, ← List.append_assoc]
      exact ⟨_, rfl, rfl⟩

/-- A whole run, if both passwords or neither are accepted for the same account, and both or neither
are too long. -/
theorem run_agrees (settings : InitializerSettings) (timer : Timer) (connector : Connector)
    (documented : hasher.Documented reason) (blind : behaviour.Blind alike) (begun : Duration)
    {first second : Option String} (chance luck : Chance)
    (checks : (settings.admin.withPassword first).check =
      (settings.admin.withPassword second).check)
    (both : Hasher.Takes (settings.password first chance) ↔
      Hasher.Takes (settings.password second luck))
    (same : alike store other) :
    let run := (settings.withPassword first).run timer connector hasher behaviour chance store begun
    let also := (settings.withPassword second).run timer connector hasher behaviour luck other begun
    run.Agrees alike also ∧ ∃ told,
      run.lines = told ++ run.disclosure (settings.admin.withPassword first) chance ∧
      also.lines = told ++ also.disclosure (settings.admin.withPassword second) luck := by
  dsimp only [run]
  by_cases enabled : settings.enabled = true
  · have on (password : Option String) : (settings.withPassword password).enabled = true := enabled
    rw [if_pos (on first), if_pos (on second), admin_withPassword, admin_withPassword, checks]
    cases (settings.admin.withPassword second).check with
    | error failure => exact ⟨⟨rfl, rfl, rfl, rfl, .nil, same⟩, [], rfl, rfl⟩
    | ok _ =>
      exact settings.runChecked_agrees timer connector blind begun
        (Initializer.sameAccount_of_takes_iff documented settings.admin first second chance luck
          both) same
  · have off (password : Option String) : ¬(settings.withPassword password).enabled = true :=
      enabled
    rw [if_neg (off first), if_neg (off second)]
    exact ⟨⟨rfl, rfl, rfl, rfl, .nil, same⟩, [_], rfl, rfl⟩

theorem runChecked_short (settings : InitializerSettings) (timer : Timer) (connector : Connector)
    (blind : behaviour.Blind alike) (begun : Duration) {given long : String} {chance luck : Chance}
    {account : NewAccount} {failure : Failure}
    (made : Initializer.makeAccount hasher (settings.admin.withPassword (some given)) chance =
      .ok account)
    (unmade : Initializer.makeAccount hasher (settings.admin.withPassword (some long)) luck =
      .error failure)
    (same : alike store other) :
    let run := (settings.withPassword (some given)).runChecked timer connector hasher behaviour
      chance store begun
    let also := (settings.withPassword (some long)).runChecked timer connector hasher behaviour luck
      other begun
    run.Agrees alike also ∧ run.lines = also.lines ∨ also.Short failure run := by
  have answers := blind.connect settings.database same
  simp only [runChecked, gate_withPassword, database_withPassword, admin_withPassword]
  generalize settings.gate.wait timer connector begun = wait
  generalize behaviour.connect settings.database store = one at answers ⊢
  generalize behaviour.connect settings.database other = two at answers ⊢
  obtain ⟨answer, stores⟩ := answers
  rcases wait with ⟨cause | waited, finished, attempts⟩
  · exact .inl ⟨⟨rfl, rfl, rfl, rfl, .nil, same⟩, rfl⟩
  · cases answer with
    | error failure => exact .inl ⟨⟨rfl, rfl, rfl, rfl, .nil, stores⟩, rfl⟩
    | ok _ =>
      have left : 0 < InitStage.migrating.callsLeft := by decide
      dsimp only [Initializer.prepare]
      rcases Initializer.finish_short blind hasher settings.admin made unmade left stores with
        ⟨agrees, lines⟩ | short
      · exact .inl ⟨⟨agrees.result, rfl, rfl, rfl, agrees.calls, agrees.store⟩, by rw [lines]⟩
      · exact .inr ⟨short.result, rfl, rfl, rfl,
          (List.prefix_append_right_inj _).2 (short.lines.map _), short.calls⟩

/-- A whole run with a password that is accepted but too long, beside one with a password that is
hashed. -/
theorem run_short (settings : InitializerSettings) (timer : Timer) (connector : Connector)
    (documented : hasher.Documented reason) (blind : behaviour.Blind alike) (begun : Duration)
    {given long : String} (chance luck : Chance)
    (accepted : (settings.admin.withPassword (some given)).check = .ok ())
    (alsoAccepted : (settings.admin.withPassword (some long)).check = .ok ())
    (takes : Hasher.Takes given) (tooLong : ¬ Hasher.Takes long) (same : alike store other) :
    let run := (settings.withPassword (some given)).run timer connector hasher behaviour chance store
      begun
    let also := (settings.withPassword (some long)).run timer connector hasher behaviour luck other
      begun
    run.Agrees alike also ∧ run.lines = also.lines ∨
      also.Short (.ofText s!"Failed to hash admin password: {reason}") run := by
  obtain ⟨hash, made⟩ := Initializer.makeAccount_of_takes documented
    (settings.admin.withPassword (some given)) chance takes
  have unmade := Initializer.makeAccount_of_not_takes documented
    (settings.admin.withPassword (some long)) luck tooLong
  dsimp only [run]
  by_cases enabled : settings.enabled = true
  · have on (password : Option String) : (settings.withPassword password).enabled = true := enabled
    rw [if_pos (on _), if_pos (on _), admin_withPassword, admin_withPassword, accepted,
      alsoAccepted]
    exact settings.runChecked_short timer connector blind begun made unmade same
  · have off (password : Option String) : ¬(settings.withPassword password).enabled = true :=
      enabled
    rw [if_neg (off _), if_neg (off _)]
    exact .inl ⟨⟨rfl, rfl, rfl, rfl, .nil, same⟩, rfl⟩

end InitializerSettings

namespace InitRun

/-- A run whose lines do not depend on a generated password, apart from the one that tells of it
once the account is created. -/
structure Discloses (run : InitRun σ) (silent : List (Duration × LogLine))
    (username password : String) : Prop where
  created : run.created = true →
    run.lines = silent ++ [(run.finished, .disclosing username password)]
  otherwise : run.created = false → run.lines = silent
  /-- Unless the password stands elsewhere by chance, it is told once or never. -/
  once : (∀ line ∈ silent, line.2.mentions password = false) →
    run.lines.countP (·.2.mentions password) = if run.created then 1 else 0

/-- A password that is given is not told. -/
theorem disclosure_of_password (run : InitRun σ) (admin : AdminAccount) (password : String)
    (chance : Chance) : run.disclosure (admin.withPassword (some password)) chance = [] := by
  unfold disclosure AdminAccount.disclosure
  split <;> rfl

theorem result_of_created {run : InitRun σ} (created : run.created = true) :
    ∃ seeded, run.result = .ok (.initialized seeded true) := by
  unfold InitRun.created at created
  split at created
  · rename_i seeded other same
    exact ⟨seeded, created ▸ same⟩
  · cases created

theorem disclosure_of_not_created {run : InitRun σ} {admin : AdminAccount} {chance : Chance}
    (outcome : run.created = false) : run.disclosure admin chance = [] := by
  unfold InitRun.created at outcome
  unfold disclosure AdminAccount.disclosure
  split at outcome
  · rename_i seeded other same
    rw [same, outcome]
    rfl
  · rename_i other
    split
    · rename_i seeded same
      exact absurd same (other seeded true)
    · rfl

theorem discloses_of_lines {run : InitRun σ} {silent : List (Duration × LogLine)}
    {admin : AdminAccount} {chance : Chance}
    (lines : run.lines =
      silent ++ run.disclosure (admin.withPassword none) chance) :
    run.Discloses silent admin.username chance.password := by
  have created : run.created = true →
      run.lines = silent ++ [(run.finished, .disclosing admin.username chance.password)] := by
    intro outcome
    obtain ⟨seeded, same⟩ := result_of_created outcome
    rw [lines, disclosure, same]
    rfl
  have otherwise : run.created = false → run.lines = silent := by
    intro outcome
    rw [lines, disclosure_of_not_created outcome, List.append_nil]
  refine ⟨created, otherwise, fun fresh => ?_⟩
  have none : silent.countP (·.2.mentions chance.password) = 0 := by
    simpa [List.countP_eq_zero] using fresh
  cases outcome : run.created with
  | false => rw [otherwise outcome, none]; rfl
  | true =>
    rw [created outcome, List.countP_append, none]
    simp [LogLine.mentions_disclosing]

end InitRun

namespace InitializerSettings

variable {behaviour : StoreBehaviour σ} {store other : σ} {hasher : Hasher} {reason : String}

end InitializerSettings

/-! ## A store in memory -/

/-- What an account holds apart from the hash of its password. -/
def NewAccount.bare (account : NewAccount) : String × String × String × String :=
  (account.username, account.email, account.firstName, account.lastName)

namespace Store

/-- Two stores in memory that differ in the hashes of their accounts alone. -/
structure SameButHashes (first second : Store) : Prop where
  migrations : first.migrations = second.migrations
  settings : first.settings = second.settings
  accounts : ∀ name, (first.accounts.get? name).map NewAccount.bare =
    (second.accounts.get? name).map NewAccount.bare

theorem SameButHashes.refl (store : Store) : store.SameButHashes store := ⟨rfl, rfl, fun _ => rfl⟩

theorem SameButHashes.contains {first second : Store} (same : first.SameButHashes second)
    (name : String) : first.accounts.contains name = second.accounts.contains name := by
  have found := congrArg Option.isSome (same.accounts name)
  rwa [Option.isSome_map, Option.isSome_map] at found

theorem sameAnswer_create {first second : Store} (same : first.SameButHashes second)
    (account : NewAccount) (hash : PasswordHash) :
    SameAnswer SameButHashes (behaviour.answer (.create account) first)
      (behaviour.answer (.create { account with passwordHash := hash }) second) := by
  let twin : NewAccount := { account with passwordHash := hash }
  have answers : (first.answer (.create account)).1 = (second.answer (.create twin)).1 := by
    rw [fst_answer_create, fst_answer_create, same.contains]
  have kept (store : Store) (account : NewAccount) :
      (store.answer (.create account)).2.migrations = store.migrations := by
    rw [answer]
    split <;> rfl
  have stores :
      SameButHashes (first.answer (.create account)).2 (second.answer (.create twin)).2 := by
    constructor
    · rw [kept, kept, same.migrations]
    · rw [settings_answer_create, settings_answer_create, same.settings]
    · intro name
      rw [get?_answer_create, get?_answer_create, Option.map_or, Option.map_or, same.accounts,
        apply_ite (Option.map NewAccount.bare), apply_ite (Option.map NewAccount.bare)]
      rfl
  change SameAnswer SameButHashes (.ok (first.answer (.create account)).1, _)
    (.ok (second.answer (.create twin)).1, _)
  rw [answers]
  exact .intro _ stores

theorem blind_behaviour : behaviour.Blind SameButHashes where
  connect := fun _ _ _ same => .intro (.ok ()) same
  migrate := fun same =>
    .intro (.ok ()) ⟨congrArg (· + 1) same.migrations, same.settings, same.accounts⟩
  seed := by
    rintro settings ⟨_, present, _⟩ ⟨_, _, _⟩ ⟨migrations, rfl, accounts⟩
    exact .intro (.ok (missing present settings)) ⟨migrations, rfl, accounts⟩
  create := fun account hash _ _ same => sameAnswer_create same account hash

end Store

/-- Settings for a store that refuses connections for two seconds. -/
def furnishing : InitializerSettings :=
  ⟨true, .standard, ⟨"db", 5432, "app", "app", none, .ofSeconds 5⟩, .ofSeconds 60⟩

def furnishing.connector : Connector := fun _ now _ =>
  ⟨.zero, if now < .ofSeconds 2 then some "connection refused" else none⟩

/-- A run on an empty store. -/
def furnishing.run (password : Option String) (chance : Chance) : InitRun Store :=
  (furnishing.withPassword password).run .exact furnishing.connector .argon2id Store.behaviour chance
    (.ofSettings .empty) .zero

/-- What chance contributes to a run without a password. -/
def furnishing.chance : Chance := ⟨"b1946ac92492d2347c6235b4d2611184", []⟩

end Convoy
