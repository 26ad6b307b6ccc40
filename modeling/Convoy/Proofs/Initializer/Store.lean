import Convoy.Initializer
import Convoy.Proofs.Dictionary

/-!
# What calls do to a store

A call only ever adds: it leaves every setting and every account that it finds. Settings that are
seeded stand behind those that are there, and a store that has them all, and an account of the name
that is asked for, is not changed by a further initialization.
-/

namespace Convoy

/-- Whether each call happens as a whole, as a store in memory has it happen, or fails and happens
not at all. -/
def StoreBehaviour.Atomic (behaviour : StoreBehaviour Store) : Prop :=
  ∀ call store, behaviour.answer call store = Store.behaviour.answer call store ∨
    ∃ failure, behaviour.answer call store = (.error failure, store)

namespace Store

theorem atomic_behaviour : behaviour.Atomic := fun _ _ => .inl rfl

section Seeding

variable {settings : Dictionary String} {setting : String × String}
  {wanted : List (String × String)} {key : String}

theorem get?_seedOne (settings : Dictionary String) (setting : String × String) (key : String) :
    (seedOne settings setting).get? key = (settings.get? key).or ([setting].lookup key) := by
  rcases setting with ⟨name, value⟩
  rw [Dictionary.lookup_cons_ite, List.lookup_nil]
  exact settings.get?_insert_unless_contains name key value

/-- Settings that are put in stand behind those that are there. -/
theorem get?_foldl_seedOne (settings : Dictionary String) (wanted : List (String × String))
    (key : String) :
    (wanted.foldl seedOne settings).get? key = (settings.get? key).or (wanted.lookup key) := by
  induction wanted generalizing settings with
  | nil => exact Option.or_none.symm
  | cons setting rest induction =>
    rw [List.foldl_cons, induction, get?_seedOne, Option.or_assoc, ← List.lookup_append,
      List.singleton_append]

theorem contains_seedOne_of_ne (different : key ≠ setting.1) :
    (seedOne settings setting).contains key = settings.contains key := by
  rcases setting with ⟨name, value⟩
  rw [Dictionary.contains, get?_seedOne, Dictionary.lookup_cons_ite, if_neg different,
    List.lookup_nil, Option.or_none, Dictionary.contains]

/-- Among settings of different names, as many are put in as are missing. -/
theorem missing_eq_countP (settings : Dictionary String)
    (distinct : (wanted.map (·.1)).Nodup) :
    missing settings wanted = wanted.countP fun setting => !settings.contains setting.1 := by
  induction wanted generalizing settings with
  | nil => rfl
  | cons setting rest induction =>
    rw [List.map_cons, List.nodup_cons] at distinct
    have unaffected : ∀ other ∈ rest,
        (!(seedOne settings setting).contains other.1) = true ↔
          (!settings.contains other.1) = true := by
      intro other member
      have different : other.1 ≠ setting.1 := fun equal =>
        distinct.1 (equal ▸ List.mem_map_of_mem member)
      rw [contains_seedOne_of_ne different]
    rw [missing, induction _ distinct.2, List.countP_cons, List.countP_congr unaffected,
      Nat.add_comm]
    cases settings.contains setting.1 <;> rfl

/-- Nothing is put in if nothing is missing. -/
theorem missing_eq_zero (present : ∀ setting ∈ wanted, settings.contains setting.1 = true) :
    missing settings wanted = 0 := by
  induction wanted with
  | nil => rfl
  | cons setting rest induction =>
    obtain ⟨first, others⟩ := List.forall_mem_cons.1 present
    rw [missing, seedOne, if_pos first, if_pos first, induction others]

theorem foldl_seedOne_eq_self
    (present : ∀ setting ∈ wanted, settings.contains setting.1 = true) :
    wanted.foldl seedOne settings = settings := by
  induction wanted with
  | nil => rfl
  | cons setting rest induction =>
    obtain ⟨first, others⟩ := List.forall_mem_cons.1 present
    rw [List.foldl_cons, seedOne, if_pos first, induction others]

end Seeding

section Creation

variable (store : Store) (account : NewAccount) (username : String)

theorem fst_answer_create :
    (store.answer (.create account)).1 = !store.accounts.contains account.username := by
  rw [answer]
  split
  · rename_i present
    rw [present]
    rfl
  · rename_i absent
    simp [absent]

theorem settings_answer_create :
    (store.answer (.create account)).2.settings = store.settings := by
  rw [answer]
  split <;> rfl

/-- A new account is stored unless its name is taken. -/
theorem get?_answer_create :
    (store.answer (.create account)).2.accounts.get? username =
      (store.accounts.get? username).or
        (if username = account.username then some account else none) := by
  rw [← store.accounts.get?_insert_unless_contains, answer]
  split <;> rfl

end Creation

/-- Whether one store has what another one has. -/
structure Keeps (former later : Store) : Prop where
  settings : ∀ key value, former.settings.get? key = some value →
    later.settings.get? key = some value
  accounts : ∀ username account, former.accounts.get? username = some account →
    later.accounts.get? username = some account

namespace Keeps

variable {first second third : Store}

theorem refl (store : Store) : store.Keeps store where
  settings := fun _ _ found => found
  accounts := fun _ _ found => found

theorem trans (early : first.Keeps second) (late : second.Keeps third) : first.Keeps third where
  settings := fun key value found => late.settings key value (early.settings key value found)
  accounts := fun username account found =>
    late.accounts username account (early.accounts username account found)

end Keeps

/-- No call takes away or replaces what is there. -/
theorem keeps_answer (store : Store) (call : StoreCall) : store.Keeps (store.answer call).2 := by
  cases call with
  | migrate => exact ⟨fun _ _ found => found, fun _ _ found => found⟩
  | seed wanted =>
    refine ⟨fun key value found => ?_, fun _ _ found => found⟩
    simp [answer, get?_foldl_seedOne, found]
  | create account =>
    constructor
    · intro key value found
      rwa [settings_answer_create]
    · intro username stored found
      rw [get?_answer_create, found, Option.some_or]

end Store

namespace Initializer

theorem distinct_defaultSettings : (defaultSettings.map (·.1)).Nodup := by decide +kernel

/-- Whether an initialization for a user name has nothing left to do but for the schema. -/
structure Furnished (username : String) (store : Store) : Prop where
  settings : ∀ setting ∈ defaultSettings, store.settings.contains setting.1 = true
  account : store.accounts.contains username = true

namespace Furnished

variable {username : String} {store later : Store}

theorem keeps (furnished : Furnished username store) (kept : store.Keeps later) :
    Furnished username later where
  settings := fun setting member =>
    let ⟨value, found⟩ := Dictionary.contains_iff_exists.1 (furnished.settings setting member)
    Dictionary.contains_iff_exists.2 ⟨value, kept.settings _ value found⟩
  account :=
    let ⟨account, found⟩ := Dictionary.contains_iff_exists.1 furnished.account
    Dictionary.contains_iff_exists.2 ⟨account, kept.accounts _ account found⟩

/-- A further seeding puts in nothing. -/
theorem answer_seed (furnished : Furnished username store) :
    store.answer (.seed defaultSettings) = (0, store) := by
  rw [Store.answer, Store.missing_eq_zero furnished.settings,
    Store.foldl_seedOne_eq_self furnished.settings]

/-- A further account of that name is not created. -/
theorem answer_create (furnished : Furnished username store) {account : NewAccount}
    (named : account.username = username) :
    store.answer (.create account) = (false, store) := by
  rw [Store.answer, named, if_pos furnished.account]

end Furnished

end Initializer

end Convoy
