import Convoy.Dictionary
import Convoy.Error
import Convoy.Password

/-!
# The store of an initializer

An initializer asks three things of a store: to bring its schema up to date, to put in settings that
are missing, and to create an account unless its name is taken. A call happens as a whole or not at
all, and none changes what is there already.
-/

namespace Convoy

/-- An account that is ready to be stored. -/
structure NewAccount where
  username : String
  email : String
  firstName : String
  lastName : String
  passwordHash : PasswordHash

/-- What an initializer asks of a store. -/
inductive StoreCall where
  | migrate
  | seed (settings : List (String × String))
  | create (account : NewAccount)

namespace StoreCall

/-- What comes back if a call succeeds: for settings how many were missing, for an account whether
it was created. -/
abbrev Answer : StoreCall → Type
  | migrate => Unit
  | seed _ => Nat
  | create _ => Bool

end StoreCall

/-- How to get at a database. -/
structure DatabaseSettings where
  host : String
  port : UInt16
  name : String
  user : String
  password : Option String
  connectionTimeout : Duration
  deriving DecidableEq

/-- How a store behaves: whether it can be opened, and how it answers calls. -/
structure StoreBehaviour (σ : Type) where
  connect : DatabaseSettings → σ → Except Failure Unit × σ
  answer : (call : StoreCall) → σ → Except Failure call.Answer × σ

/-- A store that keeps everything in memory. -/
structure Store where
  /-- How often the schema was brought up to date. -/
  migrations : Nat
  settings : Dictionary String
  accounts : Dictionary NewAccount

namespace Store

def ofSettings (settings : Dictionary String) : Store := ⟨0, settings, .empty⟩

/-- Puts in a setting unless there is one of that name. -/
def seedOne (settings : Dictionary String) (setting : String × String) : Dictionary String :=
  if settings.contains setting.1 then settings else settings.insert setting.1 setting.2

/-- How many of some settings are missing. -/
def missing (settings : Dictionary String) : List (String × String) → Nat
  | [] => 0
  | setting :: rest =>
    (if settings.contains setting.1 then 0 else 1) + missing (seedOne settings setting) rest

/-- The answer to a call, and the store after it. -/
def answer (store : Store) : (call : StoreCall) → call.Answer × Store
  | .migrate => ((), { store with migrations := store.migrations + 1 })
  | .seed settings =>
    (missing store.settings settings,
      { store with settings := settings.foldl seedOne store.settings })
  | .create account =>
    if store.accounts.contains account.username then (false, store)
    else (true, { store with accounts := store.accounts.insert account.username account })

/-- A store that never fails. -/
def behaviour : StoreBehaviour Store where
  connect := fun _ store => (.ok (), store)
  answer := fun call store =>
    let (answer, after) := store.answer call
    (.ok answer, after)

end Store

end Convoy
