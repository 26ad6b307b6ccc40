import Convoy.Naming

/-!
# The first account

The account of the administrator, and the checks on it that come before anything touches the store.
-/

namespace Convoy

/-- The administrator that is created on the first run. -/
structure AdminAccount where
  username : String
  email : String
  firstName : String
  lastName : String
  /-- Without a password one is generated. -/
  password : Option String
  deriving DecidableEq

namespace AdminAccount

/-- The longest user name and the longest display name, in characters. -/
def nameLimit : Nat := 150

/-- The longest mail address, in bytes. -/
def emailLimit : Nat := 254

/-- The shortest password, in characters. -/
def passwordLimit : Nat := 8

def standard : AdminAccount where
  username := "admin"
  email := "admin@defectdojo.local"
  firstName := "Admin"
  lastName := "User"
  password := none

def isUsernameChar (character : Char) : Bool :=
  character.isAlphanum || ['@', '.', '+', '-', '_'].contains character

/-- Checks a user name: not empty, not too long, and only characters that are allowed. -/
def checkUsername (username : String) : Except ValueError Unit :=
  if username.isEmpty then .error .empty
  else if nameLimit < username.length then .error (.tooLong username.length nameLimit)
  else
    match username.toList.filter (!isUsernameChar ·) with
    | [] => .ok ()
    | invalid => .error (.invalidCharacters invalid "a-z, A-Z, 0-9, @, ., +, -, _")

/-- Whether a domain has a dot, but not at an end. -/
def isDomain (domain : List Char) : Bool :=
  domain.contains '.' && domain.head? != some '.' && domain.getLast? != some '.'

/-- Checks the shape of a mail address: one `@` between a local part and a domain with a dot. -/
def checkEmail (email : String) : Except ValueError Unit :=
  if email.isEmpty then .error .empty
  else if emailLimit < email.utf8ByteSize then .error (.tooLong email.utf8ByteSize emailLimit)
  else if email.toList.any Text.Property.isBlank then .error .blankInside
  else
    match Text.splitFirst? '@' email.toList with
    | none => .error (.noAtSign email)
    | some (start, domain) =>
      if start.isEmpty || domain.contains '@' then .error (.malformed email)
      else if !isDomain domain then .error (.invalidDomain (String.ofList domain))
      else .ok ()

/-- Checks a password of the administrator, which must not be short. -/
def checkPassword (password : String) : Except ValueError Unit := do
  Naming.password password
  if password.length < passwordLimit then throw (.tooShort passwordLimit)

/-- Checks a name that is shown to people; it may be empty. -/
def checkDisplayName (name : String) : Except ValueError Unit :=
  if nameLimit < name.length then .error (.tooLong name.length nameLimit)
  else if name.toList.any Text.Property.isControl then .error .controlInside
  else .ok ()

/-- A refusal with the field and the variable that it is about. -/
def refuse (variableName field : String) (outcome : Except ValueError Unit) : Except Failure Unit :=
  outcome.mapError fun error =>
    (Failure.ofCause (.value field error)).within s!"Invalid {variableName}"

/-- Checks an account; the first field that is refused decides. -/
def check (admin : AdminAccount) : Except Failure Unit := do
  refuse "DD_ADMIN_USER" "admin username" (checkUsername admin.username)
  refuse "DD_ADMIN_MAIL" "admin email" (checkEmail admin.email)
  refuse "DD_ADMIN_FIRST_NAME" "admin first name" (checkDisplayName admin.firstName)
  refuse "DD_ADMIN_LAST_NAME" "admin last name" (checkDisplayName admin.lastName)
  match admin.password with
  | some password => refuse "DD_ADMIN_PASSWORD" "admin password" (checkPassword password)
  | none => return

end AdminAccount

end Convoy
