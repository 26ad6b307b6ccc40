import Convoy.Initializer
import Convoy.Text.Quoted

/-!
# Settings without their secrets

How the settings of an initializer are shown where people read along: passwords are told apart only
by whether there is one.
-/

namespace Convoy

/-- A record as a reader sees it: its name and its fields. -/
def Text.shownRecord (name : String) (fields : List (String × String)) : String :=
  let shown := fields.map fun field => field.1 ++ ": " ++ field.2
  name ++ " \x7b " ++ ", ".intercalate shown ++ " \x7d"

/-- A password that is not shown. -/
def Text.shownPassword (password : Option String) : String :=
  match password with
  | none => "None"
  | some _ => "Some(" ++ Text.quote "<redacted>" ++ ")"

namespace AdminAccount

def redacted (admin : AdminAccount) : String :=
  Text.shownRecord "AdminAccount"
    [("username", Text.quote admin.username), ("email", Text.quote admin.email),
      ("first_name", Text.quote admin.firstName), ("last_name", Text.quote admin.lastName),
      ("password", Text.shownPassword admin.password)]

end AdminAccount

namespace DatabaseSettings

def redacted (database : DatabaseSettings) : String :=
  Text.shownRecord "DatabaseConfig"
    [("host", Text.quote database.host), ("port", toString database.port.toNat),
      ("name", Text.quote database.name), ("user", Text.quote database.user),
      ("password", Text.shownPassword database.password),
      ("connection_timeout", database.connectionTimeout.short)]

end DatabaseSettings

namespace InitializerSettings

def redacted (settings : InitializerSettings) : String :=
  Text.shownRecord "InitializerConfig"
    [("initialize", toString settings.enabled), ("admin", settings.admin.redacted),
      ("database", settings.database.redacted),
      ("readiness_timeout", settings.readinessTimeout.short)]

end InitializerSettings

end Convoy
