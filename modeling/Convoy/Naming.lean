import Convoy.Error
import Convoy.Text.Blank
import Convoy.Text.Case

/-!
# Rules for written values

Names of services and variables, passwords, numbers within limits and yes-or-no words. Each check
says why it refuses a value.
-/

namespace Convoy

namespace Naming

/-- The longest label of a host name, in bytes. -/
def labelLimit : Nat := 63

def isServiceChar (character : Char) : Bool :=
  character.isLower || character.isDigit || character == '-' || character == '_'

/-- A service name serves as a host name and as the start of a volume name. -/
def serviceName (name : String) : Except ValueError Unit :=
  match name.toList with
  | [] => .error .empty
  | first :: rest =>
    if labelLimit < name.utf8ByteSize then .error (.tooLong name.utf8ByteSize labelLimit)
    else if !first.isLower then .error (.noLowercaseStart first)
    else
      match (first :: rest).filter (!isServiceChar ·) with
      | [] => .ok ()
      | invalid => .error (.invalidCharacters invalid "a-z, 0-9, -, _")

def isVariableChar (character : Char) : Bool :=
  character.isAlphanum || character == '_'

/-- The name of an environment variable has letters, digits and underscores, a digit not first. -/
def variableName (name : String) : Except ValueError Unit :=
  match name.toList with
  | [] => .error .empty
  | first :: rest =>
    if !first.isAlpha && first != '_' then .error (.noLetterStart first)
    else
      match (first :: rest).find? (!isVariableChar ·) with
      | some invalid => .error (.invalidCharacter invalid)
      | none => .ok ()

/-- A password may hold anything, but blanks at its ends are taken for a mistake. -/
def password (value : String) : Except ValueError Unit :=
  if value.isEmpty then .error .empty
  else if value != Text.trim value then .error .blankEnds
  else .ok ()

/-- A number must lie between two limits, both of which are allowed. -/
def within (least greatest value : Nat) : Except ValueError Unit :=
  if value < least || greatest < value then .error (.outOfRange value least greatest)
  else .ok ()

/-- A yes-or-no word; letter case and blanks around it do not matter. -/
def flag (text : String) : Except ValueError Bool :=
  let word := Text.lower (Text.trim text)
  if ["1", "true", "yes", "on"].contains word then .ok true
  else if ["", "0", "false", "no", "off"].contains word then .ok false
  else .error (.noFlag word)

end Naming

end Convoy
