import Convoy.Tree

/-!
# Trees as JSON

The layout has one item or field on each line, two spaces deeper than what holds it; what is empty
stays on one line.
-/

namespace Convoy.Tree

/-- Four hexadecimal digits. -/
def fourDigits (code : Nat) : String :=
  let digits := Nat.toDigits 16 code
  String.ofList (List.replicate (4 - digits.length) '0' ++ digits)

/-- One character between the quotes of a JSON text. -/
def jsonChar (character : Char) : String :=
  match character with
  | '"' => "\\\""
  | '\\' => "\\\\"
  | '\x08' => "\\b"
  | '\x0C' => "\\f"
  | '\n' => "\\n"
  | '\r' => "\\r"
  | '\t' => "\\t"
  | _ =>
    if character.toNat < 0x20 then "\\u" ++ fourDigits character.toNat
    else String.singleton character

def jsonText (value : String) : String :=
  "\"" ++ String.join (value.toList.map jsonChar) ++ "\""

/-- The beginning of a line at a depth. -/
def jsonLine (depth : Nat) : String := "\n" ++ String.ofList (List.replicate (2 * depth) ' ')

/-- Written parts between two brackets, each on a line of its own. -/
def jsonBlock (depth : Nat) (opening closing : String) (parts : List String) : String :=
  if parts.isEmpty then opening ++ closing
  else
    opening ++ ",".intercalate (parts.map (jsonLine (depth + 1) ++ ·)) ++ jsonLine depth ++ closing

mutual

/-- A tree at a depth. -/
def jsonAt (depth : Nat) : Tree → String
  | text value => jsonText value
  | number value => toString value
  | boolean value => if value then "true" else "false"
  | list items => jsonBlock depth "[" "]" (jsonItems (depth + 1) items)
  | record fields => jsonBlock depth "\x7b" "\x7d" (jsonFields (depth + 1) fields)

/-- The items of a list at a depth. -/
def jsonItems (depth : Nat) : List Tree → List String
  | [] => []
  | item :: rest => jsonAt depth item :: jsonItems depth rest

/-- The fields of a record at a depth. -/
def jsonFields (depth : Nat) : List (String × Tree) → List String
  | [] => []
  | (name, value) :: rest => (jsonText name ++ ": " ++ jsonAt depth value) :: jsonFields depth rest

end

/-- The JSON text of a tree. -/
def json (tree : Tree) : String := jsonAt 0 tree

end Convoy.Tree
