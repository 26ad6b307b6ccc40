import Convoy.Text.Property

/-!
# Quoted characters and texts

How a character or a text is shown between quotes: visible characters stand for themselves, the
usual line and tab characters have a short escape, and everything a reader could not see or could
not tell from its neighbour is written as its code point in braces.
-/

namespace Convoy.Text

open Property

/-- The hexadecimal digits of a number, in lower case and without leading zeros. -/
def hexadecimal (number : Nat) : String :=
  String.ofList (Nat.toDigits 16 number)

/-- One character inside quotes, where `quote` is the mark that closes them. -/
def escapeChar (quote character : Char) : String :=
  match character with
  | '\x00' => "\\0"
  | '\t' => "\\t"
  | '\r' => "\\r"
  | '\n' => "\\n"
  | '\\' => "\\\\"
  | _ =>
    if character == quote then String.ofList ['\\', character]
    else if isExtender character || !isPrintable character then
      "\\u\x7b" ++ hexadecimal character.toNat ++ "\x7d"
    else String.singleton character

/-- A character between single quotes. -/
def quoteChar (character : Char) : String :=
  "'" ++ escapeChar '\'' character ++ "'"

/-- A text between double quotes. -/
def quote (text : String) : String :=
  "\"" ++ String.join (text.toList.map (escapeChar '"')) ++ "\""

/-- A bracketed list of quoted characters. -/
def quoteChars (characters : List Char) : String :=
  "[" ++ ", ".intercalate (characters.map quoteChar) ++ "]"

end Convoy.Text
