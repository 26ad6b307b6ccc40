import Convoy.Text.Property

/-!
# Blanks at the ends of a text

Trimming, padding and the tests on the ends of a text that the rest of the library shares. All of
them work on the list of characters, so that their laws are laws about lists.
-/

namespace Convoy.Text

/-- Drops the characters with a property from the end of a list. -/
def dropEndWhile (property : Char → Bool) (characters : List Char) : List Char :=
  (characters.reverse.dropWhile property).reverse

/-- Removes the blanks at both ends of a text. -/
def trim (text : String) : String :=
  String.ofList (dropEndWhile Property.isBlank (text.toList.dropWhile Property.isBlank))

/-- Fills a text with spaces on the right up to a width counted in characters. -/
def padRight (width : Nat) (text : String) : String :=
  text ++ String.ofList (List.replicate (width - text.length) ' ')

/-- Splits a list of characters at every separator; there is always one more part than
separators. -/
def splitChars (separator : Char) : List Char → List (List Char)
  | [] => [[]]
  | character :: rest =>
    if character == separator then [] :: splitChars separator rest
    else
      match splitChars separator rest with
      | [] => [[character]]
      | part :: parts => (character :: part) :: parts

/-- Removes a prefix from a list of characters, if the list starts with it. -/
def stripStart? : List Char → List Char → Option (List Char)
  | [], rest => some rest
  | _ :: _, [] => none
  | expected :: more, character :: rest =>
    if expected == character then stripStart? more rest else none

/-- Cuts a list of characters at the last separator, which belongs to neither part. -/
def splitLast? (separator : Char) : List Char → Option (List Char × List Char)
  | [] => none
  | character :: rest =>
    match splitLast? separator rest with
    | some (before, after) => some (character :: before, after)
    | none => if character == separator then some ([], rest) else none

/-- Cuts a list of characters at the first separator, which belongs to neither part. -/
def splitFirst? (separator : Char) : List Char → Option (List Char × List Char)
  | [] => none
  | character :: rest =>
    if character == separator then some ([], rest)
    else (splitFirst? separator rest).map fun parts => (character :: parts.1, parts.2)

/-- The value of a nonempty run of decimal digits; a leading plus sign is allowed. -/
def unsigned? (characters : List Char) : Option Nat :=
  let digits :=
    match characters with
    | '+' :: rest => rest
    | _ => characters
  if digits.isEmpty || !digits.all Char.isDigit then none
  else some (digits.foldl (fun value digit => value * 10 + (digit.toNat - '0'.toNat)) 0)

end Convoy.Text
