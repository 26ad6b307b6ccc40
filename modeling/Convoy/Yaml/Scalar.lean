import Convoy.Text.Blank

/-!
# What an untagged plain scalar stands for

The core schema tells null, booleans, integers and numbers from texts by how they are written. A run
of digits with a leading zero is a text.
-/

namespace Convoy.Yaml

/-- What a scalar stands for. -/
inductive Value where
  | null
  | boolean (value : Bool)
  | integer (value : Int)
  | number
  | text (value : String)
  deriving DecidableEq

namespace Scalar

def isNull (text : String) : Bool := ["null", "Null", "NULL", "~"].contains text

def boolean? (text : String) : Option Bool :=
  if ["true", "True", "TRUE"].contains text then some true
  else if ["false", "False", "FALSE"].contains text then some false
  else none

/-- The value of a digit in bases up to sixteen. -/
def digitValue (character : Char) : Nat :=
  if character.isDigit then character.toNat - '0'.toNat
  else if 'a' ≤ character && character ≤ 'f' then character.toNat - 'a'.toNat + 10
  else if 'A' ≤ character && character ≤ 'F' then character.toNat - 'A'.toNat + 10
  else 16

/-- The number that some digits spell in a base. -/
def digits? (base : Nat) (digits : List Char) : Option Nat :=
  if digits.isEmpty || !digits.all (digitValue · < base) then none
  else some (digits.foldl (fun value digit => value * base + digitValue digit) 0)

/-- Removes one leading plus sign. -/
def dropPlus : List Char → List Char
  | '+' :: rest => rest
  | characters => characters

/-- Digits with a leading zero, which spell no number. -/
def isPaddedDigits (characters : List Char) : Bool :=
  let digits :=
    match characters with
    | '-' :: rest => rest
    | '+' :: rest => rest
    | _ => characters
  match digits with
  | '0' :: second :: rest => (second :: rest).all Char.isDigit
  | _ => false

/-- Reads digits behind the mark of their base. -/
def based? : List Char → Option Nat
  | '0' :: 'x' :: rest => digits? 16 rest
  | '0' :: 'o' :: rest => digits? 8 rest
  | '0' :: 'b' :: rest => digits? 2 rest
  | _ => none

/-- An integer that is not negative: with a base or decimal, perhaps with a plus sign. -/
def natural? (characters : List Char) : Option Nat :=
  let unsigned := dropPlus characters
  match based? unsigned with
  | some value => some value
  | none => if isPaddedDigits characters then none else digits? 10 unsigned

/-- A negative integer. -/
def negative? : List Char → Option Nat
  | '-' :: rest =>
    match based? rest with
    | some value => some value
    | none => if isPaddedDigits rest then none else digits? 10 rest
  | _ => none

/-- An integer of at most 128 bits. -/
def integer? (text : String) : Option Int :=
  match natural? text.toList with
  | some value => if value < 0x100000000000000000000000000000000 then some value else none
  | none =>
    match negative? text.toList with
    | some value =>
      if value ≤ 0x80000000000000000000000000000000 then some (-(value : Int)) else none
    | none => none

/-- Whether the number `mantissa * 10 ^ (plus - minus)` rounds to a finite double-precision
number. -/
def isFinite (mantissa plus minus : Nat) : Bool :=
  if mantissa == 0 then true
  else
    let length := (Nat.toDigits 10 mantissa).length
    if 400 + minus < length + plus then false
    else if length + plus < minus then true
    else mantissa * Nat.pow 10 plus < (Nat.pow 2 1024 - Nat.pow 2 970) * Nat.pow 10 minus

/-- Reads the exponent at the end of a number. -/
def exponent? : List Char → Option (Nat × Nat)
  | [] => some (0, 0)
  | mark :: rest =>
    if mark == 'e' || mark == 'E' then
      match rest with
      | '-' :: digits => (digits? 10 digits).map fun value => (0, value)
      | '+' :: digits => (digits? 10 digits).map fun value => (value, 0)
      | digits => (digits? 10 digits).map fun value => (value, 0)
    else none

/-- Whether decimal digits, with a point and an exponent if need be, spell a finite number. -/
def isDecimal (characters : List Char) : Bool :=
  let whole := characters.takeWhile Char.isDigit
  let behind := characters.dropWhile Char.isDigit
  let (fraction, tail) :=
    match behind with
    | '.' :: rest => (rest.takeWhile Char.isDigit, rest.dropWhile Char.isDigit)
    | _ => ([], behind)
  match digits? 10 (whole ++ fraction), exponent? tail with
  | some mantissa, some (plus, minus) => isFinite mantissa plus (minus + fraction.length)
  | _, _ => false

/-- Whether a text spells a number that need not be whole. -/
def isNumber (text : String) : Bool :=
  [".inf", ".Inf", ".INF", "+.inf", "+.Inf", "+.INF", "-.inf", "-.Inf", "-.INF",
    ".nan", ".NaN", ".NAN"].contains text ||
    match text.toList with
    | '+' :: rest => isDecimal rest
    | '-' :: rest => isDecimal rest
    | characters => isDecimal characters

/-- What an untagged plain scalar stands for. -/
def resolve (text : String) : Value :=
  if text.isEmpty || isNull text then .null
  else
    match boolean? text with
    | some value => .boolean value
    | none =>
      match integer? text with
      | some value => .integer value
      | none =>
        if !isPaddedDigits text.toList && isNumber text then .number else .text text

end Scalar

end Convoy.Yaml
