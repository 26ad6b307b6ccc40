import Convoy.Text.Blank

/-!
# Durations

A duration is a whole number of nanoseconds. It has three written forms: the human form lists every
unit that occurs (`1m 30s`), the short form gives one number in the largest unit that fits (`1.5s`),
and the tenths form gives seconds with one decimal. A reader of durations accepts what the human
form writes, and more unit names.
-/

namespace Convoy

/-- A span of time, in nanoseconds. -/
structure Duration where
  nanos : Nat
  deriving DecidableEq, Repr, Inhabited

namespace Duration

def zero : Duration := ⟨0⟩

def ofSeconds (seconds : Nat) : Duration := ⟨seconds * 1000000000⟩

def ofMillis (millis : Nat) : Duration := ⟨millis * 1000000⟩

/-- Whole seconds. -/
def seconds (duration : Duration) : Nat := duration.nanos / 1000000000

/-- Nanoseconds past the last whole second. -/
def subsecond (duration : Duration) : Nat := duration.nanos % 1000000000

/-- Whole milliseconds. -/
def millis (duration : Duration) : Nat := duration.nanos / 1000000

instance : Add Duration := ⟨fun first second => ⟨first.nanos + second.nanos⟩⟩

/-- Subtraction stops at zero. -/
instance : Sub Duration := ⟨fun first second => ⟨first.nanos - second.nanos⟩⟩

instance : LE Duration := ⟨fun first second => first.nanos ≤ second.nanos⟩

instance : LT Duration := ⟨fun first second => first.nanos < second.nanos⟩

instance (first second : Duration) : Decidable (first ≤ second) :=
  inferInstanceAs (Decidable (first.nanos ≤ second.nanos))

instance (first second : Duration) : Decidable (first < second) :=
  inferInstanceAs (Decidable (first.nanos < second.nanos))

instance : Min Duration := ⟨fun first second => ⟨min first.nanos second.nanos⟩⟩

instance : Max Duration := ⟨fun first second => ⟨max first.nanos second.nanos⟩⟩

/-- A duration repeated a number of times. -/
def scale (duration : Duration) (count : Nat) : Duration := ⟨duration.nanos * count⟩

@[simp]
theorem nanos_add (first second : Duration) :
    (first + second).nanos = first.nanos + second.nanos := rfl

@[simp]
theorem nanos_sub (first second : Duration) :
    (first - second).nanos = first.nanos - second.nanos := rfl

@[simp]
theorem nanos_min (first second : Duration) :
    (min first second).nanos = min first.nanos second.nanos := rfl

@[simp]
theorem nanos_max (first second : Duration) :
    (max first second).nanos = max first.nanos second.nanos := rfl

theorem le_iff (first second : Duration) : first ≤ second ↔ first.nanos ≤ second.nanos := Iff.rfl

theorem lt_iff (first second : Duration) : first < second ↔ first.nanos < second.nanos := Iff.rfl

/-- One unit of the human form; a unit that does not occur is left out. -/
def humanPart (value : Nat) (unit : String) (plural : Bool) : List String :=
  if value == 0 then []
  else [toString value ++ unit ++ (if plural && value != 1 then "s" else "")]

/-- Every unit from years to nanoseconds that occurs, largest first. A year has 365.25 days and a
month a twelfth of it, rounded to 30.44 days. -/
def human (duration : Duration) : String :=
  let seconds := duration.seconds
  let inYear := seconds % 31557600
  let inMonth := inYear % 2630016
  let inDay := inMonth % 86400
  let parts :=
    humanPart (seconds / 31557600) "year" true ++ humanPart (inYear / 2630016) "month" true ++
    humanPart (inMonth / 86400) "day" true ++ humanPart (inDay / 3600) "h" false ++
    humanPart (inDay % 3600 / 60) "m" false ++ humanPart (inDay % 60) "s" false ++
    humanPart (duration.subsecond / 1000000) "ms" false ++
    humanPart (duration.subsecond / 1000 % 1000) "us" false ++
    humanPart (duration.subsecond % 1000) "ns" false
  if parts.isEmpty then "0s" else " ".intercalate parts

/-- Decimal places of a fraction `part / 10 ^ places`, without trailing zeros. -/
def decimals (places part : Nat) : String :=
  let digits := Nat.toDigits 10 part
  let padded := List.replicate (places - digits.length) '0' ++ digits
  let kept := Text.dropEndWhile (· == '0') padded
  if kept.isEmpty then "" else "." ++ String.ofList kept

/-- One number in the largest unit that the duration reaches, with every decimal it needs. -/
def short (duration : Duration) : String :=
  let nanos := duration.nanos
  if 1000000000 ≤ nanos then
    toString (nanos / 1000000000) ++ decimals 9 (nanos % 1000000000) ++ "s"
  else if 1000000 ≤ nanos then toString (nanos / 1000000) ++ decimals 6 (nanos % 1000000) ++ "ms"
  else if 1000 ≤ nanos then toString (nanos / 1000) ++ decimals 3 (nanos % 1000) ++ "µs"
  else toString nanos ++ "ns"

/-- Rounds `numerator / denominator` to a whole number, a half to the even neighbour. -/
def roundHalfEven (numerator denominator : Nat) : Nat :=
  let quotient := numerator / denominator
  let twice := 2 * (numerator % denominator)
  if twice < denominator then quotient
  else if denominator < twice then quotient + 1
  else quotient + quotient % 2

/-- Seconds with one decimal, rounded from the double-precision number of seconds. -/
def tenths (duration : Duration) : String :=
  let value := Float.ofNat duration.seconds + Float.ofNat duration.subsecond / 1000000000
  let bits := value.toBits.toNat
  let exponent := bits / 0x10000000000000 % 0x800
  let fraction := bits % 0x10000000000000
  let mantissa := if exponent == 0 then fraction else fraction + 0x10000000000000
  let power := max exponent 1
  let rounded :=
    if 1075 ≤ power then 10 * mantissa * Nat.pow 2 (power - 1075)
    else roundHalfEven (10 * mantissa) (Nat.pow 2 (1075 - power))
  toString (rounded / 10) ++ "." ++ toString (rounded % 10)

/-- Why a text is no duration. -/
inductive ReadError where
  | empty
  | numberExpected
  | overflow
  | unexpected (character : Char)
  | unknownUnit (name : String)
  deriving DecidableEq, Repr

/-- The length of a named unit in nanoseconds. -/
def unitNanos? (name : String) : Option Nat :=
  if ["nanos", "nsec", "ns"].contains name then some 1
  else if ["usec", "us", "µs"].contains name then some 1000
  else if ["millis", "msec", "ms"].contains name then some 1000000
  else (· * 1000000000) <$>
    if ["seconds", "second", "secs", "sec", "s"].contains name then some 1
    else if ["minutes", "minute", "min", "mins", "m"].contains name then some 60
    else if ["hours", "hour", "hrs", "hr", "h"].contains name then some 3600
    else if ["days", "day", "d"].contains name then some 86400
    else if ["weeks", "week", "wks", "wk", "w"].contains name then some 604800
    else if ["months", "month", "M"].contains name then some 2630016
    else if ["years", "year", "yrs", "yr", "y"].contains name then some 31557600
    else none

/-- What a reader of durations has seen of the current item. -/
inductive ReadState where
  /-- Between items. -/
  | between
  /-- In the digits of a number; after a point, also the power of ten that divides it. -/
  | number (whole : Nat) (fraction : Option (Nat × Nat))
  /-- In the letters of a unit, which are kept in reverse. -/
  | unit (whole : Nat) (fraction : Option (Nat × Nat)) (name : List Char)

/-- The nanoseconds of a finished item. -/
def itemNanos (whole : Nat) (fraction : Option (Nat × Nat)) (name : List Char) :
    Except ReadError Nat :=
  let unit := String.ofList name.reverse
  match unitNanos? unit with
  | none => .error (.unknownUnit unit)
  | some nanos =>
    match fraction with
    | none => .ok (whole * nanos)
    | some (numerator, denominator) => .ok (whole * nanos + numerator * nanos / denominator)

/-- Whether a character may stand in the name of a unit. -/
def isUnitLetter (character : Char) : Bool := character.isAlpha || character == 'µ'

/-- The largest number an item may have. -/
def itemLimit : Nat := 0x10000000000000000

/-- Reads items from the state of the current one, adding up their lengths. -/
def readFrom (total : Nat) : ReadState → List Char → Except ReadError Nat
  | .between, [] => .ok total
  | .number _ _, [] => .error (.unknownUnit "")
  | .unit whole fraction name, [] => (total + ·) <$> itemNanos whole fraction name
  | .between, character :: rest =>
    if character.isDigit then readFrom total (.number (character.toNat - '0'.toNat) none) rest
    else if Text.Property.isBlank character then readFrom total .between rest
    else .error .numberExpected
  | .number whole fraction, character :: rest =>
    if character.isDigit then
      let digit := character.toNat - '0'.toNat
      match fraction with
      | none =>
        if whole * 10 + digit < itemLimit then readFrom total (.number (whole * 10 + digit) none) rest
        else .error .overflow
      | some (numerator, denominator) =>
        if denominator * 10 < itemLimit then
          readFrom total (.number whole (some (numerator * 10 + digit, denominator * 10))) rest
        else .error .overflow
    else if Text.Property.isBlank character then readFrom total (.number whole fraction) rest
    else if character == '.' && fraction.isNone then readFrom total (.number whole (some (0, 1))) rest
    else if isUnitLetter character && fraction != some (0, 1) then
      readFrom total (.unit whole fraction [character]) rest
    else .error (.unexpected character)
  | .unit whole fraction name, character :: rest =>
    if isUnitLetter character then readFrom total (.unit whole fraction (character :: name)) rest
    else if character.isDigit then do
      let nanos ← itemNanos whole fraction name
      readFrom (total + nanos) (.number (character.toNat - '0'.toNat) none) rest
    else if Text.Property.isBlank character then do
      let nanos ← itemNanos whole fraction name
      readFrom (total + nanos) .between rest
    else .error (.unexpected character)

/-- Reads a duration written as numbers with units, such as `1h 30m`; a bare `0` needs no unit. -/
def read (text : String) : Except ReadError Duration :=
  if text == "0" then .ok zero
  else if text.toList.all Text.Property.isBlank then .error .empty
  else do
    let nanos ← readFrom 0 .between text.toList
    if nanos < itemLimit * 1000000000 then .ok ⟨nanos⟩ else .error .overflow

/-! ## What can be represented

A duration is kept with 64 bits for its whole seconds, an instant with 63 bits. An instant is given
by the time that has passed since the clock began to count. -/

/-- Whether the whole seconds of a duration have no more than 64 bits. -/
def Fits (duration : Duration) : Prop := duration.nanos < itemLimit * 1000000000

instance (duration : Duration) : Decidable duration.Fits :=
  inferInstanceAs (Decidable (duration.nanos < itemLimit * 1000000000))

/-- The seconds at which the clock is at its end. -/
def clockLimit : Nat := 0x8000000000000000

/-- Whether the clock gets that far. -/
def IsInstant (instant : Duration) : Prop := instant.nanos < clockLimit * 1000000000

instance (instant : Duration) : Decidable instant.IsInstant :=
  inferInstanceAs (Decidable (instant.nanos < clockLimit * 1000000000))

end Duration

end Convoy
