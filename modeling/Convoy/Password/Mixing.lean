/-!
# Mixing words

Sixteen words of 64 bits in a square of four rows, and the round that mixes them: first the columns
of the square, then its diagonals.
-/

namespace Convoy.Password

/-- Four words. -/
structure Row where
  first : UInt64
  second : UInt64
  third : UInt64
  fourth : UInt64

namespace Row

def zero : Row := ⟨0, 0, 0, 0⟩

@[inline]
def zip (combine : UInt64 → UInt64 → UInt64) (left right : Row) : Row :=
  ⟨combine left.first right.first, combine left.second right.second,
    combine left.third right.third, combine left.fourth right.fourth⟩

/-- Moves the words to the front by one place. -/
@[inline]
def rotate (row : Row) : Row := ⟨row.second, row.third, row.fourth, row.first⟩

end Row

/-- Four rows. -/
structure Square where
  a : Row
  b : Row
  c : Row
  d : Row

/-- The exclusive sum of two words, turned to the right. -/
@[inline]
def turn (amount left right : UInt64) : UInt64 :=
  let word := left ^^^ right
  (word >>> amount) ||| (word <<< (64 - amount))

namespace Square

/-- Mixes the four columns; two rows of words may be fed in. -/
@[inline]
def mixColumns (sum : UInt64 → UInt64 → UInt64) (early late : Row) (square : Square) : Square :=
  let a := ((square.a.zip sum square.b).zip (· + ·) early)
  let d := square.d.zip (turn 32) a
  let c := square.c.zip sum d
  let b := square.b.zip (turn 24) c
  let a := ((a.zip sum b).zip (· + ·) late)
  let d := d.zip (turn 16) a
  let c := c.zip sum d
  let b := b.zip (turn 63) c
  ⟨a, b, c, d⟩

/-- Turns diagonals into columns. -/
@[inline]
def skew (square : Square) : Square :=
  ⟨square.a, square.b.rotate, square.c.rotate.rotate, square.d.rotate.rotate.rotate⟩

/-- Turns columns back into diagonals. -/
@[inline]
def unskew (square : Square) : Square :=
  ⟨square.a, square.b.rotate.rotate.rotate, square.c.rotate.rotate, square.d.rotate⟩

end Square

/-- The least significant byte first: the bytes of a number. -/
def littleEndian (count number : Nat) : List UInt8 :=
  match count with
  | 0 => []
  | count + 1 => UInt8.ofNat (number % 256) :: littleEndian count (number / 256)

/-- The number whose bytes are given, the least significant first. -/
def ofLittleEndian : List UInt8 → Nat
  | [] => 0
  | byte :: rest => byte.toNat + 256 * ofLittleEndian rest

/-- A number of words from the front of some bytes; missing bytes are zero. -/
def wordsOf : Nat → List UInt8 → List UInt64
  | 0, _ => []
  | count + 1, bytes =>
    UInt64.ofNat (ofLittleEndian (bytes.take 8)) :: wordsOf count (bytes.drop 8)

def bytesOf (words : List UInt64) : List UInt8 :=
  words.flatMap fun word => littleEndian 8 word.toNat

end Convoy.Password
