import Convoy.Password.Mixing

/-!
# The hash Blake2b

A hash of up to 64 bytes of a message of any length, without a key.
-/

namespace Convoy.Password.Blake2b

/-- The first 64 bits of the fractional parts of the square roots of the first eight primes. -/
def upper : Row :=
  ⟨0x6a09e667f3bcc908, 0xbb67ae8584caa73b, 0x3c6ef372fe94f82b, 0xa54ff53a5f1d36f1⟩

def lower : Row :=
  ⟨0x510e527fade682d1, 0x9b05688c2b3e6c1f, 0x1f83d9abfb41bd6b, 0x5be0cd19137e2179⟩

/-- The order in which each round takes the words of a block. -/
def schedule : List (List Nat) :=
  [[0, 1, 2, 3, 4, 5, 6, 7, 8, 9, 10, 11, 12, 13, 14, 15],
   [14, 10, 4, 8, 9, 15, 13, 6, 1, 12, 0, 2, 11, 7, 5, 3],
   [11, 8, 12, 0, 5, 2, 15, 13, 10, 14, 3, 6, 7, 1, 9, 4],
   [7, 9, 3, 1, 13, 12, 11, 14, 2, 6, 5, 10, 4, 0, 15, 8],
   [9, 0, 5, 7, 2, 4, 10, 15, 14, 1, 11, 12, 6, 8, 3, 13],
   [2, 12, 6, 10, 0, 11, 8, 3, 4, 13, 7, 5, 15, 14, 1, 9],
   [12, 5, 1, 15, 14, 13, 4, 10, 0, 7, 6, 3, 9, 2, 8, 11],
   [13, 11, 7, 14, 12, 1, 3, 9, 5, 0, 15, 4, 8, 6, 2, 10],
   [6, 15, 14, 9, 11, 3, 0, 8, 12, 2, 13, 7, 1, 4, 10, 5],
   [10, 2, 8, 4, 7, 6, 1, 5, 15, 11, 9, 14, 3, 12, 13, 0],
   [0, 1, 2, 3, 4, 5, 6, 7, 8, 9, 10, 11, 12, 13, 14, 15],
   [14, 10, 4, 8, 9, 15, 13, 6, 1, 12, 0, 2, 11, 7, 5, 3]]

/-- The running hash: two rows of words. -/
structure State where
  upper : Row
  lower : Row

/-- One round with a block, whose words are taken in the given order. -/
def round (block : Array UInt64) (square : Square) (order : List Nat) : Square :=
  let word (place : Nat) : UInt64 := block.getD (order.getD place 0) 0
  let columns := square.mixColumns (· + ·) ⟨word 0, word 2, word 4, word 6⟩
    ⟨word 1, word 3, word 5, word 7⟩
  (columns.skew.mixColumns (· + ·) ⟨word 8, word 10, word 12, word 14⟩
    ⟨word 9, word 11, word 13, word 15⟩).unskew

/-- Takes a block into the hash. The count of bytes up to its end goes in as well, and whether it is
the last. -/
def compress (state : State) (block : Array UInt64) (count : Nat) (last : Bool) : State :=
  let tweak : Row :=
    ⟨UInt64.ofNat count, UInt64.ofNat (count / 0x10000000000000000),
      if last then 0xffffffffffffffff else 0, 0⟩
  let start : Square := ⟨state.upper, state.lower, upper, lower.zip (· ^^^ ·) tweak⟩
  let final := schedule.foldl (round block) start
  ⟨state.upper.zip (· ^^^ ·) (final.a.zip (· ^^^ ·) final.c),
    state.lower.zip (· ^^^ ·) (final.b.zip (· ^^^ ·) final.d)⟩

/-- Takes in a message, after some bytes and with at most the given number of blocks before the
last. -/
def absorb : Nat → State → Nat → List UInt8 → State
  | 0, state, done, message =>
    compress state (wordsOf 16 message).toArray (done + message.length) true
  | blocks + 1, state, done, message =>
    absorb blocks (compress state (wordsOf 16 message).toArray (done + 128) false) (done + 128)
      (message.drop 128)

/-- The hash of a message, with a size in bytes of at most 64. -/
def hash (size : Nat) (message : List UInt8) : List UInt8 :=
  let parameters : Row := ⟨UInt64.ofNat (0x01010000 + size), 0, 0, 0⟩
  let final := absorb ((message.length - 1) / 128) ⟨upper.zip (· ^^^ ·) parameters, lower⟩ 0 message
  (bytesOf [final.upper.first, final.upper.second, final.upper.third, final.upper.fourth,
    final.lower.first, final.lower.second, final.lower.third, final.lower.fourth]).take size

end Convoy.Password.Blake2b
