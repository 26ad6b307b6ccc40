import Convoy.Password.Blake2b

/-!
# The password hash Argon2id

A hash that is slow and needs much memory, so that guessing passwords is expensive. The memory is a
list of blocks of 1024 bytes. Each block is computed from the one before it and from an earlier one;
in the first half of the first pass the choice of the earlier one does not depend on the password.
There is one lane.
-/

namespace Convoy.Password.Argon2id

/-- How much work a hash is. -/
structure Cost where
  /-- The number of blocks. -/
  memory : Nat
  /-- How often they are computed. -/
  passes : Nat

/-- The words of a block; there are 128. -/
abbrev Block := Array UInt64

/-- A sum of two words that also multiplies their lower halves. -/
@[inline]
def sum (left right : UInt64) : UInt64 :=
  left + right + 2 * ((left &&& 0xffffffff) * (right &&& 0xffffffff))

/-- Mixes sixteen words. -/
def permute (square : Square) : Square :=
  ((square.mixColumns sum .zero .zero).skew.mixColumns sum .zero .zero).unskew

/-- Mixes the sixteen words of a block that stand in pairs: the pairs start at a place and are some
distance apart. -/
def permutePairs (block : Block) (start distance : Nat) : Block :=
  let left (pair : Nat) : UInt64 := block.getD (start + pair * distance) 0
  let right (pair : Nat) : UInt64 := block.getD (start + pair * distance + 1) 0
  let mixed := permute
    ⟨⟨left 0, right 0, left 1, right 1⟩, ⟨left 2, right 2, left 3, right 3⟩,
      ⟨left 4, right 4, left 5, right 5⟩, ⟨left 6, right 6, left 7, right 7⟩⟩
  let put (block : Block) (pair : Nat) (first second : UInt64) : Block :=
    (block.setIfInBounds (start + pair * distance) first).setIfInBounds
      (start + pair * distance + 1) second
  let block := put block 0 mixed.a.first mixed.a.second
  let block := put block 1 mixed.a.third mixed.a.fourth
  let block := put block 2 mixed.b.first mixed.b.second
  let block := put block 3 mixed.b.third mixed.b.fourth
  let block := put block 4 mixed.c.first mixed.c.second
  let block := put block 5 mixed.c.third mixed.c.fourth
  let block := put block 6 mixed.d.first mixed.d.second
  put block 7 mixed.d.third mixed.d.fourth

def exclusiveSum (left right : Block) : Block := left.zipWith (· ^^^ ·) right

/-- Computes a block from two: mixes the rows of their sum, then its columns. -/
def compress (left right : Block) : Block :=
  let start := exclusiveSum left right
  let rows := (List.range 8).foldl (fun block row => permutePairs block (row * 16) 2) start
  let columns := (List.range 8).foldl (fun block column => permutePairs block (column * 2) 16) rows
  exclusiveSum columns start

/-- A hash of any size: for more than 64 bytes, the halves of a chain of hashes. -/
def chain : Nat → List UInt8 → Nat → List UInt8
  | 0, link, size => Blake2b.hash size link
  | count + 1, link, size =>
    let next := Blake2b.hash 64 link
    next.take 32 ++ chain count next (size - 32)

def longHash (size : Nat) (message : List UInt8) : List UInt8 :=
  chain ((size - 33) / 32) (littleEndian 4 size ++ message) size

def blockOf (bytes : List UInt8) : Block := (wordsOf 128 bytes).toArray

def zeroBlock : Block := Array.replicate 128 0

/-- The block of the words that choose earlier blocks, where the choice does not depend on the
password. -/
def addresses (cost : Cost) (pass slice counter : Nat) : Block :=
  let words := [pass, 0, slice, 4 * (cost.memory / 4), cost.passes, 2, counter].map UInt64.ofNat
  let input := (words ++ List.replicate 121 0).toArray
  compress zeroBlock (compress zeroBlock input)

/-- The number of blocks in one quarter of the memory. -/
def Cost.segment (cost : Cost) : Nat := cost.memory / 4

/-- The place of the earlier block that a word chooses for the block at an index of a segment. -/
def reference (cost : Cost) (pass slice index : Nat) (word : UInt64) : Nat :=
  let segment := cost.segment
  let area := if pass = 0 then slice * segment + index - 1 else 3 * segment + index - 1
  let chosen := word.toNat % 0x100000000
  let distance := area * (chosen * chosen / 0x100000000) / 0x100000000
  let start := if pass = 0 || slice = 3 then 0 else (slice + 1) * segment
  (start + (area - 1 - distance)) % (4 * segment)

/-- Computes the blocks of a segment from an index on, as many as given. -/
def fillFrom (cost : Cost) (pass slice : Nat) :
    Nat → Nat → Block → Array Block → Array Block
  | 0, _, _, memory => memory
  | count + 1, index, chosen, memory =>
    let independent := pass = 0 && slice < 2
    let chosen := if independent && index % 128 = 0 then
      addresses cost pass slice (index / 128 + 1) else chosen
    let place := slice * cost.segment + index
    let before := memory.getD (if place = 0 then 4 * cost.segment - 1 else place - 1) #[]
    let word := if independent then chosen.getD (index % 128) 0 else before.getD 0 0
    let earlier := memory.getD (reference cost pass slice index word) #[]
    let fresh := compress before earlier
    let block := if pass = 0 then fresh else exclusiveSum fresh (memory.getD place #[])
    fillFrom cost pass slice count (index + 1) chosen (memory.setIfInBounds place block)

/-- Computes the blocks of a segment. The first two blocks of all are given. -/
def fillSegment (cost : Cost) (memory : Array Block) (part : Nat × Nat) : Array Block :=
  let (pass, slice) := part
  let start := if pass = 0 && slice = 0 then 2 else 0
  fillFrom cost pass slice (cost.segment - start) start (addresses cost pass slice 1) memory

/-- The hash of 32 bytes of a password with a salt. -/
def hash (cost : Cost) (password salt : List UInt8) : List UInt8 :=
  let sized (bytes : List UInt8) : List UInt8 := littleEndian 4 bytes.length ++ bytes
  let seed := Blake2b.hash 64 ([1, 32, cost.memory, cost.passes, 0x13, 2].flatMap (littleEndian 4) ++
    sized password ++ sized salt ++ sized [] ++ sized [])
  let given (number : Nat) : Block :=
    blockOf (longHash 1024 (seed ++ littleEndian 4 number ++ littleEndian 4 0))
  let blank := Array.replicate (4 * cost.segment) zeroBlock
  let memory := (blank.setIfInBounds 0 (given 0)).setIfInBounds 1 (given 1)
  let parts := (List.range cost.passes).flatMap fun pass => (List.range 4).map (pass, ·)
  let filled := parts.foldl (fillSegment cost) memory
  longHash 32 (bytesOf (filled.getD (4 * cost.segment - 1) #[]).toList)

end Convoy.Password.Argon2id
