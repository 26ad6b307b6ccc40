import Convoy.Password.Argon2id

/-!
# Stored passwords

A password is stored as a hash with a random salt. The written form names the algorithm and its
cost, so that a password can be checked against it later.
-/

namespace Convoy

/-- The hash of a password, with all that is needed to compute it again. -/
structure PasswordHash where
  cost : Password.Argon2id.Cost
  salt : List UInt8
  digest : List UInt8

namespace PasswordHash

/-- The cost of a hash: nineteen megabytes, computed twice. -/
def standardCost : Password.Argon2id.Cost := ⟨19456, 2⟩

/-- The hash of a password with a salt. -/
def ofPassword (password : String) (salt : List UInt8) : PasswordHash where
  cost := standardCost
  salt := salt
  digest := Password.Argon2id.hash standardCost password.toUTF8.toList salt

/-- Whether a password is the one that was hashed. -/
def verifies (hash : PasswordHash) (password : String) : Bool :=
  Password.Argon2id.hash hash.cost password.toUTF8.toList hash.salt == hash.digest

/-- The character that stands for six bits. -/
def sextet (bits : Nat) : Char :=
  if bits < 26 then Char.ofNat (65 + bits)
  else if bits < 52 then Char.ofNat (97 + (bits - 26))
  else if bits < 62 then Char.ofNat (48 + (bits - 52))
  else if bits = 62 then '+'
  else '/'

/-- Bytes as characters for six bits each; what is missing in the last group is left out. -/
def encode : List UInt8 → List Char
  | [] => []
  | [first] => [sextet (first.toNat / 4), sextet (first.toNat % 4 * 16)]
  | [first, second] =>
    [sextet (first.toNat / 4), sextet (first.toNat % 4 * 16 + second.toNat / 16),
      sextet (second.toNat % 16 * 4)]
  | first :: second :: third :: rest =>
    sextet (first.toNat / 4) :: sextet (first.toNat % 4 * 16 + second.toNat / 16) ::
      sextet (second.toNat % 16 * 4 + third.toNat / 64) :: sextet (third.toNat % 64) :: encode rest

/-- The algorithm and its cost. -/
def parameters (hash : PasswordHash) : String :=
  s!"$argon2id$v=19$m={hash.cost.memory},t={hash.cost.passes},p=1"

def saltText (hash : PasswordHash) : String := String.ofList (encode hash.salt)

def digestText (hash : PasswordHash) : String := String.ofList (encode hash.digest)

/-- The written form. -/
def text (hash : PasswordHash) : String :=
  hash.parameters ++ "$" ++ hash.saltText ++ "$" ++ hash.digestText

end PasswordHash

/-- How a password is hashed with a salt, or why it cannot be hashed. -/
abbrev Hasher := String → List UInt8 → Except String PasswordHash

namespace Hasher

/-- The longest password that Argon2id takes, in bytes. -/
def lengthLimit : Nat := 0xFFFFFFFF

/-- Argon2id at the usual cost. -/
def argon2id : Hasher := fun password salt =>
  if password.utf8ByteSize ≤ lengthLimit then .ok (.ofPassword password salt)
  else .error "invalid password"

end Hasher

end Convoy
