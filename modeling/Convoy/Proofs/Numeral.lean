import Convoy.Text.Blank
import Mathlib.Data.Nat.Digits.Defs

/-!
# Written numbers

A number is written in decimal digits, and what is written is read as the number again.
-/

namespace Convoy.Text

theorem isDigit_of_mem_toDigits {number : Nat} {character : Char}
    (member : character ∈ Nat.toDigits 10 number) : character.isDigit = true :=
  Nat.isDigit_of_mem_toDigits (by decide) (by decide) member

theorem le_ofDigitChars (digits : List Char) (whole : Nat) :
    whole ≤ Nat.ofDigitChars 10 digits whole := by
  induction digits generalizing whole with
  | nil => exact Nat.le_refl _
  | cons digit rest induction =>
    rw [Nat.ofDigitChars_cons]
    exact Nat.le_trans (by omega) (induction _)

theorem unsigned?_of_isDigit {digits : List Char} (nonempty : digits ≠ [])
    (each : ∀ character ∈ digits, character.isDigit = true) :
    unsigned? digits = some (Nat.ofDigitChars 10 digits 0) := by
  unfold unsigned?
  split
  · exact absurd (each '+' List.mem_cons_self) (by decide)
  · rw [if_neg (by simpa [nonempty] using each), Nat.ofDigitChars]
    simp only [Nat.mul_comm 10]

theorem unsigned?_toDigits (number : Nat) : unsigned? (Nat.toDigits 10 number) = some number := by
  rw [unsigned?_of_isDigit Nat.toDigits_ne_nil fun _ => isDigit_of_mem_toDigits,
    Nat.ofDigitChars_ten_toDigits]

end Convoy.Text
