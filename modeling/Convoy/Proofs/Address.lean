import Convoy.Address
import Convoy.Proofs.Numeral
import Mathlib.Data.List.DropRight
import Mathlib.Data.List.TakeWhile

/-!
# Reading targets back

The text of an address as a target has brackets around the host if the host holds a colon. Whoever
reads it takes all brackets away that are at the ends of the host, including those that belong to
the host itself.
-/

namespace Convoy

namespace Text

variable {separator : Char}

theorem splitLast?_eq_none {text : List Char} (absent : separator ∉ text) :
    splitLast? separator text = none := by
  induction text with
  | nil => rfl
  | cons character rest induction =>
    rw [List.mem_cons, not_or] at absent
    simp [splitLast?, induction absent.2, Ne.symm absent.1]

theorem splitLast?_append (before : List Char) {after : List Char} (absent : separator ∉ after) :
    splitLast? separator (before ++ separator :: after) = some (before, after) := by
  induction before with
  | nil => simp [splitLast?, splitLast?_eq_none absent]
  | cons character rest induction => simp [splitLast?, induction]

theorem dropEndWhile_concat_of_pos {property : Char → Bool} (text : List Char) {last : Char}
    (holds : property last = true) :
    dropEndWhile property (text ++ [last]) = dropEndWhile property text := by
  simp [dropEndWhile, holds]

theorem dropWhile_beq_eq_self_iff {first : Char} {text : List Char} :
    text.dropWhile (· == first) = text ↔ text.head? ≠ some first := by
  rw [List.dropWhile_eq_self_iff]
  cases text <;> simp

theorem dropEndWhile_beq_eq_self_iff {last : Char} {text : List Char} :
    dropEndWhile (· == last) text = text ↔ text.getLast? ≠ some last := by
  rw [dropEndWhile, List.reverse_eq_iff, dropWhile_beq_eq_self_iff, List.head?_reverse]

theorem dropEndWhile_prefix (property : Char → Bool) (text : List Char) :
    dropEndWhile property text <+: text :=
  List.rdropWhile_prefix property text

theorem dropEndWhile_dropEndWhile (property : Char → Bool) (text : List Char) :
    dropEndWhile property (dropEndWhile property text) = dropEndWhile property text :=
  List.rdropWhile_idempotent property text

end Text

namespace Address

/-- Brackets that are put around a host are taken away again. -/
theorem unbracket_bracketed {host : List Char} {inner : Char} (member : inner ∈ host)
    (plain : inner ≠ '[') : unbracket ('[' :: (host ++ [']'])) = unbracket host := by
  have remains : (host.dropWhile (· == '[')).isEmpty = false := by
    rw [List.isEmpty_eq_false_iff, Ne, List.dropWhile_eq_nil_iff]
    exact fun all => plain (by simpa using all inner member)
  unfold unbracket
  rw [List.dropWhile_cons_of_pos (by rfl), List.dropWhile_append, remains, if_neg (by simp),
    Text.dropEndWhile_concat_of_pos _ (by rfl)]

theorem port?_toDigits (port : UInt16) :
    port? (Nat.toDigits 10 port.toNat) = if port = 0 then none else some port := by
  have bound := port.toNat_lt
  simp only [port?, Text.unsigned?_toDigits]
  by_cases zero : port = 0
  · simp [zero]
  · have positive : 0 < port.toNat :=
      Nat.pos_of_ne_zero fun none_ => zero (UInt16.toNat_inj.1 none_)
    rw [if_pos ⟨positive, bound⟩, if_neg zero, UInt16.ofNat_toNat]

/-- The text of an address, cut where a reader cuts it. -/
theorem toList_target (address : Address) :
    ∃ before, address.target.toList = before ++ ':' :: Nat.toDigits 10 address.port.toNat ∧
      unbracket before = unbracket address.host.toList := by
  by_cases colon : ':' ∈ address.host.toList
  · refine ⟨'[' :: (address.host.toList ++ [']']), ?_, unbracket_bracketed colon (by decide)⟩
    simp [target, colon]
  · refine ⟨address.host.toList, ?_, rfl⟩
    simp [target, plain, colon]

/-- What is read from the text of an address: the address without the brackets at the ends of its
host. An empty host and the port zero are refused. -/
theorem read?_target (address : Address) :
    read? address.target =
      if unbracket address.host.toList = [] ∨ address.port = 0 then none
      else some ⟨String.ofList (unbracket address.host.toList), address.port⟩ := by
  obtain ⟨before, spelled, bare⟩ := address.toList_target
  have digits : ':' ∉ Nat.toDigits 10 address.port.toNat := fun member =>
    absurd (Text.isDigit_of_mem_toDigits member) (by decide)
  simp only [read?, spelled, Text.splitLast?_append before digits, Option.bind_eq_bind,
    Option.bind_some]
  rw [bare, port?_toDigits]
  by_cases empty : unbracket address.host.toList = []
  · simp [empty]
  · by_cases zero : address.port = 0 <;> simp [empty, zero]

/-- A host keeps all its characters exactly if it has no bracket of the kind in question at its
ends. -/
theorem unbracket_eq_self_iff {host : List Char} :
    unbracket host = host ↔ host.head? ≠ some '[' ∧ host.getLast? ≠ some ']' := by
  rw [← Text.dropWhile_beq_eq_self_iff, ← Text.dropEndWhile_beq_eq_self_iff]
  have cut := List.dropWhile_sublist (l := host) (· == '[')
  constructor
  · intro whole
    have kept : host.dropWhile (· == '[') = host := by
      apply cut.eq_of_length
      have shorter := (Text.dropEndWhile_prefix (· == ']') (host.dropWhile (· == '['))).length_le
      rw [← unbracket, whole] at shorter
      exact Nat.le_antisymm cut.length_le shorter
    rw [unbracket, kept] at whole
    exact ⟨kept, whole⟩
  · rintro ⟨start, stop⟩
    rw [unbracket, start, stop]

/-- What is left of a host has no more brackets to take away. -/
theorem unbracket_unbracket (host : List Char) : unbracket (unbracket host) = unbracket host := by
  have first : (host.dropWhile (· == '[')).head? ≠ some '[' :=
    Text.dropWhile_beq_eq_self_iff.1 (List.dropWhile_idempotent _ _)
  rw [unbracket_eq_self_iff]
  constructor
  · -- The brackets at the end are taken away last, but what they leave starts as before.
    intro starts
    obtain ⟨taken, whole⟩ := Text.dropEndWhile_prefix (· == ']') (host.dropWhile (· == '['))
    rw [← unbracket] at whole
    exact first (by rw [← whole, List.head?_append, starts, Option.some_or])
  · exact Text.dropEndWhile_beq_eq_self_iff.1 (Text.dropEndWhile_dropEndWhile _ _)

/-- An address is read back from its text exactly if it has a host without brackets at its ends, and
a port. -/
theorem read?_target_eq_some_iff (address : Address) :
    read? address.target = some address ↔
      address.host ≠ "" ∧ address.host.toList.head? ≠ some '[' ∧
        address.host.toList.getLast? ≠ some ']' ∧ address.port ≠ 0 := by
  rw [read?_target]
  by_cases whole : unbracket address.host.toList = address.host.toList
  · have ends := unbracket_eq_self_iff.1 whole
    rw [whole]
    simp [ends]
  · refine iff_of_false (fun same => ?_) fun sound =>
      whole (unbracket_eq_self_iff.2 ⟨sound.2.1, sound.2.2.1⟩)
    split at same
    · cases same
    · have host := congrArg (·.host.toList) (Option.some.inj same)
      exact whole (String.toList_ofList.symm.trans host)

theorem ne_zero_of_port? {digits : List Char} {port : UInt16} (spelled : port? digits = some port) :
    port ≠ 0 := by
  unfold port? at spelled
  split at spelled
  · next number _ =>
    split at spelled
    · next inRange =>
      rintro rfl
      have whole : number % 65536 = 0 := congrArg UInt16.toNat (Option.some.inj spelled)
      omega
    · cases spelled
  · cases spelled

/-- Whatever text an address is read from, its host is what is left of some host without the
brackets around it, and neither the host nor the port is missing. -/
theorem of_read? {text : String} {address : Address} (named : read? text = some address) :
    ∃ host, unbracket host ≠ [] ∧ address.host = String.ofList (unbracket host) ∧
      address.port ≠ 0 := by
  unfold read? at named
  obtain ⟨⟨before, after⟩, -, named⟩ := Option.bind_eq_some_iff.1 named
  dsimp only at named
  split at named
  · nomatch named
  · next nonempty =>
    obtain ⟨port, spelled, same⟩ := Option.bind_eq_some_iff.1 named
    obtain rfl := Option.some.inj same
    exact ⟨before, by simpa using nonempty, rfl, ne_zero_of_port? spelled⟩

theorem read_eq_ok_iff {text : String} {address : Address} :
    read text = .ok address ↔ read? text = some address := by
  unfold read
  cases read? text <;> simp

/-- An address is read back from its text exactly if its host is not empty and has no bracket that
opens it or closes it, and its port is not zero. Every address that is read from some text is such
an address: its own text names it again. -/
theorem read_target :
    (∀ address : Address, read address.target = .ok address ↔
      address.host ≠ "" ∧ address.host.toList.head? ≠ some '[' ∧
        address.host.toList.getLast? ≠ some ']' ∧ address.port ≠ 0) ∧
    ∀ (text : String) (address : Address),
      read text = .ok address → read address.target = .ok address := by
  refine ⟨fun address => read_eq_ok_iff.trans (read?_target_eq_some_iff address), ?_⟩
  intro text address named
  obtain ⟨host, nonempty, bare, port⟩ := of_read? (read_eq_ok_iff.1 named)
  have ends := unbracket_eq_self_iff.1 (unbracket_unbracket host)
  rw [read_eq_ok_iff, read?_target_eq_some_iff, bare, String.toList_ofList]
  refine ⟨fun empty => nonempty ?_, ends.1, ends.2, port⟩
  simpa using congrArg String.toList empty

/-- A text with more brackets than it needs and a port with more digits than it needs. -/
theorem read_target_of_bracketed :
    read "[[::1]]]:+0080" = .ok ⟨"::1", 80⟩ ∧ read "[::1]:80" = .ok ⟨"::1", 80⟩ := by
  have named : read "[[::1]]]:+0080" = .ok ⟨"::1", 80⟩ := by decide +kernel
  have again := read_target.2 _ _ named
  exact ⟨named, again⟩

end Address

end Convoy
