import Convoy.Duration
import Convoy.Proofs.Numeral

/-!
# Reading durations back

The human form of a duration is a list of items, each a number and a unit. A reader of durations
reads the items one after another, and their lengths add up to the duration again.
-/

namespace Convoy.Duration

/-- A name of a unit, in letters that a reader takes for nothing else. -/
structure IsUnit (name : String) (nanos : Nat) : Prop where
  nonempty : name.toList ≠ []
  letters : ∀ character ∈ name.toList, isUnitLetter character = true ∧
    character.isDigit = false ∧ Text.Property.isBlank character = false ∧ character ≠ '.'
  known : unitNanos? name = some nanos

/-- The units of the human form, in the singular and where it occurs in the plural, with their
lengths. -/
def humanUnits : List (String × Nat) :=
  [("year", 31557600000000000), ("years", 31557600000000000), ("month", 2630016000000000),
    ("months", 2630016000000000), ("day", 86400000000000), ("days", 86400000000000),
    ("h", 3600000000000), ("m", 60000000000), ("s", 1000000000), ("ms", 1000000), ("us", 1000),
    ("ns", 1)]

theorem isUnit_of_mem {name : String} {nanos : Nat} (member : (name, nanos) ∈ humanUnits) :
    IsUnit name nanos := by
  have known : ∀ unit ∈ humanUnits,
      unit.1.toList ≠ [] ∧ unitNanos? unit.1 = some unit.2 := by
    decide +kernel
  -- Said with `all`, since a decision about all characters would go through every character.
  have letters : ∀ unit ∈ humanUnits, (unit.1.toList.all fun character =>
      isUnitLetter character && !character.isDigit && !Text.Property.isBlank character &&
        character != '.') = true := by
    decide +kernel
  refine ⟨(known _ member).1, ?_, (known _ member).2⟩
  simpa [and_assoc] using letters _ member

/-- Texts that write a duration together, as so many of a unit each. -/
inductive Writes : List String → Nat → Prop
  | nil : Writes [] 0
  | cons {value nanos later : Nat} {name : String} {rest : List String}
      (unit : IsUnit name nanos) (small : value < itemLimit) (others : Writes rest later) :
      Writes ((toString value ++ name) :: rest) (value * nanos + later)

namespace Writes

theorem append {first second : List String} {nanos later : Nat}
    (front : Writes first nanos) (back : Writes second later) :
    Writes (first ++ second) (nanos + later) := by
  induction front with
  | nil => simpa using back
  | cons unit small _ induction =>
    rw [List.cons_append, Nat.add_assoc]
    exact .cons unit small induction

/-- A unit that occurs is written, and one that does not occur is not needed. -/
theorem humanPart {value nanos : Nat} {name : String} {plural : Bool} (small : value < itemLimit)
    (unit : (name, nanos) ∈ humanUnits)
    (units : plural = true → (name ++ "s", nanos) ∈ humanUnits) :
    Writes (humanPart value name plural) (value * nanos) := by
  unfold Duration.humanPart
  split
  · rename_i none_
    rw [beq_iff_eq.1 none_, Nat.zero_mul]
    exact .nil
  · split
    · rename_i many
      rw [String.append_assoc]
      exact .cons (isUnit_of_mem (units (Bool.and_eq_true _ _ ▸ many).1)) small .nil
    · rw [String.append_empty]
      exact .cons (isUnit_of_mem unit) small .nil

end Writes

/-! ## Reading items -/

theorem readFrom_digits {total whole : Nat} {digits : List Char} (rest : List Char)
    (each : ∀ character ∈ digits, character.isDigit = true)
    (small : Nat.ofDigitChars 10 digits whole < itemLimit) :
    readFrom total (.number whole none) (digits ++ rest) =
      readFrom total (.number (Nat.ofDigitChars 10 digits whole) none) rest := by
  induction digits generalizing whole with
  | nil => rfl
  | cons digit more induction =>
    rw [Nat.ofDigitChars_cons] at small ⊢
    have now := each digit List.mem_cons_self
    have inLimit : whole * 10 + (digit.toNat - '0'.toNat) < itemLimit := by
      rw [Nat.mul_comm]
      exact Nat.lt_of_le_of_lt (Text.le_ofDigitChars more _) small
    rw [List.cons_append, readFrom]
    simp only [now, if_true, inLimit]
    rw [Nat.mul_comm whole]
    exact induction (fun character member => each character (List.mem_cons_of_mem _ member)) small

/-- A number in front of a rest. -/
theorem readFrom_number {total value : Nat} (rest : List Char) (small : value < itemLimit) :
    readFrom total .between (Nat.toDigits 10 value ++ rest) =
      readFrom total (.number value none) rest := by
  have each : ∀ character ∈ Nat.toDigits 10 value, character.isDigit = true :=
    fun _ => Text.isDigit_of_mem_toDigits
  have reads := Nat.ofDigitChars_ten_toDigits (n := value)
  cases spelled : Nat.toDigits 10 value with
  | nil => exact absurd spelled Nat.toDigits_ne_nil
  | cons digit more =>
    rw [spelled, Nat.ofDigitChars_cons, Nat.mul_zero, Nat.zero_add] at reads
    rw [spelled] at each
    rw [List.cons_append, readFrom, if_pos (each digit List.mem_cons_self),
      readFrom_digits rest (fun character member => each character (List.mem_cons_of_mem _ member))
        (reads ▸ small), reads]

theorem readFrom_letters {total whole : Nat} {letters : List Char} (name rest : List Char)
    (each : ∀ character ∈ letters, isUnitLetter character = true) :
    readFrom total (.unit whole none name) (letters ++ rest) =
      readFrom total (.unit whole none (letters.reverse ++ name)) rest := by
  induction letters generalizing name with
  | nil => rfl
  | cons letter more induction =>
    have now := each letter List.mem_cons_self
    rw [List.cons_append, readFrom, if_pos now,
      induction _ fun character member => each character (List.mem_cons_of_mem _ member)]
    simp

/-- A unit behind a number. -/
theorem readFrom_unit {total whole nanos : Nat} {name : String} (rest : List Char)
    (unit : IsUnit name nanos) :
    readFrom total (.number whole none) (name.toList ++ rest) =
      readFrom total (.unit whole none name.toList.reverse) rest := by
  have each := unit.letters
  cases spelled : name.toList with
  | nil => exact absurd spelled unit.nonempty
  | cons letter more =>
    rw [spelled] at each
    obtain ⟨isLetter, noDigit, noBlank, noPoint⟩ := each letter List.mem_cons_self
    rw [List.cons_append, readFrom]
    simp only [noDigit, noBlank, isLetter]
    rw [if_neg (by decide), if_neg (by decide), if_neg (by simpa using noPoint), if_pos (by simp),
      readFrom_letters _ _ fun character member =>
        (each character (List.mem_cons_of_mem _ member)).1]
    simp

theorem itemNanos_of_isUnit {whole nanos : Nat} {name : String} (unit : IsUnit name nanos) :
    itemNanos whole none name.toList.reverse = .ok (whole * nanos) := by
  simp [itemNanos, unit.known]

/-- One item, with the next after a blank. -/
theorem readFrom_item {total value nanos : Nat} {name : String} (unit : IsUnit name nanos)
    (small : value < itemLimit) :
    readFrom total .between (toString value ++ name).toList = .ok (total + value * nanos) ∧
      ∀ rest, readFrom total .between ((toString value ++ name).toList ++ ' ' :: rest) =
        readFrom (total + value * nanos) .between rest := by
  have spelled : (toString value ++ name).toList = Nat.toDigits 10 value ++ name.toList := by
    simp
  constructor
  · rw [spelled, readFrom_number _ small, ← List.append_nil name.toList, readFrom_unit _ unit,
      readFrom, itemNanos_of_isUnit unit]
    rfl
  · intro rest
    rw [spelled, List.append_assoc, readFrom_number _ small, readFrom_unit _ unit, readFrom,
      if_neg (by decide), if_neg (by decide), if_pos (by decide +kernel),
      itemNanos_of_isUnit unit]
    rfl

/-- Items with blanks between them are read one after another. -/
theorem readFrom_intercalate {total nanos : Nat} {texts : List String}
    (writes : Writes texts nanos) :
    readFrom total .between (" ".intercalate texts).toList = .ok (total + nanos) := by
  induction writes generalizing total with
  | nil => simp [readFrom]
  | @cons value nanos later name rest unit small others induction =>
    cases rest with
    | nil =>
      cases others
      rw [String.intercalate_singleton]
      exact (readFrom_item unit small).1
    | cons next more =>
      rw [String.intercalate_cons_cons, String.toList_append, String.toList_append,
        List.append_assoc, show " ".toList = [' '] from rfl, List.singleton_append,
        (readFrom_item unit small).2, induction, Nat.add_assoc]

/-- Items are not all blank. -/
theorem Writes.exists_letter {nanos : Nat} {first : String} {rest : List String}
    (writes : Writes (first :: rest) nanos) :
    ∃ character ∈ (" ".intercalate (first :: rest)).toList,
      Text.Property.isBlank character = false := by
  cases writes with
  | @cons value unit later name _ isUnit small others =>
    obtain ⟨letter, member⟩ := List.exists_mem_of_ne_nil _ isUnit.nonempty
    refine ⟨letter, ?_, (isUnit.letters letter member).2.2.1⟩
    cases rest <;> simp [String.intercalate_cons_cons, member]

/-! ## The human form -/

/-- The items for whole seconds. -/
def wholeItems (seconds : Nat) : List String :=
  let inYear := seconds % 31557600
  let inMonth := inYear % 2630016
  let inDay := inMonth % 86400
  humanPart (seconds / 31557600) "year" true ++ humanPart (inYear / 2630016) "month" true ++
    humanPart (inMonth / 86400) "day" true ++ humanPart (inDay / 3600) "h" false ++
    humanPart (inDay % 3600 / 60) "m" false ++ humanPart (inDay % 60) "s" false

/-- The items for what is left of a second. -/
def partItems (subsecond : Nat) : List String :=
  humanPart (subsecond / 1000000) "ms" false ++ humanPart (subsecond / 1000 % 1000) "us" false ++
    humanPart (subsecond % 1000) "ns" false

theorem human_eq (duration : Duration) :
    duration.human =
      let items := wholeItems duration.seconds ++ partItems duration.subsecond
      if items.isEmpty then "0s" else " ".intercalate items := by
  simp only [human, wholeItems, partItems, List.append_assoc]

/-- What is left of each unit goes into the smaller ones. -/
theorem seconds_split (seconds : Nat) :
    seconds / 31557600 * 31557600 + seconds % 31557600 / 2630016 * 2630016 +
        seconds % 31557600 % 2630016 / 86400 * 86400 +
        seconds % 31557600 % 2630016 % 86400 / 3600 * 3600 +
        seconds % 31557600 % 2630016 % 86400 % 3600 / 60 * 60 +
        seconds % 31557600 % 2630016 % 86400 % 60 = seconds := by
  have minute := Nat.mod_mod_of_dvd (seconds % 31557600 % 2630016 % 86400)
    (show 60 ∣ 3600 by decide)
  rw [← minute, Nat.add_assoc, Nat.div_add_mod', Nat.add_assoc, Nat.div_add_mod', Nat.add_assoc,
    Nat.div_add_mod', Nat.add_assoc, Nat.div_add_mod', Nat.div_add_mod']

theorem writes_wholeItems {seconds : Nat} (small : seconds < itemLimit) :
    Writes (wholeItems seconds) (seconds * 1000000000) := by
  have quotient : ∀ {value : Nat} (unit : Nat), value < itemLimit → value / unit < itemLimit :=
    fun unit => Nat.lt_of_le_of_lt (Nat.div_le_self _ unit)
  have rest : ∀ {value : Nat} (unit : Nat), value < itemLimit → value % unit < itemLimit :=
    fun unit => Nat.lt_of_le_of_lt (Nat.mod_le _ unit)
  have inYear := rest 31557600 small
  have inMonth := rest 2630016 inYear
  have inDay := rest 86400 inMonth
  -- The units are summed up in seconds; in nanoseconds the numbers are too large for `omega`.
  have split := congrArg (· * 1000000000) (seconds_split seconds)
  simp only [Nat.add_mul, Nat.mul_assoc] at split
  rw [← split]
  exact .append (.append (.append (.append (.append
    (.humanPart (quotient _ small) (by decide) (by decide))
    (.humanPart (quotient _ inYear) (by decide) (by decide)))
    (.humanPart (quotient _ inMonth) (by decide) (by decide)))
    (.humanPart (quotient _ inDay) (by decide) (by decide)))
    (.humanPart (quotient _ (rest _ inDay)) (by decide) (by decide)))
    (.humanPart (rest _ inDay) (by decide) (by decide))

theorem writes_partItems {subsecond : Nat} (small : subsecond < 1000000000) :
    Writes (partItems subsecond) subsecond := by
  have split : subsecond / 1000000 * 1000000 + subsecond / 1000 % 1000 * 1000 +
      subsecond % 1000 * 1 = subsecond := by
    omega
  have limit : 1000000000 < itemLimit := by decide
  have millis : subsecond / 1000000 < itemLimit := by omega
  have micros : subsecond / 1000 % 1000 < itemLimit := by omega
  have nanos : subsecond % 1000 < itemLimit := by omega
  have items : Writes (partItems subsecond)
      (subsecond / 1000000 * 1000000 + subsecond / 1000 % 1000 * 1000 + subsecond % 1000 * 1) :=
    .append (.append (.humanPart millis (by decide) (by decide))
      (.humanPart micros (by decide) (by decide))) (.humanPart nanos (by decide) (by decide))
  rwa [split] at items

/-- The lengths of the items add up to the duration. -/
theorem writes_items {duration : Duration} (bounded : duration.nanos < itemLimit * 1000000000) :
    Writes (wholeItems duration.seconds ++ partItems duration.subsecond) duration.nanos := by
  have whole : duration.seconds < itemLimit := Nat.div_lt_of_lt_mul (Nat.mul_comm _ _ ▸ bounded)
  have items := (writes_wholeItems whole).append
    (writes_partItems (Nat.mod_lt duration.nanos (by decide)))
  rwa [seconds, Nat.div_add_mod'] at items

/-- Every duration that can be represented is read back from its human form. -/
theorem read_human {duration : Duration} (bounded : duration.nanos < itemLimit * 1000000000) :
    read duration.human = .ok duration := by
  have writes := writes_items bounded
  rw [human_eq]
  generalize wholeItems duration.seconds ++ partItems duration.subsecond = items at writes
  cases items with
  | nil =>
    obtain ⟨nanos⟩ := duration
    cases writes
    decide +kernel
  | cons first rest =>
    obtain ⟨letter, member, visible⟩ := writes.exists_letter
    have reads : readFrom 0 .between (" ".intercalate (first :: rest)).toList =
        .ok (0 + duration.nanos) := readFrom_intercalate writes
    rw [Nat.zero_add] at reads
    have notZero : " ".intercalate (first :: rest) ≠ "0" := by
      intro same
      rw [same] at reads
      cases reads
    have notBlank : ¬ (" ".intercalate (first :: rest)).toList.all Text.Property.isBlank := by
      intro blank
      rw [List.all_eq_true.1 blank letter member] at visible
      cases visible
    simp only [List.isEmpty_cons, Bool.false_eq_true, if_false, read]
    rw [if_neg (by simpa using notZero), if_neg notBlank, reads]
    simp [bind, Except.bind, bounded]

end Convoy.Duration
