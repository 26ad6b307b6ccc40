import Convoy.Compose
import Convoy.Naming
import Mathlib.Data.List.Basic

/-!
# References in the texts of a document

A container runtime replaces references to variables in the texts of a document. Two dollars stand
for one. A dollar and a brace begin a reference, which extends to the matching brace: it names a
variable and says what counts where the variable is unset or empty, another text with references of
its own or nothing at all. No other dollar is allowed.

Texts are read part by part. The results about reading have an arbitrary rest behind the part in
question, so that they can be put together.
-/

namespace Convoy.Compose

/-- How many braces are open behind a character, by how many are open before it; nothing if it
closes one more. -/
def depthBehind? (depth : Nat) (character : Char) : Option Nat :=
  if character = '{' then some (depth + 1)
  else if character = '}' then
    match depth with
    | 0 => none
    | outer + 1 => some outer
  else some depth

/-- How many braces are open behind a text; nothing if it closes more than are open. -/
def depthAfter? : Nat → List Char → Option Nat
  | depth, [] => some depth
  | depth, character :: rest => (depthBehind? depth character).bind (depthAfter? · rest)

/-- Every brace of a text has its partner in the text. -/
def Balanced (text : List Char) : Prop := depthAfter? 0 text = some 0

instance (text : List Char) : Decidable (Balanced text) :=
  inferInstanceAs (Decidable (depthAfter? 0 text = some 0))

/-- Cuts a text at the brace that closes the one before the text. The depth says how many more are
open. -/
def closing? : Nat → List Char → Option (List Char × List Char)
  | _, [] => none
  | depth, character :: rest =>
    match depthBehind? depth character with
    | none => some ([], rest)
    | some next =>
      (closing? next rest).map fun parts => (character :: parts.1, parts.2)

/-- What a text is made of. -/
inductive Part where
  | literal (character : Char)
  /-- A variable, and the text that counts if it has no value. -/
  | optional (name : String) (fallback : List Char)
  /-- A variable that must have a value. -/
  | required (name : String)

/-- The reference that the text between two braces makes. -/
def reference? (inside : List Char) : Option Part :=
  let name := String.ofList (inside.takeWhile Naming.isVariableChar)
  match Naming.variableName name, inside.dropWhile Naming.isVariableChar with
  | .ok (), ':' :: '-' :: fallback => some (.optional name fallback)
  | .ok (), ':' :: '?' :: _ => some (.required name)
  | _, _ => none

/-- The first part of a text, and what follows it. -/
def part? (first : Char) (rest : List Char) : Option (Part × List Char) :=
  if first = '$' then
    match rest with
    | '$' :: after => some (.literal '$', after)
    | '{' :: inner => do
      let (inside, after) ← closing? 0 inner
      return (← reference? inside, after)
    | _ => none
  else some (.literal first, rest)

/-- The value of a variable; an empty one counts as absent. -/
def supplied? (environment : Environment) (name : String) : Option String :=
  (environment name).filter (· != "")

theorem depthBehind?_eq_none_iff {depth : Nat} {character : Char} :
    depthBehind? depth character = none ↔ depth = 0 ∧ character = '}' := by
  unfold depthBehind?
  split
  · rename_i opens
    simp [opens]
  · split
    · cases depth <;> simp_all
    · simp_all

theorem closing?_eq_some {text inside after : List Char} {depth : Nat}
    (cut : closing? depth text = some (inside, after)) : text = inside ++ '}' :: after := by
  induction text generalizing inside depth with
  | nil => cases cut
  | cons character rest induction =>
    unfold closing? at cut
    split at cut
    · rename_i closes
      cases cut
      rw [(depthBehind?_eq_none_iff.1 closes).2, List.nil_append]
    · obtain ⟨⟨inner, _⟩, found, same⟩ := Option.map_eq_some_iff.1 cut
      cases same
      rw [induction found, List.cons_append]

/-- What a reference is made of, and how it is written. -/
theorem reference?_cases {inside : List Char} {part : Part}
    (refers : reference? inside = some part) :
    ∃ name, Naming.variableName name = .ok () ∧
      ((∃ fallback, part = .optional name fallback ∧
          inside = name.toList ++ ':' :: '-' :: fallback) ∨
        ∃ message, part = .required name ∧ inside = name.toList ++ ':' :: '?' :: message) := by
  have whole := List.takeWhile_append_dropWhile (p := Naming.isVariableChar) (l := inside)
  rw [← String.toList_ofList (l := inside.takeWhile Naming.isVariableChar)] at whole
  simp only [reference?] at refers
  split at refers
  · rename_i valid left
    cases refers
    exact ⟨_, valid, .inl ⟨_, rfl, by rw [← left, whole]⟩⟩
  · rename_i valid left
    cases refers
    exact ⟨_, valid, .inr ⟨_, rfl, by rw [← left, whole]⟩⟩
  · cases refers

/-- What the first part of a text is, and how it is written. -/
theorem part?_cases
    {first : Char} {rest after : List Char} {part : Part}
    (begins : part? first rest = some (part, after)) :
    part = .literal first ∧ (rest = after ∨ rest = '$' :: after) ∨
      ∃ inside, reference? inside = some part ∧ rest = '{' :: (inside ++ '}' :: after) := by
  unfold part? at begins
  split at begins
  · rename_i dollar
    split at begins
    · cases begins
      exact .inl ⟨by rw [dollar], .inr rfl⟩
    · obtain ⟨⟨inside, later⟩, cut, reads⟩ := Option.bind_eq_some_iff.1 begins
      obtain ⟨_, refers, same⟩ := Option.bind_eq_some_iff.1 reads
      cases same
      exact .inr ⟨inside, refers, by rw [closing?_eq_some cut]⟩
    · cases begins
  · cases begins
    exact .inl ⟨rfl, .inl rfl⟩

/-- What follows a part is shorter than the text that the part begins. -/
theorem length_after_part
    {first : Char} {rest after : List Char} {part : Part}
    (begins : part? first rest = some (part, after)) : after.length ≤ rest.length := by
  obtain ⟨-, rfl | rfl⟩ | ⟨inside, -, rfl⟩ := part?_cases begins
  · exact Nat.le_refl _
  · exact Nat.le_succ _
  · simp only [List.length_cons, List.length_append]
    omega

/-- What counts in place of a variable is shorter than the text that the reference begins. -/
theorem length_fallback_of_part
    {first : Char} {rest after fallback : List Char} {name : String}
    (begins : part? first rest = some (.optional name fallback, after)) :
    fallback.length ≤ rest.length := by
  obtain ⟨other, -⟩ | ⟨inside, refers, rfl⟩ := part?_cases begins
  · cases other
  · obtain ⟨_, -, ⟨_, same, rfl⟩ | ⟨_, other, -⟩⟩ := reference?_cases refers
    · cases same
      simp only [List.length_cons, List.length_append]
      omega
    · cases other

/-- The text that a container gets, with all references replaced; nothing if a variable without a
value must have one, or if the text cannot be read. -/
def interpolate (environment : Environment) : List Char → Option (List Char)
  | [] => some []
  | first :: rest =>
    match _begins : part? first rest with
    | none => none
    | some (.literal character, after) => (interpolate environment after).map (character :: ·)
    | some (.optional name fallback, after) => do
      let value ← ((supplied? environment name).map (·.toList)).orElse fun _ =>
        interpolate environment fallback
      return value ++ (← interpolate environment after)
    | some (.required name, after) => do
      let value ← supplied? environment name
      return value.toList ++ (← interpolate environment after)
termination_by text => text.length
decreasing_by
  · exact Nat.lt_succ_of_le (length_after_part _begins)
  · exact Nat.lt_succ_of_le (length_fallback_of_part _begins)
  · exact Nat.lt_succ_of_le (length_after_part _begins)
  · exact Nat.lt_succ_of_le (length_after_part _begins)

/-! ## One part after another -/

section

variable {environment : Environment} {first : Char} {rest after : List Char}

theorem interpolate_of_part?_eq_none (begins : part? first rest = none) :
    interpolate environment (first :: rest) = none := by
  rw [interpolate]
  split <;> simp_all

theorem interpolate_of_literal
    {character : Char} (begins : part? first rest = some (.literal character, after)) :
    interpolate environment (first :: rest) =
      (interpolate environment after).map (character :: ·) := by
  rw [interpolate]
  split <;> simp_all

theorem interpolate_of_optional
    {name : String} {fallback : List Char}
    (begins : part? first rest = some (.optional name fallback, after)) :
    interpolate environment (first :: rest) =
      (((supplied? environment name).map (·.toList)).or (interpolate environment fallback)).bind
        fun value => (interpolate environment after).map (value ++ ·) := by
  rw [interpolate]
  split <;> cases begins.symm.trans ‹_›
  simp only [Option.map_eq_bind]
  cases supplied? environment name <;> rfl

theorem interpolate_of_required
    {name : String} (begins : part? first rest = some (.required name, after)) :
    interpolate environment (first :: rest) =
      (supplied? environment name).bind
        fun value => (interpolate environment after).map (value.toList ++ ·) := by
  rw [interpolate]
  split <;> cases begins.symm.trans ‹_›
  simp only [Option.map_eq_bind]
  rfl

end

/-! ## Escaped texts -/

theorem escapeChars_append (first second : List Char) :
    escapeChars (first ++ second) = escapeChars first ++ escapeChars second := by
  induction first with
  | nil => rfl
  | cons character rest induction =>
    rw [List.cons_append, escapeChars, escapeChars, induction]
    split <;> rfl

/-- A text without dollars is its own escaped form. -/
theorem escapeChars_eq_self {text : List Char} (plain : '$' ∉ text) : escapeChars text = text := by
  induction text with
  | nil => rfl
  | cons character rest induction =>
    rw [List.mem_cons, not_or] at plain
    rw [escapeChars, if_neg (by simpa using Ne.symm plain.1), induction plain.2]

/-- Doubling dollars keeps braces. -/
theorem depthAfter?_escapeChars (depth : Nat) (text : List Char) :
    depthAfter? depth (escapeChars text) = depthAfter? depth text := by
  induction text generalizing depth with
  | nil => rfl
  | cons character rest induction =>
    unfold escapeChars
    split
    · rename_i dollar
      obtain rfl := beq_iff_eq.1 dollar
      simp [depthAfter?, depthBehind?, induction]
    · simp [depthAfter?, induction]

/-! ## Without a look at references -/

/-- What becomes of a text: the variables that are read for it, and the text that a container gets
unless something in it is refused. -/
structure Replacement where
  reads : List String
  text : Option (List Char)
  deriving DecidableEq

namespace Replacement

/-- The text is taken as it stands, and nothing is read. -/
def literal (text : List Char) : Replacement := ⟨[], some text⟩

/-- The replacement with a character in front. -/
def cons (character : Char) (replacement : Replacement) : Replacement :=
  { replacement with text := replacement.text.map (character :: ·) }

@[simp]
theorem cons_literal (character : Char) (text : List Char) :
    (literal text).cons character = literal (character :: text) := rfl

end Replacement

/-- A way to replace references. Two dollars stand for one, and every other dollar begins a
reference; what references look like and what they mean is left open. -/
structure Interpolation where
  replace : Environment → List Char → Replacement
  replace_nil : ∀ environment, replace environment [] = .literal []
  replace_cons : ∀ environment {first : Char} (rest : List Char), first ≠ '$' →
    replace environment (first :: rest) = (replace environment rest).cons first
  replace_dollars : ∀ environment (rest : List Char),
    replace environment ('$' :: '$' :: rest) = (replace environment rest).cons '$'

/-- An escaped text means itself, whatever a reference means. -/
theorem Interpolation.replace_escapeChars (interpolation : Interpolation)
    (environment : Environment) (text : List Char) :
    interpolation.replace environment (escapeChars text) = .literal text := by
  induction text with
  | nil => exact interpolation.replace_nil environment
  | cons character rest induction =>
    unfold escapeChars
    split
    · rename_i dollar
      obtain rfl := beq_iff_eq.1 dollar
      rw [interpolation.replace_dollars, induction, Replacement.cons_literal]
    · rename_i other
      rw [interpolation.replace_cons environment _ (by simpa using other), induction,
        Replacement.cons_literal]

theorem Interpolation.replace_escape (interpolation : Interpolation) (environment : Environment)
    (text : String) :
    interpolation.replace environment (escape text).toList = .literal text.toList := by
  rw [escape, String.toList_ofList]
  exact interpolation.replace_escapeChars environment text.toList

/-- The variables that are read for a text. A reference reads those in the text that counts in place
of its variable only if it needs this text. -/
def variablesRead (environment : Environment) : List Char → List String
  | [] => []
  | first :: rest =>
    match _begins : part? first rest with
    | none => []
    | some (.literal _, after) => variablesRead environment after
    | some (.optional name fallback, after) =>
      let inner := if (supplied? environment name).isSome then []
        else variablesRead environment fallback
      name :: inner ++ variablesRead environment after
    | some (.required name, after) => name :: variablesRead environment after
termination_by text => text.length
decreasing_by
  · exact Nat.lt_succ_of_le (length_after_part _begins)
  · exact Nat.lt_succ_of_le (length_fallback_of_part _begins)
  · exact Nat.lt_succ_of_le (length_after_part _begins)
  · exact Nat.lt_succ_of_le (length_after_part _begins)

theorem variablesRead_of_literal
    {environment : Environment} {first character : Char} {rest after : List Char}
    (begins : part? first rest = some (.literal character, after)) :
    variablesRead environment (first :: rest) = variablesRead environment after := by
  rw [variablesRead]
  split <;> simp_all

theorem part?_of_ne {first : Char} (rest : List Char) (other : first ≠ '$') :
    part? first rest = some (.literal first, rest) :=
  if_neg other

/-- The replacement of references in braces. -/
def braces : Interpolation where
  replace environment text := ⟨variablesRead environment text, interpolate environment text⟩
  replace_nil environment := by simp [variablesRead, interpolate, Replacement.literal]
  replace_cons environment first rest other := by
    rw [variablesRead_of_literal (part?_of_ne rest other),
      interpolate_of_literal (part?_of_ne rest other)]
    rfl
  replace_dollars environment rest := by
    have begins : part? '$' ('$' :: rest) = some (.literal '$', rest) := rfl
    rw [variablesRead_of_literal begins, interpolate_of_literal begins]
    rfl

theorem interpolate_escapeChars (environment : Environment) (text : List Char) :
    interpolate environment (escapeChars text) = some text :=
  congrArg Replacement.text (braces.replace_escapeChars environment text)

/-! ## Texts up to a matching brace -/

theorem depthAfter?_append (depth : Nat) (first second : List Char) :
    depthAfter? depth (first ++ second) =
      (depthAfter? depth first).bind (depthAfter? · second) := by
  induction first generalizing depth with
  | nil => rfl
  | cons character rest induction =>
    simp [depthAfter?, induction, Option.bind_assoc]

/-- A text that closes no brace too many belongs to the reference as a whole. -/
theorem closing?_append_of_depthAfter?_eq_some
    {depth final : Nat} {text : List Char} (more : List Char)
    (within : depthAfter? depth text = some final) :
    closing? depth (text ++ more) =
      (closing? final more).map fun parts => (text ++ parts.1, parts.2) := by
  induction text generalizing depth with
  | nil =>
    cases within
    simp
  | cons character rest induction =>
    obtain ⟨next, behind, later⟩ := Option.bind_eq_some_iff.1 within
    rw [List.cons_append, closing?, behind]
    simp [induction later, Function.comp_def]

/-- A text that closes a brace too many ends the reference at that brace. -/
theorem closing?_append_of_depthAfter?_eq_none
    {depth : Nat} {text : List Char} (more : List Char)
    (beyond : depthAfter? depth text = none) :
    ∃ inside after, closing? depth (text ++ more) = some (inside, after ++ more) := by
  induction text generalizing depth with
  | nil => cases beyond
  | cons character rest induction =>
    rw [List.cons_append]
    unfold closing?
    cases behind : depthBehind? depth character with
    | none => exact ⟨[], rest, rfl⟩
    | some next =>
      have later : depthAfter? next rest = none := by
        simpa [depthAfter?, behind] using beyond
      obtain ⟨inside, after, cut⟩ := induction later
      exact ⟨character :: inside, after, by simp [cut]⟩

/-! ## References -/

theorem isVariableChar_of_variableName
    {name : String} (valid : Naming.variableName name = .ok ()) :
    ∀ character ∈ name.toList, Naming.isVariableChar character = true := by
  unfold Naming.variableName at valid
  split at valid
  · cases valid
  · rename_i first rest spelled
    split at valid
    · cases valid
    · split at valid
      · cases valid
      · rename_i none_
        simpa [spelled] using none_

theorem depthAfter?_of_variableName
    {name : String} (valid : Naming.variableName name = .ok ()) (depth : Nat) :
    depthAfter? depth name.toList = some depth := by
  have each := isVariableChar_of_variableName valid
  generalize name.toList = characters at each
  induction characters with
  | nil => rfl
  | cons character rest induction =>
    obtain ⟨now, later⟩ := List.forall_mem_cons.1 each
    have plain : depthBehind? depth character = some depth := by
      unfold depthBehind?
      rw [if_neg, if_neg]
      · rintro rfl
        exact absurd now (by decide)
      · rintro rfl
        exact absurd now (by decide)
    simp [depthAfter?, plain, induction later]

/-- The name in a reference is read as it is written. -/
theorem reference?_append
    {name : String} (valid : Naming.variableName name = .ok ()) (text : List Char) :
    reference? (name.toList ++ ':' :: '-' :: text) = some (.optional name text) ∧
      reference? (name.toList ++ ':' :: '?' :: text) = some (.required name) := by
  have each := isVariableChar_of_variableName valid
  have colon : Naming.isVariableChar ':' = false := by decide
  simp [reference?, List.takeWhile_append_of_pos each, List.dropWhile_append_of_pos each, colon,
    valid]

/-- Only proper names of variables occur in references. -/
theorem variableName_of_part?
    {first : Char} {rest after : List Char} {part : Part}
    (begins : part? first rest = some (part, after)) :
    (∀ {name fallback}, part = .optional name fallback → Naming.variableName name = .ok ()) ∧
      ∀ {name}, part = .required name → Naming.variableName name = .ok () := by
  obtain ⟨rfl, -⟩ | ⟨inside, refers, -⟩ := part?_cases begins
  · simp
  · obtain ⟨name, valid, ⟨_, rfl, -⟩ | ⟨_, rfl, -⟩⟩ := reference?_cases refers
    · simpa using valid
    · simpa using valid

/-- What a text means depends on the proper names of variables only. -/
theorem interpolate_congr
    {former latter : Environment}
    (same : ∀ name, Naming.variableName name = .ok () → former name = latter name)
    (text : List Char) : interpolate former text = interpolate latter text := by
  have supplies : ∀ name, Naming.variableName name = .ok () →
      supplied? former name = supplied? latter name := fun name valid => by
    rw [supplied?, supplied?, same name valid]
  induction text using interpolate.induct with
  | case1 => simp [interpolate]
  | case2 first rest none_ =>
    rw [interpolate_of_part?_eq_none none_, interpolate_of_part?_eq_none none_]
  | case3 first rest character after begins induction =>
    rw [interpolate_of_literal begins, interpolate_of_literal begins, induction]
  | case4 first rest name fallback after begins inner induction =>
    rw [interpolate_of_optional begins, interpolate_of_optional begins, inner, induction,
      supplies name ((variableName_of_part? begins).1 rfl)]
  | case5 first rest name after begins induction =>
    rw [interpolate_of_required begins, interpolate_of_required begins, induction,
      supplies name ((variableName_of_part? begins).2 rfl)]

theorem toList_ne_nil_of_supplied?
    {environment : Environment} {name value : String}
    (supplied : supplied? environment name = some value) : value.toList ≠ [] := by
  have filtered := (Option.filter_eq_some_iff.1 supplied).2
  intro empty
  rw [String.toList_eq_nil_iff.1 empty] at filtered
  exact absurd filtered (by decide)

/-- If all variables have values, only the empty text means the empty text. -/
theorem eq_nil_of_interpolate_eq_nil
    {environment : Environment}
    (full : ∀ name, ∃ value, supplied? environment name = some value)
    {text : List Char} (nothing : interpolate environment text = some []) : text = [] := by
  cases text with
  | nil => rfl
  | cons first rest =>
    cases begins : part? first rest with
    | none => simp [interpolate_of_part?_eq_none begins] at nothing
    | some cut =>
      rcases cut with ⟨character | ⟨name, fallback⟩ | name, after⟩
      · simp [interpolate_of_literal begins] at nothing
      · obtain ⟨value, supplied⟩ := full name
        have := toList_ne_nil_of_supplied? supplied
        simp_all [interpolate_of_optional begins]
      · obtain ⟨value, supplied⟩ := full name
        have := toList_ne_nil_of_supplied? supplied
        simp_all [interpolate_of_required begins]

end Convoy.Compose
