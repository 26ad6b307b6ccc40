import Convoy.Shell
import Convoy.Proofs.Outcome
import Mathlib.Data.List.Basic

/-!
# Texts that a shell leaves alone

A shell that reads a text within a word gives every character back as it is, exactly if it has no
special meaning for any of them. One half follows the reader through such a text. The other half
rests on what every step keeps: complete words stay as they are, and a character that the words hold
as literal text has been read as often.
-/

namespace Convoy.Shell

/-! ## Characters without a meaning -/

/-- Whether a character stands for itself in a word that has begun. -/
def isOrdinary (character : Char) : Bool :=
  !([' ', '\t', '\n', '\'', '"', '\\', '$', '`'].contains character ||
    Reader.isOperator character || Reader.isSpecial character)

/-- Whether a character behind a dollar begins an expansion. -/
def opensExpansion (character : Char) : Bool :=
  character == '\x7b' || character == '(' || Reader.isNameStart character ||
    Reader.isSign character

/-- A text that means itself in a word that has begun. -/
structure Verbatim (text : List Char) : Prop where
  ordinary : ∀ character ∈ text, character = '$' ∨ isOrdinary character = true
  inert : text.IsChain fun character following =>
    character = '$' → opensExpansion following = false

theorem verbatim_cons {character : Char} {text : List Char} :
    Verbatim (character :: text) ↔
      (character = '$' ∨ isOrdinary character = true) ∧
        (character = '$' → ∀ following ∈ text.head?, opensExpansion following = false) ∧
        Verbatim text := by
  constructor
  · rintro ⟨ordinary, inert⟩
    rw [List.forall_mem_cons] at ordinary
    cases text with
    | nil => exact ⟨ordinary.1, by simp, ordinary.2, .nil⟩
    | cons following later =>
      obtain ⟨closed, onward⟩ := List.isChain_cons_cons.1 inert
      exact ⟨ordinary.1, fun dollar other same => Option.some.inj same ▸ closed dollar,
        ordinary.2, onward⟩
  · rintro ⟨first, closed, ordinary, inert⟩
    refine ⟨List.forall_mem_cons.2 ⟨first, ordinary⟩, ?_⟩
    cases text with
    | nil => exact .singleton character
    | cons following later =>
      exact List.isChain_cons_cons.2 ⟨fun dollar => closed dollar following rfl, inert⟩

/-- The same as a test. -/
def isVerbatim : List Char → Bool
  | [] => true
  | character :: rest =>
    (if character == '$' then rest.head?.all (!opensExpansion ·) else isOrdinary character) &&
      isVerbatim rest

theorem isVerbatim_iff {text : List Char} : isVerbatim text = true ↔ Verbatim text := by
  induction text with
  | nil => exact ⟨fun _ => ⟨by simp, .nil⟩, fun _ => rfl⟩
  | cons character rest induction =>
    rw [isVerbatim, Bool.and_eq_true, induction, verbatim_cons, ← and_assoc]
    refine and_congr_left fun _ => ?_
    by_cases dollar : character = '$' <;> simp [dollar, Option.all_eq_true]

instance (text : List Char) : Decidable (Verbatim text) := decidable_of_iff _ isVerbatim_iff

/-- The characters for which a shell has a meaning, although they end no word. -/
def isMark (character : Char) : Bool :=
  ['\'', '"', '\\', '$', '*', '?', '['].contains character

/-! ## Words -/

namespace Piece

/-- The characters of a piece that stand for themselves. -/
def letters : Piece → List Char
  | literal text => text.toList
  | _ => []

end Piece

namespace Token

def word? : Token → Option (List Piece)
  | word pieces => some pieces
  | operator _ => none

end Token

/-- The words among some tokens. -/
def wordsOf (tokens : List Token) : List (List Piece) := tokens.filterMap Token.word?

/-- How often a character stands for itself in some words. -/
def occurrences (kind : Char) (words : List (List Piece)) : Nat :=
  (words.flatten.flatMap Piece.letters).count kind

@[simp]
theorem wordsOf_nil : wordsOf [] = [] := rfl

@[simp]
theorem wordsOf_word (pieces : List Piece) (rest : List Token) :
    wordsOf (.word pieces :: rest) = pieces :: wordsOf rest := rfl

@[simp]
theorem wordsOf_operator (symbol : String) (rest : List Token) :
    wordsOf (.operator symbol :: rest) = wordsOf rest := rfl

theorem occurrences_append (kind : Char) (first second : List (List Piece)) :
    occurrences kind (first ++ second) = occurrences kind first + occurrences kind second := by
  simp [occurrences]

/-- The order of words and of their pieces does not matter. -/
theorem occurrences_perm {kind : Char} {first second : List (List Piece)}
    (same : first.flatten.Perm second.flatten) :
    occurrences kind first = occurrences kind second :=
  (same.flatMap_right Piece.letters).count_eq kind

/-- The commands of a list have all the words of its text, in order. -/
theorem words_of_commandsFrom {connector : Connector} {begun : List (List Piece)}
    {tokens : List Token} {commands : List Command}
    (reads : commandsFrom connector begun tokens = some commands) :
    commands.flatMap (·.words) = begun.reverse ++ wordsOf tokens := by
  induction tokens generalizing connector begun commands with
  | nil =>
    unfold commandsFrom at reads
    split at reads
    · rename_i none
      split at reads
      · cases reads
        simp [List.isEmpty_iff.1 none]
      · cases reads
    · cases reads
      simp
  | cons token rest induction =>
    cases token with
    | word pieces =>
      rw [induction reads]
      simp
    | operator symbol =>
      unfold commandsFrom at reads
      dsimp only at reads
      split at reads
      · cases reads
      · split at reads
        · rename_i none
          split at reads
          · rw [induction reads]
            simp [List.isEmpty_iff.1 none]
          · cases reads
        · obtain ⟨later, found, rfl⟩ := Option.map_eq_some_iff.1 reads
          simp [induction found]

theorem words_of_commands {text : String} {commands : List Command}
    (reads : Shell.commands text = some commands) :
    ∃ tokens, read text = .ok tokens ∧ commands.flatMap (·.words) = wordsOf tokens := by
  unfold Shell.commands at reads
  split at reads
  · rename_i tokens found
    exact ⟨tokens, found, words_of_commandsFrom reads⟩
  · cases reads

namespace Reader

variable {reader next : Reader} {character kind : Char} {text : List Char} {tokens : List Token}

/-! ## What every step keeps -/

/-- How often a character stands for itself in what has been read. -/
def weight (kind : Char) (reader : Reader) : Nat :=
  occurrences kind (reader.word.getD [] :: wordsOf reader.tokens)

/-- Whether a character has been read of which it is not decided what it stands for. -/
def pending (kind : Char) : Mode → Nat
  | .escape _ => if kind = '\\' then 1 else 0
  | .dollar _ => if kind = '$' then 1 else 0
  | _ => 0

/-- What is read next: complete tokens stay, and a character stands for itself no more often than
before, apart from a number of new occurrences. -/
structure Advances (kind : Char) (gain : Nat) (reader next : Reader) : Prop where
  tokens : reader.tokens <:+ next.tokens
  weight : next.weight kind + pending kind next.mode ≤ reader.weight kind + gain

/-- How much reading a character can add to its own occurrences. -/
def gain (kind character : Char) : Nat := if character = kind then 1 else 0

theorem weight_piece (reader : Reader) (piece : Piece) :
    (reader.piece piece).weight kind = reader.weight kind + piece.letters.count kind := by
  simp [weight, occurrences, Reader.piece, Nat.add_comm]

theorem weight_text (reader : Reader) (added : String) :
    (reader.text added).weight kind = reader.weight kind + added.toList.count kind := by
  unfold Reader.text
  split
  · rename_i before rest same
    simp [weight, occurrences, same, Piece.letters, Nat.add_comm, Nat.add_left_comm]
  · exact weight_piece reader _

@[simp]
theorem tokens_text (reader : Reader) (added : String) :
    (reader.text added).tokens = reader.tokens := by
  unfold Reader.text
  split <;> rfl

theorem weight_character (reader : Reader) (character : Char) :
    (reader.character character).weight kind = reader.weight kind + gain kind character := by
  rw [Reader.character, weight_text]
  by_cases same : character = kind <;> simp [gain, same]

@[simp]
theorem tokens_character (reader : Reader) (character : Char) :
    (reader.character character).tokens = reader.tokens :=
  tokens_text reader _

@[simp]
theorem mode_character (reader : Reader) (character : Char) :
    (reader.character character).mode = reader.mode := by
  unfold Reader.character Reader.text
  split <;> rfl

@[simp]
theorem weight_endWord (reader : Reader) :
    reader.endWord.weight kind = reader.weight kind := by
  unfold Reader.endWord
  split
  · rfl
  · rename_i pieces found
    rw [weight, weight, found]
    apply occurrences_perm
    simpa using (List.reverse_perm pieces).append_right _

theorem tokens_endWord (reader : Reader) : reader.tokens <:+ reader.endWord.tokens := by
  unfold Reader.endWord
  split
  · exact List.suffix_refl _
  · exact List.suffix_cons _ _

@[simp]
theorem weight_mode (reader : Reader) (mode : Mode) :
    weight kind { reader with mode := mode } = reader.weight kind := rfl

@[simp]
theorem weight_symbol (reader : Reader) (symbol : String) :
    (reader.symbol symbol).weight kind = reader.weight kind := rfl

theorem tokens_symbol (reader : Reader) (symbol : String) :
    reader.tokens <:+ (reader.symbol symbol).tokens := List.suffix_cons _ _

@[simp]
theorem weight_parameter (reader : Reader) (quoted : Bool) (letters : List Char) :
    (reader.parameter quoted letters).weight kind = reader.weight kind := by
  rw [Reader.parameter, weight_mode, weight_piece]
  rfl

theorem pending_base (quoted : Bool) : pending kind (base quoted) = 0 := by
  cases quoted <;> rfl

/-- A change of the mode behind another one. -/
theorem Advances.enter (between : Reader) {mode : Mode} {amount : Nat}
    (tokens : reader.tokens <:+ between.tokens)
    (le : between.weight kind + pending kind mode ≤ reader.weight kind + amount) :
    Advances kind amount reader { between with mode := mode } :=
  ⟨tokens, le⟩

/-- A change of the mode alone. -/
theorem Advances.mode (reader : Reader) {mode : Mode} {amount : Nat}
    (le : pending kind mode ≤ amount) :
    Advances kind amount reader { reader with mode := mode } :=
  .enter _ (List.suffix_refl _) (Nat.add_le_add_left le _)

/-- A step behind another one that adds a known number. -/
theorem Advances.after {between : Reader} {before amount : Nat}
    (advances : Advances kind amount between next) (tokens : reader.tokens <:+ between.tokens)
    (weight : between.weight kind = reader.weight kind + before) :
    Advances kind (before + amount) reader next :=
  ⟨tokens.trans advances.tokens, by
    simpa [weight, Nat.add_assoc] using advances.weight⟩

theorem pending_escape (quoted : Bool) : pending kind (.escape quoted) = gain kind '\\' := by
  simp [pending, gain, eq_comm]

theorem pending_dollar (quoted : Bool) : pending kind (.dollar quoted) = gain kind '$' := by
  simp [pending, gain, eq_comm]

theorem Advances.plain (reads : reader.plain character = .ok next) :
    Advances kind (gain kind character) reader next := by
  unfold Reader.plain at reads
  -- The branches are taken off one after another, since splitting such a term takes long.
  obtain ⟨blank, ⟨⟩⟩ | ⟨-, reads⟩ := ite_eq_iff.1 reads
  · exact .enter _ (tokens_endWord reader) (by simp [pending])
  obtain ⟨newline, ⟨⟩⟩ | ⟨-, reads⟩ := ite_eq_iff.1 reads
  · exact .enter (reader.endWord.symbol "\n")
      ((tokens_endWord reader).trans (tokens_symbol _ _)) (by simp [pending])
  obtain ⟨single, ⟨⟩⟩ | ⟨-, reads⟩ := ite_eq_iff.1 reads
  · exact .enter _ (by simp) (by simp [pending, weight_text])
  obtain ⟨double, ⟨⟩⟩ | ⟨-, reads⟩ := ite_eq_iff.1 reads
  · exact .enter _ (by simp) (by simp [pending, weight_text])
  obtain ⟨escape, ⟨⟩⟩ | ⟨-, reads⟩ := ite_eq_iff.1 reads
  · rw [beq_iff_eq.1 escape]
    exact .mode reader (Nat.le_of_eq (pending_escape false))
  obtain ⟨dollar, ⟨⟩⟩ | ⟨-, reads⟩ := ite_eq_iff.1 reads
  · rw [beq_iff_eq.1 dollar]
    exact .mode reader (Nat.le_of_eq (pending_dollar false))
  obtain ⟨command, ⟨⟩⟩ | ⟨-, reads⟩ := ite_eq_iff.1 reads
  obtain ⟨comment, ⟨⟩⟩ | ⟨-, reads⟩ := ite_eq_iff.1 reads
  · exact .mode reader (Nat.zero_le _)
  obtain ⟨operator, ⟨⟩⟩ | ⟨-, reads⟩ := ite_eq_iff.1 reads
  · exact .enter _ (tokens_endWord reader) (by simp [pending])
  obtain ⟨special, ⟨⟩⟩ | ⟨-, ⟨⟩⟩ := ite_eq_iff.1 reads
  · exact .enter _ (List.suffix_refl _) (by simp [pending, weight_piece, Piece.letters])
  · exact .enter _ (by simp) (by simp [pending, weight_character])

theorem Advances.double (reads : reader.double character = .ok next) :
    Advances kind (gain kind character) reader next := by
  unfold Reader.double at reads
  split_ifs at reads with close escape dollar <;> cases reads
  · exact .mode reader (Nat.zero_le _)
  · rw [beq_iff_eq.1 escape]
    exact .mode reader (Nat.le_of_eq (pending_escape true))
  · rw [beq_iff_eq.1 dollar]
    exact .mode reader (Nat.le_of_eq (pending_dollar true))
  · exact .enter _ (by simp) (by simp [pending, weight_character])

theorem Advances.anywhere {quoted : Bool} (reads : reader.anywhere quoted character = .ok next) :
    Advances kind (gain kind character) reader next := by
  cases quoted
  · exact .plain reads
  · exact .double reads

/-- A backslash stands for itself behind another one, and within quotes also where it has no
meaning. -/
theorem Advances.escaped (reader : Reader) (quoted : Bool) (character : Char) :
    Advances kind (pending kind (.escape quoted) + gain kind character) reader
      (reader.escaped quoted character) := by
  unfold Reader.escaped
  dsimp only
  split_ifs with newline kept
  · exact .mode reader (by simp [pending_base])
  · refine ⟨by simp, ?_⟩
    simp [weight_character, pending_escape, pending_base, Nat.add_assoc]
  · refine ⟨by simp, ?_⟩
    simp [weight_character, pending_base]

theorem Advances.afterDollar {quoted : Bool}
    (reads : reader.afterDollar quoted character = .ok next) :
    Advances kind (pending kind (.dollar quoted) + gain kind character) reader next := by
  unfold Reader.afterDollar at reads
  split_ifs at reads with brace opens name sign
  · cases reads
    exact .mode reader (Nat.zero_le _)
  · cases reads
    exact .mode reader (Nat.zero_le _)
  · cases reads
    exact .enter _ (List.suffix_refl _) (by simp [pending_base, weight_piece, Piece.letters])
  · rw [pending_dollar]
    exact (Advances.anywhere reads).after (by simp) (weight_character reader '$')

/-- One character adds to its own occurrences alone, and at most one, apart from those that were
undecided. -/
theorem Advances.step (kind : Char) (reads : reader.step character = .ok next) :
    Advances kind (pending kind reader.mode + gain kind character) reader next := by
  unfold Reader.step at reads
  split at reads <;> rename_i mode <;> rw [mode]
  · simpa [pending] using Advances.plain reads
  · split at reads <;> cases reads
    · exact .mode reader (Nat.zero_le _)
    · exact ⟨by simp, by simp [weight_character, mode, pending]⟩
  · simpa [pending] using Advances.double reads
  · cases reads
    exact .escaped reader _ character
  · split at reads <;> cases reads
    · exact .enter (reader.symbol "\n") (tokens_symbol _ _) (by simp [pending])
    · exact ⟨List.suffix_refl _, by simp [mode, pending]⟩
  · exact .afterDollar reads
  · split at reads
    · cases reads
      exact .mode reader (Nat.zero_le _)
    · exact (Advances.anywhere reads).after (List.suffix_refl _) (weight_parameter reader _ _)
  · split_ifs at reads with close within <;> cases reads
    · exact .enter (reader.parameter _ _) (List.suffix_refl _) (by simp [pending_base])
    · exact .mode reader (Nat.zero_le _)
  · split at reads
    · cases reads
      exact .enter (reader.symbol _) (tokens_symbol _ _) (by simp [pending])
    · exact (Advances.plain reads).after (tokens_symbol _ _) (weight_symbol reader _)

/-- A whole text adds to the occurrences of a character no more than it has. -/
theorem Advances.run (kind : Char) {text : List Char}
    (reads : text.foldlM Reader.step reader = .ok next) :
    Advances kind (pending kind reader.mode + text.count kind) reader next := by
  induction text generalizing reader with
  | nil =>
    cases reads
    exact ⟨List.suffix_refl _, by simp⟩
  | cons character rest induction =>
    rw [List.foldlM_cons] at reads
    obtain ⟨between, stepped, later⟩ := Outcome.bind_eq_ok_iff.1 reads
    have first := Advances.step kind stepped
    have second := induction later
    refine ⟨first.tokens.trans second.tokens, ?_⟩
    have counted : (character :: rest).count kind = gain kind character + rest.count kind := by
      simp [List.count_cons, gain, Nat.add_comm]
    rw [counted]
    have := first.weight
    have := second.weight
    omega

theorem occurrences_wordsOf_reverse (tokens : List Token) :
    occurrences kind (wordsOf tokens.reverse) = occurrences kind (wordsOf tokens) := by
  rw [wordsOf, List.filterMap_reverse]
  exact occurrences_perm (List.reverse_perm _).flatten

theorem occurrences_tokens_le (reader : Reader) :
    occurrences kind (wordsOf reader.tokens) ≤ reader.weight kind := by
  rw [weight, ← List.singleton_append, occurrences_append]
  exact Nat.le_add_left _ _

/-- The tokens of a text begin with those that are complete, and its words hold a character no more
often than it has been read. -/
theorem finish_spec (kind : Char) (finishes : reader.finish = .ok tokens) :
    reader.tokens.reverse <+: tokens ∧
      occurrences kind (wordsOf tokens) ≤ reader.weight kind + pending kind reader.mode := by
  have closes : ∀ closed : Reader, reader.tokens <:+ closed.tokens →
      closed.weight kind ≤ reader.weight kind + pending kind reader.mode →
      reader.tokens.reverse <+: closed.tokens.reverse ∧
        occurrences kind (wordsOf closed.tokens.reverse) ≤
          reader.weight kind + pending kind reader.mode := by
    intro closed kept le
    refine ⟨List.reverse_prefix.2 kept, ?_⟩
    rw [occurrences_wordsOf_reverse]
    exact Nat.le_trans (occurrences_tokens_le closed) le
  unfold finish at finishes
  split at finishes <;> cases finishes <;> rename_i mode
  · refine closes (reader.character '\\').endWord ?_ ?_
    · simpa using tokens_endWord (reader.character '\\')
    · simp [weight_character, mode, pending_escape]
  · refine closes (reader.character '$').endWord ?_ ?_
    · simpa using tokens_endWord (reader.character '$')
    · simp [weight_character, mode, pending_dollar]
  · exact closes (reader.parameter false _).endWord (tokens_endWord (reader.parameter false _))
      (by simp)
  · exact closes (reader.symbol _) (tokens_symbol _ _) (by simp)
  · exact closes reader.endWord (tokens_endWord _) (by simp)
  · exact closes reader.endWord (tokens_endWord _) (by simp)

/-! ## Texts that mean themselves -/

/-- A reader in a word that means itself so far. -/
def inWord (tokens : List Token) (word : List Char) : Reader :=
  ⟨.plain, some [.literal (String.ofList word)], tokens⟩

theorem inWord_character (tokens : List Token) (word : List Char) (character : Char) :
    (inWord tokens word).character character = inWord tokens (word ++ [character]) := by
  simp [inWord, Reader.character, Reader.text, String.ofList_append]

theorem weight_inWord (tokens : List Token) (word : List Char) :
    (inWord tokens word).weight kind = word.count kind + occurrences kind (wordsOf tokens) := by
  simp [weight, inWord, occurrences, Piece.letters]

theorem step_inWord_of_isOrdinary {word : List Char} (ordinary : isOrdinary character = true) :
    (inWord tokens word).step character = .ok (inWord tokens (word ++ [character])) := by
  rw [← inWord_character]
  simp only [isOrdinary, List.contains_cons, List.contains_nil, Bool.not_eq_true',
    Bool.or_eq_false_iff] at ordinary
  simp [step, inWord, Reader.plain, ordinary, Reader.character, Reader.text]

theorem foldlM_of_isOrdinary {text word : List Char}
    (ordinary : ∀ character ∈ text, isOrdinary character = true) :
    text.foldlM step (inWord tokens word) = .ok (inWord tokens (word ++ text)) := by
  induction text generalizing word with
  | nil => simp [pure, Except.pure]
  | cons character later induction =>
    obtain ⟨first, onward⟩ := List.forall_mem_cons.1 ordinary
    rw [List.foldlM_cons, step_inWord_of_isOrdinary first, List.append_cons word character later]
    exact induction onward

/-- A dollar before a character that begins no expansion stands for itself. -/
theorem foldlM_dollar {following : Char} {rest word : List Char}
    (closed : opensExpansion following = false) :
    ('$' :: following :: rest).foldlM step (inWord tokens word) =
      (following :: rest).foldlM step (inWord tokens (word ++ ['$'])) := by
  simp only [opensExpansion, Bool.or_eq_false_iff] at closed
  have resumed : afterDollar { inWord tokens word with mode := .dollar false } false following =
      (inWord tokens (word ++ ['$'])).step following := by
    simp only [afterDollar, closed]
    rw [← inWord_character]
    rfl
  rw [List.foldlM_cons, List.foldlM_cons, ← resumed]
  rfl

theorem foldlM_verbatim {text rest word : List Char} (verbatim : Verbatim text) :
    (text ++ ' ' :: rest).foldlM step (inWord tokens word) =
      (' ' :: rest).foldlM step (inWord tokens (word ++ text)) := by
  induction text generalizing word with
  | nil => simp
  | cons character later induction =>
    obtain ⟨ordinary, inert, onward⟩ := verbatim_cons.1 verbatim
    have stepped : (character :: (later ++ ' ' :: rest)).foldlM step (inWord tokens word) =
        (later ++ ' ' :: rest).foldlM step (inWord tokens (word ++ [character])) := by
      rcases ordinary with rfl | ordinary
      · cases later with
        | nil => exact foldlM_dollar rfl
        | cons following _ => exact foldlM_dollar (inert rfl following rfl)
      · rw [List.foldlM_cons, step_inWord_of_isOrdinary ordinary]
        rfl
    rw [List.cons_append, stepped, induction onward, List.append_assoc]
    rfl

/-! ## Texts that do not -/

/-- Whether reading on gives some words before any others. -/
def Yields (reader : Reader) (text : List Char) (words : List (List Piece)) : Prop :=
  ∃ tokens later, text.foldlM step reader >>= finish = .ok tokens ∧
    wordsOf tokens = words ++ later

variable {words : List (List Piece)} {word rest : List Char}

theorem Yields.step (yields : Yields reader (character :: text) words) :
    ∃ next, reader.step character = .ok next ∧ Yields next text words := by
  obtain ⟨tokens, later, reads, same⟩ := yields
  rw [List.foldlM_cons, bind_assoc] at reads
  obtain ⟨next, stepped, onward⟩ := Outcome.bind_eq_ok_iff.1 reads
  exact ⟨next, stepped, tokens, later, onward, same⟩

/-- The words that are complete come first. -/
theorem Yields.exists_isPrefix (yields : Yields reader text words) :
    ∃ later, wordsOf reader.tokens.reverse <+: words ++ later := by
  obtain ⟨tokens, later, reads, same⟩ := yields
  obtain ⟨final, run, finishes⟩ := Outcome.bind_eq_ok_iff.1 reads
  have kept := List.reverse_prefix.2 (Advances.run ' ' run).tokens
  refine ⟨later, ?_⟩
  rw [← same]
  exact (kept.trans (finish_spec ' ' finishes).1).filterMap _

theorem Yields.occurrences_le (yields : Yields reader text words) (kind : Char) :
    occurrences kind words ≤
      reader.weight kind + pending kind reader.mode + text.count kind := by
  obtain ⟨tokens, later, reads, same⟩ := yields
  obtain ⟨final, run, finishes⟩ := Outcome.bind_eq_ok_iff.1 reads
  have held := (finish_spec kind finishes).2
  have bounded := (Advances.run kind run).weight
  rw [same, occurrences_append] at held
  omega

/-- The words of a text that means itself behind a word that has begun. -/
def wholeWord (tokens : List Token) (word : List Char) : List (List Piece) :=
  wordsOf tokens.reverse ++ [[.literal (String.ofList word)]]

theorem occurrences_wholeWord (tokens : List Token) (word : List Char) :
    occurrences kind (wholeWord tokens word) = (inWord tokens word).weight kind := by
  rw [wholeWord, occurrences_append, occurrences_wordsOf_reverse, weight_inWord, Nat.add_comm]
  simp [occurrences, Piece.letters]

/-- A character that has been read without standing for itself is missing in the end. -/
theorem not_yields_of_lost (text consumed : List Char) {remaining : List Char} {amount : Nat}
    (advances : Advances kind amount (inWord tokens word) reader)
    (parts : text ++ ' ' :: rest = consumed ++ remaining) (lost : amount < consumed.count kind)
    (mark : isMark kind = true) (unmarked : ∀ character ∈ rest, isMark character = false) :
    ¬Yields reader remaining (wholeWord tokens (word ++ text)) := by
  intro yields
  have blank : ¬ ' ' = kind := by
    rintro rfl
    exact absurd mark (by decide)
  have none : rest.count kind = 0 :=
    List.count_eq_zero.2 fun mem => by simp [unmarked kind mem] at mark
  have counted := congrArg (List.count kind) parts
  have held := yields.occurrences_le kind
  have read := advances.weight
  rw [occurrences_wholeWord] at held
  rw [weight_inWord] at held read
  simp only [List.count_append, List.count_cons, beq_iff_eq, blank, if_false, none] at held counted
  omega

/-- A word that has ended too early stays. -/
theorem not_yields_of_ended
    (ended : .word [.literal (String.ofList word)] :: tokens <:+ reader.tokens)
    (more : text ≠ []) : ¬Yields reader rest (wholeWord tokens (word ++ text)) := by
  intro yields
  obtain ⟨later, kept⟩ := yields.exists_isPrefix
  have begun := (List.reverse_prefix.2 ended).filterMap Token.word?
  obtain ⟨_, same⟩ := begun.trans kept
  rw [List.reverse_cons, List.filterMap_append, wholeWord] at same
  simp only [wordsOf, List.filterMap_cons, List.filterMap_nil, Token.word?, List.append_assoc,
    List.append_cancel_left_eq, List.cons_append, List.cons.injEq, Piece.literal.injEq,
    String.ofList_inj, List.self_eq_append_right] at same
  exact more same.1.1

theorem step_inWord_of_ends (tokens : List Token) (word : List Char)
    (ends : character ∈ [' ', '\t', '\n'] ∨ isOperator character = true) :
    ∃ next, (inWord tokens word).step character = .ok next ∧
      .word [.literal (String.ofList word)] :: tokens <:+ next.tokens := by
  rcases ends with blank | operator
  · simp only [List.mem_cons, List.not_mem_nil, or_false] at blank
    rcases blank with rfl | rfl | rfl
    · exact ⟨_, rfl, [], rfl⟩
    · exact ⟨_, rfl, [], rfl⟩
    · exact ⟨_, rfl, [.operator "\n"], rfl⟩
  · simp only [isOperator, List.contains_eq_mem, decide_eq_true_eq, List.mem_cons,
      List.not_mem_nil, or_false] at operator
    rcases operator with rfl | rfl | rfl | rfl | rfl | rfl | rfl <;> exact ⟨_, rfl, [], rfl⟩

theorem step_inWord_of_quote (kind : Char) (tokens : List Token) (word : List Char)
    (quote : character = '\'' ∨ character = '"') :
    ∃ next, (inWord tokens word).step character = .ok next ∧
      Advances kind 0 (inWord tokens word) next := by
  rcases quote with rfl | rfl <;>
    exact ⟨_, rfl, .enter ((inWord tokens word).text "") (by simp)
      (Nat.le_of_eq (weight_text _ _))⟩

theorem step_inWord_of_isSpecial (kind : Char) (tokens : List Token) (word : List Char)
    (special : isSpecial character = true) :
    ∃ next, (inWord tokens word).step character = .ok next ∧
      Advances kind 0 (inWord tokens word) next := by
  simp only [isSpecial, List.contains_eq_mem, decide_eq_true_eq, List.mem_cons,
    List.not_mem_nil, or_false] at special
  rcases special with rfl | rfl | rfl <;>
    exact ⟨_, rfl, .enter ((inWord tokens word).piece (.special _))
      (List.suffix_refl _) (Nat.le_of_eq (weight_piece _ _))⟩

/-- Outside quotes a backslash never stands for itself. -/
theorem Advances.escaped_plain (reader : Reader) (character : Char) :
    Advances kind (gain kind character) reader (reader.escaped false character) := by
  unfold Reader.escaped
  dsimp only
  split_ifs with newline quoted
  · exact .mode reader (Nat.zero_le _)
  · cases quoted
  · exact ⟨by simp, by simp [weight_character, base, pending]⟩

/-- A dollar that begins an expansion does not stand for itself. -/
theorem Advances.expansion {quoted : Bool} (opens : opensExpansion character = true)
    (reads : reader.afterDollar quoted character = .ok next) :
    Advances kind 0 reader next := by
  unfold Reader.afterDollar at reads
  split_ifs at reads with brace command name sign
  · cases reads
    exact .mode reader (Nat.zero_le _)
  · cases reads
    exact .mode reader (Nat.zero_le _)
  · cases reads
    exact .enter (reader.parameter _ _) (List.suffix_refl _) (by simp [pending_base])
  · simp [opensExpansion, brace, command, name, sign] at opens

theorem count_pair_pos (first second : Char) :
    gain first second < [first, second].count first := by
  simp [List.count_cons, gain]

/-- A word that has begun does not go on as it is with a character that has a meaning. -/
theorem not_yields_of_meaning (meaning : isOrdinary character = false) (dollar : character ≠ '$')
    (unmarked : ∀ character ∈ rest, isMark character = false) :
    ¬Yields (inWord tokens word) (character :: (text ++ ' ' :: rest))
      (wholeWord tokens (word ++ character :: text)) := by
  intro yields
  obtain ⟨next, stepped, onward⟩ := yields.step
  have kinds : (character ∈ [' ', '\t', '\n'] ∨ isOperator character = true) ∨
      (character = '\'' ∨ character = '"') ∨ isSpecial character = true ∨
      character = '\\' ∨ character = '`' := by
    simp only [isOrdinary, List.contains_eq_mem, List.mem_cons, List.not_mem_nil,
      Bool.not_eq_false', Bool.or_eq_true, decide_eq_true_eq, dollar] at meaning ⊢
    tauto
  rcases kinds with ends | quote | special | rfl | rfl
  · obtain ⟨_, same, ended⟩ := step_inWord_of_ends tokens word ends
    cases stepped.symm.trans same
    exact not_yields_of_ended ended (List.cons_ne_nil _ _) onward
  · obtain ⟨_, same, advances⟩ := step_inWord_of_quote character tokens word quote
    cases stepped.symm.trans same
    have mark : isMark character = true := by
      rcases quote with rfl | rfl <;> rfl
    exact not_yields_of_lost (character :: text) [character] advances rfl
      (by simp) mark unmarked onward
  · obtain ⟨_, same, advances⟩ := step_inWord_of_isSpecial character tokens word special
    cases stepped.symm.trans same
    have mark : isMark character = true := by
      simp [isSpecial] at special
      simp [isMark, special]
    exact not_yields_of_lost (character :: text) [character] advances rfl
      (by simp) mark unmarked onward
  · cases stepped
    obtain ⟨following, remaining, same⟩ : ∃ following remaining,
        text ++ ' ' :: rest = following :: remaining := by
      cases text <;> simp
    rw [same] at onward
    obtain ⟨between, stepped, onward⟩ := onward.step
    cases stepped
    exact not_yields_of_lost ('\\' :: text) ['\\', following] (Advances.escaped_plain _ following)
      (by rw [List.cons_append, same]; rfl) (count_pair_pos _ _) rfl unmarked onward
  · cases stepped

/-- A dollar is all that stands for itself before the start of an expansion. -/
theorem not_yields_of_expansion {following : Char} {remaining : List Char}
    (opens : opensExpansion following = true) (same : text ++ ' ' :: rest = following :: remaining)
    (unmarked : ∀ character ∈ rest, isMark character = false) :
    ¬Yields (inWord tokens word) ('$' :: (text ++ ' ' :: rest))
      (wholeWord tokens (word ++ '$' :: text)) := by
  intro yields
  obtain ⟨between, stepped, onward⟩ := yields.step
  cases stepped
  rw [same] at onward
  obtain ⟨next, stepped, onward⟩ := onward.step
  have advances : Advances '$' 0 (inWord tokens word) next := .expansion opens stepped
  exact not_yields_of_lost ('$' :: text) ['$', following] advances
    (by rw [List.cons_append, same]; rfl) (by simp) rfl unmarked onward

theorem verbatim_of_yields (unmarked : ∀ character ∈ rest, isMark character = false)
    (yields : Yields (inWord tokens word) (text ++ ' ' :: rest) (wholeWord tokens (word ++ text))) :
    Verbatim text := by
  induction text generalizing word with
  | nil => exact ⟨by simp, .nil⟩
  | cons character later induction =>
    have onward : Yields (inWord tokens (word ++ [character])) (later ++ ' ' :: rest)
        (wholeWord tokens (word ++ character :: later)) → Verbatim later := by
      rw [List.append_cons word character later]
      exact induction
    by_cases dollar : character = '$'
    · subst dollar
      obtain ⟨following, remaining, same, first⟩ : ∃ following remaining,
          later ++ ' ' :: rest = following :: remaining ∧
            ∀ other ∈ later.head?, other = following := by
        cases later <;> simp
      have closed : opensExpansion following = false := by
        by_contra opens
        rw [Bool.not_eq_false] at opens
        exact not_yields_of_expansion opens same unmarked yields
      refine verbatim_cons.2
        ⟨.inl rfl, fun _ other found => first other found ▸ closed, onward ?_⟩
      rw [same]
      obtain ⟨tokens, words, reads, found⟩ := yields
      rw [List.cons_append, same, foldlM_dollar closed] at reads
      exact ⟨tokens, words, reads, found⟩
    · have ordinary : isOrdinary character = true := by
        by_contra meaning
        rw [Bool.not_eq_true] at meaning
        exact not_yields_of_meaning meaning dollar unmarked yields
      refine verbatim_cons.2 ⟨.inr ordinary, fun same => absurd same dollar, onward ?_⟩
      obtain ⟨next, stepped, yields⟩ := yields.step
      rw [step_inWord_of_isOrdinary ordinary] at stepped
      cases stepped
      exact yields

end Reader

end Convoy.Shell
