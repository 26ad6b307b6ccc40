import Convoy.Error

/-!
# Shell text

How a shell takes a line apart: into words, whose quotes are resolved and in which the places are
known that it would expand, and into the operators between them. Command substitution is not
supported, and neither is any other form of expansion in braces than the plain one.
-/

namespace Convoy.Shell

/-- A part of a word. -/
inductive Piece where
  /-- Text that stands for itself. -/
  | literal (text : String)
  /-- The value of a parameter; within quotes it is not split. -/
  | parameter (name : String) (quoted : Bool)
  /-- A character that makes a shell look for file names or home directories. -/
  | special (character : Char)
  deriving DecidableEq

/-- A word or what stands between words. -/
inductive Token where
  | word (pieces : List Piece)
  | operator (symbol : String)
  deriving DecidableEq

/-- Why a text is not understood. -/
inductive ReadError where
  | unclosed
  | unsupported (character : Char)
  deriving DecidableEq

/-- What the next character belongs to. The flag tells whether it is within double quotes. -/
inductive Mode where
  | plain
  | single
  | double
  | escape (quoted : Bool)
  | comment
  | dollar (quoted : Bool)
  /-- The name of a parameter, its last character first. -/
  | name (quoted : Bool) (letters : List Char)
  | brace (quoted : Bool) (letters : List Char)
  | operator (character : Char)
  deriving DecidableEq

/-- A text that has been read up to some place. -/
structure Reader where
  mode : Mode
  /-- The pieces of the word that has begun, the last first. -/
  word : Option (List Piece)
  /-- The tokens that are complete, the last first. -/
  tokens : List Token
  deriving DecidableEq

namespace Reader

def start : Reader := ⟨.plain, none, []⟩

/-- The mode within quotes or outside. -/
def base (quoted : Bool) : Mode := if quoted then .double else .plain

/-- Adds a piece to the word, which begins if there is none. -/
def piece (reader : Reader) (piece : Piece) : Reader :=
  { reader with word := some (piece :: reader.word.getD []) }

/-- Adds text to the word. -/
def text (reader : Reader) (text : String) : Reader :=
  match reader.word with
  | some (.literal before :: rest) =>
    { reader with word := some (.literal (before ++ text) :: rest) }
  | _ => reader.piece (.literal text)

def character (reader : Reader) (character : Char) : Reader :=
  reader.text (String.singleton character)

/-- Ends the word, if one has begun. -/
def endWord (reader : Reader) : Reader :=
  match reader.word with
  | none => reader
  | some pieces =>
    { reader with word := none, tokens := .word pieces.reverse :: reader.tokens }

def symbol (reader : Reader) (symbol : String) : Reader :=
  { reader with mode := .plain, tokens := .operator symbol :: reader.tokens }

/-- Adds a parameter whose name is given in reverse. -/
def parameter (reader : Reader) (quoted : Bool) (letters : List Char) : Reader :=
  { reader.piece (.parameter (String.ofList letters.reverse) quoted) with mode := base quoted }

def isOperator (character : Char) : Bool := [';', '&', '|', '<', '>', '(', ')'].contains character

def isSpecial (character : Char) : Bool := ['*', '?', '['].contains character

def isNameStart (character : Char) : Bool := character.isAlpha || character == '_'

def isNameChar (character : Char) : Bool := character.isAlphanum || character == '_'

/-- The parameters whose name is a single character that is no letter. -/
def isSign (character : Char) : Bool :=
  character.isDigit || ['?', '$', '!', '#', '@', '*', '-'].contains character

/-- A character outside quotes. -/
def plain (reader : Reader) (character : Char) : Except ReadError Reader :=
  if character == ' ' || character == '\t' then .ok { reader.endWord with mode := .plain }
  else if character == '\n' then .ok (reader.endWord.symbol "\n")
  else if character == '\'' then .ok { reader.text "" with mode := .single }
  else if character == '"' then .ok { reader.text "" with mode := .double }
  else if character == '\\' then .ok { reader with mode := .escape false }
  else if character == '$' then .ok { reader with mode := .dollar false }
  else if character == '`' then .error (.unsupported character)
  else if character == '#' && reader.word.isNone then .ok { reader with mode := .comment }
  else if isOperator character then .ok { reader.endWord with mode := .operator character }
  else if isSpecial character || character == '~' && reader.word.isNone then
    .ok { reader.piece (.special character) with mode := .plain }
  else .ok { reader.character character with mode := .plain }

/-- A character within double quotes. -/
def double (reader : Reader) (character : Char) : Except ReadError Reader :=
  if character == '"' then .ok { reader with mode := .plain }
  else if character == '\\' then .ok { reader with mode := .escape true }
  else if character == '$' then .ok { reader with mode := .dollar true }
  else if character == '`' then .error (.unsupported character)
  else .ok { reader.character character with mode := .double }

/-- A character where no quote, name or operator is open but those around it. -/
def anywhere (reader : Reader) (quoted : Bool) (character : Char) : Except ReadError Reader :=
  if quoted then reader.double character else reader.plain character

/-- The character after a backslash. -/
def escaped (reader : Reader) (quoted : Bool) (character : Char) : Reader :=
  let resumed := { reader with mode := base quoted }
  if character == '\n' then resumed
  else if quoted && !(['$', '`', '"', '\\']).contains character then
    (resumed.character '\\').character character
  else resumed.character character

/-- The character after a dollar sign. -/
def afterDollar (reader : Reader) (quoted : Bool) (character : Char) : Except ReadError Reader :=
  if character == '\x7b' then .ok { reader with mode := .brace quoted [] }
  else if character == '(' then .error (.unsupported character)
  else if isNameStart character then .ok { reader with mode := .name quoted [character] }
  else if isSign character then .ok (reader.parameter quoted [character])
  else (reader.character '$').anywhere quoted character

/-- Reads one more character. -/
def step (reader : Reader) (character : Char) : Except ReadError Reader :=
  match reader.mode with
  | .plain => reader.plain character
  | .single =>
    if character == '\'' then .ok { reader with mode := .plain }
    else .ok (reader.character character)
  | .double => reader.double character
  | .escape quoted => .ok (reader.escaped quoted character)
  | .comment => if character == '\n' then .ok (reader.symbol "\n") else .ok reader
  | .dollar quoted => reader.afterDollar quoted character
  | .name quoted letters =>
    if isNameChar character then .ok { reader with mode := .name quoted (character :: letters) }
    else (reader.parameter quoted letters).anywhere quoted character
  | .brace quoted letters =>
    if character == '\x7d' && !letters.isEmpty then .ok (reader.parameter quoted letters)
    else if isNameChar character then
      .ok { reader with mode := .brace quoted (character :: letters) }
    else .error (.unsupported character)
  | .operator before =>
    if character == before && !(['(', ')']).contains before then
      .ok (reader.symbol (String.ofList [before, character]))
    else (reader.symbol (String.singleton before)).plain character

/-- The tokens at the end of a text. -/
def finish (reader : Reader) : Except ReadError (List Token) :=
  match reader.mode with
  | .single | .double | .brace .. => .error .unclosed
  | .escape true | .dollar true | .name true _ => .error .unclosed
  | .escape false => .ok (reader.character '\\').endWord.tokens.reverse
  | .dollar false => .ok (reader.character '$').endWord.tokens.reverse
  | .name false letters => .ok (reader.parameter false letters).endWord.tokens.reverse
  | .operator before => .ok (reader.symbol (String.singleton before)).tokens.reverse
  | .plain | .comment => .ok reader.endWord.tokens.reverse

end Reader

/-- Takes a text apart. -/
def read (text : String) : Except ReadError (List Token) := do
  let reader ← text.toList.foldlM Reader.step Reader.start
  reader.finish

/-- When a command of a list is run. -/
inductive Connector where
  | always
  | onSuccess
  | onFailure
  deriving DecidableEq

/-- A command and when it is run. -/
structure Command where
  connector : Connector
  words : List (List Piece)
  deriving DecidableEq

/-- The commands of a list, if only sequences and alternatives join them. The words of the command
that has begun are given in reverse. -/
def commandsFrom : Connector → List (List Piece) → List Token → Option (List Command)
  | connector, words, [] =>
    if words.isEmpty then if connector = .always then some [] else none
    else some [⟨connector, words.reverse⟩]
  | connector, words, .word pieces :: rest => commandsFrom connector (pieces :: words) rest
  | connector, words, .operator symbol :: rest =>
    let next? : Option Connector :=
      match symbol with
      | ";" | "\n" => some .always
      | "&&" => some .onSuccess
      | "||" => some .onFailure
      | _ => none
    match next? with
    | none => none
    | some next =>
      if words.isEmpty then
        if symbol == "\n" then commandsFrom connector [] rest else none
      else (commandsFrom next [] rest).map (⟨connector, words.reverse⟩ :: ·)

/-- The commands of a text. -/
def commands (text : String) : Option (List Command) :=
  match read text with
  | .ok tokens => commandsFrom .always [] tokens
  | .error _ => none

end Convoy.Shell
