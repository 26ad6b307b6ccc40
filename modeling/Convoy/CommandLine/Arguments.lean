import Convoy.Secret
import Convoy.Text.Blank

/-!
# Arguments

How the words of a command line are told apart: options with and without a value, words that are no
options, and what follows a lone `--`. An option may be given once; where it is not given, a
variable of the environment may stand in for it.
-/

namespace Convoy.CommandLine

/-- An option that a command knows. -/
structure OptionSpec where
  name : String
  short : Option Char
  takesValue : Bool
  /-- The variable that stands in for the option. -/
  variableName : Option String
  /-- Whether a text is a value of the option. -/
  accepts : String → Bool

/-- What a command takes. -/
structure Grammar where
  options : List OptionSpec
  /-- Whether it takes words that are no options. -/
  takesWords : Bool
  /-- Whether it takes words after a lone `--`. -/
  takesRest : Bool
  /-- Whether the first word that is no option is the name of a command of its own. -/
  hasCommands : Bool
  /-- Whether it tells its version. -/
  tellsVersion : Bool

/-- Why nothing is run. -/
inductive Refusal where
  /-- The words make no sense; how to use the program is shown instead. -/
  | misuse
  | help
  | version
  deriving DecidableEq

/-- What was given. -/
structure Given where
  /-- Options with their values; one without a value has an empty one. -/
  options : List (String × String)
  words : List String
  rest : List String
  /-- The name of a command and the words that belong to it. -/
  command : Option (String × List String)
  deriving DecidableEq

namespace Given

def empty : Given := ⟨[], [], [], none⟩

def value? (given : Given) (name : String) : Option String := given.options.lookup name

def has (given : Given) (name : String) : Bool := (given.value? name).isSome

end Given

namespace Grammar

def long? (grammar : Grammar) (name : String) : Option OptionSpec :=
  grammar.options.find? (·.name == name)

def short? (grammar : Grammar) (letter : Char) : Option OptionSpec :=
  grammar.options.find? (·.short == some letter)

/-- Takes an option with its value, unless it was given before or does not accept the value. -/
def accept (given : Given) (spec : OptionSpec) (value : String) : Except Refusal Given :=
  if given.has spec.name then .error .misuse
  else if spec.takesValue && !spec.accepts value then .error .misuse
  else .ok { given with options := given.options ++ [(spec.name, value)] }

/-- Whether a word could be the value of an option before it. -/
def isValue (word : String) : Bool :=
  match word.toList with
  | '-' :: _ :: _ => false
  | _ => true

/-- What a word that starts with a dash asks for: options that are complete, and one that still
needs a value. -/
structure Asked where
  given : Given
  pending : Option OptionSpec

/-- Reads a word of single letters after a dash. -/
def letters (grammar : Grammar) (given : Given) : List Char → Except Refusal Asked
  | [] => .ok ⟨given, none⟩
  | letter :: rest =>
    if letter == 'h' then .error .help
    else if letter == 'V' && grammar.tellsVersion then .error .version
    else
      match grammar.short? letter with
      | none => .error .misuse
      | some spec =>
        if spec.takesValue then
          match rest with
          | [] => .ok ⟨given, some spec⟩
          | '=' :: value => do return ⟨← accept given spec (String.ofList value), none⟩
          | value => do return ⟨← accept given spec (String.ofList value), none⟩
        else do grammar.letters (← accept given spec "") rest

/-- Reads a word after two dashes. -/
def named (grammar : Grammar) (given : Given) (text : List Char) : Except Refusal Asked :=
  let (name, value?) : List Char × Option (List Char) :=
    match Text.splitFirst? '=' text with
    | some (name, value) => (name, some value)
    | none => (text, none)
  if name = "help".toList && value?.isNone then .error .help
  else if name = "version".toList && value?.isNone && grammar.tellsVersion then .error .version
  else
    match grammar.long? (String.ofList name), value? with
    | none, _ => .error .misuse
    | some spec, some value =>
      if spec.takesValue then do return ⟨← accept given spec (String.ofList value), none⟩
      else .error .misuse
    | some spec, none =>
      if spec.takesValue then .ok ⟨given, some spec⟩ else do return ⟨← accept given spec "", none⟩

/-- Takes what follows a lone `--`. -/
def takeRest (grammar : Grammar) (given : Given) (rest : List String) : Except Refusal Given :=
  if grammar.takesRest then .ok { given with rest := rest }
  else if rest.isEmpty then .ok given
  else if grammar.takesWords then .ok { given with words := given.words ++ rest }
  else .error .misuse

/-- Reads words one after another. An option may be waiting for its value. -/
def readFrom (grammar : Grammar) : Asked → List String → Except Refusal Given
  | ⟨_, some _⟩, [] => .error .misuse
  | ⟨given, none⟩, [] => .ok given
  | ⟨given, some spec⟩, word :: words =>
    if isValue word then do grammar.readFrom ⟨← accept given spec word, none⟩ words
    else .error .misuse
  | ⟨given, none⟩, word :: words =>
    match word.toList with
    | ['-', '-'] => grammar.takeRest given words
    | '-' :: '-' :: text => do grammar.readFrom (← grammar.named given text) words
    | '-' :: first :: text => do grammar.readFrom (← grammar.letters given (first :: text)) words
    | _ =>
      if grammar.hasCommands then .ok { given with command := some (word, words) }
      else if grammar.takesWords then
        grammar.readFrom ⟨{ given with words := given.words ++ [word] }, none⟩ words
      else .error .misuse

/-- What the environment gives for options that were not given. -/
def complete (grammar : Grammar) (environment : Environment) (given : Given) :
    Except Refusal (List (String × String)) :=
  (grammar.options.filter fun spec => !given.has spec.name).foldlM
    (fun values spec =>
      match spec.variableName.bind environment with
      | none => .ok values
      | some value =>
        if spec.accepts value then .ok (values ++ [(spec.name, value)]) else .error .misuse) []

/-- Reads the words of a command line. -/
def read (grammar : Grammar) (words : List String) : Except Refusal Given :=
  grammar.readFrom ⟨.empty, none⟩ words

end Grammar

end Convoy.CommandLine
