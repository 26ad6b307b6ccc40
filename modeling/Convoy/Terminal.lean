import Convoy.Secret
import Convoy.Text.Blank

/-!
# Terminals

Text with colours for people at a terminal. Whether there are colours is decided by the environment;
where the output is not read by people, there are none.
-/

namespace Convoy

/-- A colour or weight, as the numbers that switch it on. -/
inductive Ink where
  | bold
  | dimmed
  | green
  | yellow
  | cyan
  | brightBlue
  | boldWhite
  | boldGreen
  | boldRed
  deriving DecidableEq

namespace Ink

def codes : Ink → String
  | bold => "1"
  | dimmed => "2"
  | green => "32"
  | yellow => "33"
  | cyan => "36"
  | brightBlue => "94"
  | boldWhite => "1;97"
  | boldGreen => "1;92"
  | boldRed => "1;91"

/-- The sequence that switches an ink on. -/
def start (ink : Ink) : String := "\x1b[" ++ ink.codes ++ "m"

end Ink

/-- How text is shown. -/
structure Terminal where
  coloured : Bool
  deriving DecidableEq

namespace Terminal

/-- The sequence that switches every ink off. -/
def reset : String := "\x1b[0m"

/-- Output that is not read at a terminal has colours only if they are demanded. -/
def ofEnvironment (environment : Environment) : Terminal :=
  ⟨(environment "CLICOLOR_FORCE").any (· != "0")⟩

/-- Puts a text after each place where another one occurs. -/
def insertAfter (wanted inserted : List Char) : Nat → List Char → List Char
  | 0, rest => rest
  | _, [] => []
  | fuel + 1, character :: rest =>
    match Text.stripStart? wanted (character :: rest) with
    | some after => wanted ++ inserted ++ insertAfter wanted inserted fuel after
    | none => character :: insertAfter wanted inserted fuel rest

/-- A text in an ink. Where an ink inside it ends, the outer one goes on. -/
def paint (terminal : Terminal) (ink : Ink) (text : String) : String :=
  if terminal.coloured then
    let kept := insertAfter reset.toList ink.start.toList text.length text.toList
    ink.start ++ String.ofList kept ++ reset
  else text

/-- The least width of a box. -/
def boxWidth : Nat := 60

/-- A title in a box, which grows with the title. -/
def header (terminal : Terminal) (title : String) : String :=
  let width := max boxWidth (title.length + 4)
  let rule := String.ofList (List.replicate width '═')
  let line (text : String) : String := terminal.paint .brightBlue text ++ "\n"
  "\n" ++ line ("╔" ++ rule ++ "╗") ++ line ("║  " ++ Text.padRight (width - 2) title ++ "║") ++
    line ("╚" ++ rule ++ "╝") ++ "\n"

/-- The line about something that went well. -/
def success (terminal : Terminal) (message : String) : String :=
  terminal.paint .boldGreen ("✅ " ++ message) ++ "\n"

/-- The line about something that went wrong. -/
def problem (terminal : Terminal) (message : String) : String :=
  terminal.paint .boldRed ("❌ " ++ message) ++ "\n"

end Terminal

end Convoy
