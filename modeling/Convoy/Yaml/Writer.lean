import Convoy.Tree
import Convoy.Yaml.Cursor
import Convoy.Yaml.Scalar
import Convoy.Yaml.Token

/-!
# Trees as YAML documents

Records and lists are written in block style, and each text in the plainest style in which a reader
finds the same text again: plain, else between single quotes, else between double quotes with
escapes. A text with line ends is written line by line.
-/

namespace Convoy.Yaml.Writer

/-! ## Which style a text can have -/

/-- Characters that can be written as they are. -/
def isPrintable (character : Char) : Bool :=
  let code := character.toNat
  code == 0x0A || (0x20 ≤ code && code ≤ 0x7E) || (0xA0 ≤ code && code ≤ 0xFFFD && code != 0xFEFF) ||
    0x10000 ≤ code

/-- Ends of lines, as readers see them. -/
def isLineEnd (character : Char) : Bool :=
  isBreak character || character == '\r' || character == '\u0085'

def isBlank (character : Char) : Bool := isGap character || isLineEnd character

/-- Characters that a plain text must not begin with. -/
def opensOther : List Char :=
  ['#', ',', '[', ']', '{', '}', '&', '*', '!', '|', '>', '\'', '"', '%', '@', '\x60']

/-- Whether what follows a character is blank; the end counts as blank. -/
def blankNext (rest : List Char) : Bool := rest.head?.all isBlank

/-- Whether a text begins like something that is no plain text. -/
def badStart : List Char → Bool
  | [] => false
  | first :: rest =>
    opensOther.contains first ||
      (['?', ':', '-'].contains first && blankNext rest) ||
      [['-', '-', '-'], ['.', '.', '.']].contains ((first :: rest).take 3)

/-- Whether a colon or a hash mark inside a text would end it. -/
def badInside (previous : Char) : List Char → Bool
  | [] => false
  | character :: rest =>
    (character == ':' && blankNext rest) || (character == '#' && isBlank previous) ||
      badInside character rest

/-- Whether two kinds of character stand side by side. -/
def adjacent (first second : Char → Bool) : List Char → Bool
  | one :: two :: rest => (first one && second two) || adjacent first second (two :: rest)
  | _ => false

/-- What a text rules out. -/
structure Traits where
  multiline : Bool
  plain : Bool
  singleQuoted : Bool
  block : Bool

/-- Finds what a text rules out. -/
def traits (characters : List Char) : Traits :=
  let space (character : Char) : Bool := character == ' '
  let spaceAtEnd := characters.getLast?.any space
  let edge (character : Char) : Bool := space character || isLineEnd character
  let special := !characters.all isPrintable || adjacent space isLineEnd characters
  let breakSpace := adjacent isLineEnd space characters
  let lines := characters.any isLineEnd
  let indicators := badStart characters ||
    match characters with
    | first :: rest => badInside first rest
    | [] => false
  { multiline := lines
    plain := !(special || breakSpace || lines || indicators ||
      characters.head?.any edge || characters.getLast?.any edge)
    singleQuoted := !(special || breakSpace)
    block := !(special || spaceAtEnd || characters.isEmpty) }

/-- The style that says best what a text is: lines for a text with lines, quotes for a text that
would be read as something else. -/
def wantedStyle (text : String) : Style :=
  if text.toList.contains '\n' then .literal
  else
    match Scalar.resolve text with
    | .text _ => if Scalar.isPaddedDigits text.toList then .singleQuoted else .plain
    | _ => .singleQuoted

/-- The style in which a text can be written. -/
def style (simpleKey : Bool) (text : String) : Style :=
  let found := traits text.toList
  let wanted := if simpleKey && found.multiline then .doubleQuoted else wantedStyle text
  let settled : Style := if wanted == .plain && !found.plain then .singleQuoted else wanted
  match settled with
  | .singleQuoted => if found.singleQuoted then .singleQuoted else .doubleQuoted
  | .literal => if found.block && !simpleKey then .literal else .doubleQuoted
  | other => other

/-! ## Putting down characters -/

/-- What has been written. -/
structure Page where
  /-- All characters, in reverse. -/
  written : List Char
  column : Nat
  /-- Whether the last character separates what comes next. -/
  spaced : Bool
  /-- Whether the line holds nothing but indentation and indicators. -/
  indented : Bool

namespace Page

def empty : Page := ⟨[], 0, true, true⟩

def put (character : Char) (page : Page) : Page :=
  { page with
    written := character :: page.written
    column := if isBreak character then 0 else page.column + 1 }

def putAll (characters : List Char) (page : Page) : Page :=
  characters.foldl (fun current character => current.put character) page

/-- Goes to a column, on a new line unless nothing but indentation is in the way. -/
def indent (column : Nat) (page : Page) : Page :=
  let fresh := !page.indented || column < page.column || (page.column == column && !page.spaced)
  let line := if fresh then page.put '\n' else page
  { line.putAll (List.replicate (column - line.column) ' ') with spaced := true, indented := true }

/-- Writes an indicator, with a space in front if there has to be one. -/
def indicator (text : List Char) (needsSpace leavesSpace leavesIndent : Bool) (page : Page) :
    Page :=
  let separated := if needsSpace && !page.spaced then page.put ' ' else page
  { separated.putAll text with spaced := leavesSpace, indented := page.indented && leavesIndent }

/-! ## Texts -/

def plainText (characters : List Char) (page : Page) : Page :=
  let separated := if !page.spaced && !characters.isEmpty then page.put ' ' else page
  { separated.putAll characters with spaced := false, indented := false }

/-- The characters between single quotes; a quote is written twice, the first line feed of several
too, and a line end is followed by the indentation of the next line. -/
def singleChars (column : Nat) (broken : Bool) (page : Page) : List Char → Page
  | [] => if broken then page.indent column else page
  | character :: rest =>
    if isBreak character then
      let first := if character == '\n' && !broken then page.put '\n' else page
      singleChars column true { first.put character with indented := true } rest
    else
      let placed := if broken then page.indent column else page
      let doubled := if character == '\'' then placed.put '\'' else placed
      singleChars column false { doubled.put character with indented := false } rest

def singleQuoted (column : Nat) (characters : List Char) (page : Page) : Page :=
  let inside := singleChars column false (page.indicator ['\''] true false false) characters
  { inside.indicator ['\''] false false false with spaced := false, indented := false }

/-- The hexadecimal digits of a code point, filled up to a width. -/
def codeDigits (width code : Nat) : List Char :=
  let digits := (Nat.toDigits 16 code).map Char.toUpper
  List.replicate (width - digits.length) '0' ++ digits

/-- How a character is written behind a backslash. -/
def escaped (character : Char) : List Char :=
  match character.toNat with
  | 0x00 => ['0']
  | 0x07 => ['a']
  | 0x08 => ['b']
  | 0x09 => ['t']
  | 0x0A => ['n']
  | 0x0B => ['v']
  | 0x0C => ['f']
  | 0x0D => ['r']
  | 0x1B => ['e']
  | 0x22 => ['"']
  | 0x5C => ['\\']
  | 0x85 => ['N']
  | 0xA0 => ['_']
  | 0x2028 => ['L']
  | 0x2029 => ['P']
  | code =>
    if code ≤ 0xFF then 'x' :: codeDigits 2 code
    else if code ≤ 0xFFFF then 'u' :: codeDigits 4 code
    else 'U' :: codeDigits 8 code

/-- One character between double quotes. -/
def doubleChar (character : Char) : List Char :=
  if !isPrintable character || isBreak character || character == '"' || character == '\\' then
    '\\' :: escaped character
  else [character]

def doubleQuoted (characters : List Char) (page : Page) : Page :=
  let inside := (page.indicator ['"'] true false false).putAll (characters.flatMap doubleChar)
  { inside.indicator ['"'] false false false with spaced := false, indented := false }

/-- How many line ends a text has at its end: none, one, or more. A text that is nothing but a line
end counts as having more. -/
def keepsMore (characters : List Char) : Bool × Bool :=
  match characters.reverse with
  | [] => (false, false)
  | last :: before =>
    if !isLineEnd last then (false, false)
    else (true, before.head?.all isLineEnd)

/-- The lines of a text, each with its indentation. -/
def literalChars (column : Nat) (broken : Bool) (page : Page) : List Char → Page
  | [] => page
  | character :: rest =>
    if isBreak character then
      literalChars column true { page.put character with indented := true } rest
    else
      let placed := if broken then page.indent column else page
      literalChars column false { placed.put character with indented := false } rest

/-- A text line by line. A digit tells the indentation where the first line does not show it, and a
sign tells what becomes of the line ends at the end. -/
def literal (column : Nat) (characters : List Char) (page : Page) : Page :=
  let opened := page.indicator ['|'] true false false
  let hinted :=
    if characters.head?.any fun first => first == ' ' || isLineEnd first then
      opened.indicator ['2'] false false false
    else opened
  let (ends, more) := keepsMore characters
  let signed :=
    if !ends then hinted.indicator ['-'] false false false
    else if more then hinted.indicator ['+'] false false false
    else hinted
  let started := { signed.put '\n' with spaced := true, indented := true }
  literalChars column true started characters

/-- Writes a text; further lines of it begin at the given column. -/
def text (simpleKey : Bool) (column : Nat) (value : String) (page : Page) : Page :=
  match style simpleKey value with
  | .singleQuoted => page.singleQuoted column value.toList
  | .doubleQuoted => page.doubleQuoted value.toList
  | .literal => page.literal column value.toList
  | _ => page.plainText value.toList

/-- The longest text, in bytes, that is written as a key in front of its colon. -/
def keyLimit : Nat := 128

/-- Whether a key fits in front of its colon. -/
def isSimpleKey (name : String) : Bool :=
  !(traits name.toList).multiline && name.utf8ByteSize ≤ keyLimit

/-- Writes a key and its colon. -/
def key (column : Nat) (name : String) (page : Page) : Page :=
  if isSimpleKey name then
    ((page.indent column).text true (column + 2) name).indicator [':'] false false false
  else
    let asked := ((page.indent column).indicator ['?'] true false true).text false (column + 2) name
    (asked.indent column).indicator [':'] true false true

mutual

/-- Writes a tree; what is inside it goes at least to the given column. -/
def tree (column : Nat) (page : Page) : Tree → Page
  | .text value => page.text false column value
  | .number value => page.plainText (toString value).toList
  | .boolean value => page.plainText (if value then "true" else "false").toList
  | .list items =>
    if items.isEmpty then page.indicator ['[', ']'] true false false
    else
      let depth := if page.indented then column else column - 2
      page.items depth items
  | .record entries =>
    if entries.isEmpty then page.indicator ['{', '}'] true false false
    else page.fields column entries

/-- Writes the items of a list, each behind a dash. -/
def items (column : Nat) (page : Page) : List Tree → Page
  | [] => page
  | item :: rest =>
    (((page.indent column).indicator ['-'] true false true).tree (column + 2) item).items column rest

/-- Writes the fields of a record. -/
def fields (column : Nat) (page : Page) : List (String × Tree) → Page
  | [] => page
  | (name, value) :: rest => ((page.key column name).tree (column + 2) value).fields column rest

end

end Page

/-- The document of a tree. -/
def document (tree : Tree) : String :=
  let page := Page.empty.tree 0 tree
  let ended := if page.column == 0 then page else page.put '\n'
  String.ofList ended.written.reverse

end Convoy.Yaml.Writer
