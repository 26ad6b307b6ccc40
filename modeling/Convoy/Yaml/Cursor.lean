/-!
# Places in a document

Which characters a document may hold, the classes that tell its parts apart, and a cursor that knows
its line and column. Line ends are unified before anything else looks at the text, so that a line
feed is the only ordinary line end.
-/

namespace Convoy.Yaml

/-- Whether a document may hold a character as it is. -/
def isAllowed (character : Char) : Bool :=
  let code := character.toNat
  code == 0x09 || code == 0x0A || code == 0x0D || (0x20 ≤ code && code ≤ 0x7E) || code == 0x85 ||
    (0xA0 ≤ code && code ≤ 0xD7FF) || (0xE000 ≤ code && code ≤ 0xFFFD) || 0x10000 ≤ code

/-- Writes every ordinary line end as one line feed; the two Unicode separators stay as they are. -/
def unifyLines : List Char → List Char
  | '\r' :: '\n' :: rest => '\n' :: unifyLines rest
  | '\r' :: rest => '\n' :: unifyLines rest
  | '\u0085' :: rest => '\n' :: unifyLines rest
  | character :: rest => character :: unifyLines rest
  | [] => []

def isBreak (character : Char) : Bool :=
  character == '\n' || character == '\u2028' || character == '\u2029'

def isGap (character : Char) : Bool := character == ' ' || character == '\t'

/-- The characters of names of anchors, directives and tag handles. -/
def isNameChar (character : Char) : Bool :=
  character.isAlphanum || character == '_' || character == '-'

/-- A place, counted in characters. -/
structure Position where
  index : Nat
  line : Nat
  column : Nat

namespace Position

def start : Position := ⟨0, 0, 0⟩

/-- The place behind a character. -/
def after (position : Position) (character : Char) : Position :=
  if isBreak character then ⟨position.index + 1, position.line + 1, 0⟩
  else ⟨position.index + 1, position.line, position.column + 1⟩

end Position

/-- What is left of a document and where it begins. -/
structure Cursor where
  position : Position
  rest : List Char

namespace Cursor

def column (cursor : Cursor) : Nat := cursor.position.column

/-- Passes one character. -/
def next (cursor : Cursor) : Cursor :=
  match cursor.rest with
  | [] => cursor
  | character :: rest => ⟨cursor.position.after character, rest⟩

/-- Passes a number of characters. -/
def skip : Nat → Cursor → Cursor
  | 0, cursor => cursor
  | count + 1, cursor => skip count cursor.next

/-- Passes the leading characters with a property and returns them. -/
def takeWhile (property : Char → Bool) (cursor : Cursor) : List Char × Cursor :=
  let taken := cursor.rest.takeWhile property
  (taken, cursor.skip taken.length)

def skipWhile (property : Char → Bool) (cursor : Cursor) : Cursor :=
  (cursor.takeWhile property).2

/-- Whether a character ahead satisfies a property; none does beyond the end. -/
def is (cursor : Cursor) (ahead : Nat) (property : Char → Bool) : Bool :=
  (cursor.rest[ahead]?).any property

/-- Whether a given character stands ahead. -/
def sees (cursor : Cursor) (ahead : Nat) (character : Char) : Bool :=
  cursor.is ahead (· == character)

/-- Whether a gap, a line end or the end of the document stands ahead. -/
def blank (cursor : Cursor) (ahead : Nat) : Bool :=
  (cursor.rest[ahead]?).all fun character => isGap character || isBreak character

/-- Whether a line end or the end of the document comes next. -/
def atLineEnd (cursor : Cursor) : Bool :=
  cursor.rest.head?.all isBreak

/-- Whether a mark of three equal characters stands alone at the beginning of a line. -/
def atMark (cursor : Cursor) (character : Char) : Bool :=
  cursor.column == 0 && cursor.sees 0 character && cursor.sees 1 character &&
    cursor.sees 2 character && cursor.blank 3

/-- Whether a line opens or closes a document. -/
def atDocumentMark (cursor : Cursor) : Bool := cursor.atMark '-' || cursor.atMark '.'

/-- Passes gaps, a comment and the end of the line, or fails on anything else. -/
def finishLine? (cursor : Cursor) : Option Cursor :=
  let spaced := cursor.skipWhile isGap
  let ended := if spaced.sees 0 '#' then spaced.skipWhile (!isBreak ·) else spaced
  if ended.atLineEnd then some ended.next else none

end Cursor

end Convoy.Yaml
