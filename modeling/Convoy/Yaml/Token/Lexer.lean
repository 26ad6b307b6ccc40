import Convoy.Yaml.Token.Scalar

/-!
# From a text to its tokens

The lexer goes through a text from left to right. A mapping key shows itself only by the colon
behind it, so every place where a key may begin is remembered until its line has ended.
-/

namespace Convoy.Yaml

/-- A place where a mapping key may have begun. -/
structure PossibleKey where
  /-- Whether nothing but a key can stand there. -/
  required : Bool
  /-- How many tokens come before it. -/
  tokens : Nat
  position : Position

namespace PossibleKey

/-- A key has to end on its line and within 1024 characters. -/
def isStale (key : PossibleKey) (position : Position) : Bool :=
  key.position.line < position.line || key.position.index + 1024 < position.index

end PossibleKey

/-- The state between two tokens. -/
structure Lexer where
  cursor : Cursor
  /-- The tokens so far, in reverse. -/
  tokens : List Token
  /-- How many flow collections are open. -/
  flow : Nat
  /-- The column of the innermost block collection; outside of all it is -1. -/
  indent : Int
  /-- The columns of the block collections around it, the innermost first. -/
  indents : List Int
  /-- Whether a key may begin here. -/
  keyAllowed : Bool
  /-- For each open flow collection and for the block context the last possible key. -/
  keys : List (Option PossibleKey)

namespace Lexer

def start (characters : List Char) : Lexer where
  cursor := ⟨.start, unifyLines characters⟩
  tokens := []
  flow := 0
  indent := -1
  indents := []
  keyAllowed := true
  keys := [none]

def emit (lexer : Lexer) (token : Token) : Lexer := { lexer with tokens := token :: lexer.tokens }

/-- Puts a token in front of those that came after a given number of tokens. -/
def emitAt (lexer : Lexer) (count : Nat) (token : Token) : Lexer :=
  let recent := lexer.tokens.length - count
  { lexer with tokens := lexer.tokens.take recent ++ token :: lexer.tokens.drop recent }

/-- Emits a token for a number of characters. -/
def emitSkip (lexer : Lexer) (count : Nat) (token : Token) : Lexer :=
  { lexer.emit token with cursor := lexer.cursor.skip count }

def allowKey (allowed : Bool) (lexer : Lexer) : Lexer := { lexer with keyAllowed := allowed }

/-- Gives up the possible key of the innermost collection; a required key cannot be given up. -/
def dropKey? (lexer : Lexer) : Option Lexer :=
  match lexer.keys with
  | some key :: outer => if key.required then none else some { lexer with keys := none :: outer }
  | _ => some lexer

/-- Remembers the current place as a possible key, if a key may begin here. -/
def saveKey? (lexer : Lexer) : Option Lexer :=
  if lexer.keyAllowed then do
    let dropped ← lexer.dropKey?
    let required := lexer.flow == 0 && lexer.indent == (lexer.cursor.column : Int)
    let key : PossibleKey := ⟨required, lexer.tokens.length, lexer.cursor.position⟩
    return { dropped with keys := some key :: dropped.keys.drop 1 }
  else some lexer

/-- Forgets the possible keys that can no longer be keys. -/
def dropStale? (lexer : Lexer) : Option Lexer := do
  let keys ← lexer.keys.mapM fun candidate =>
    match candidate with
    | none => some none
    | some key =>
      if key.isStale lexer.cursor.position then if key.required then none else some none
      else some (some key)
  return { lexer with keys := keys }

/-- Opens a block collection if the column is further to the right than the innermost one. The token
goes in front of those that came after a given number of tokens. -/
def roll (column count : Nat) (token : Token) (lexer : Lexer) : Lexer :=
  if lexer.flow == 0 && lexer.indent < (column : Int) then
    { lexer.emitAt count token with
      indent := column
      indents := lexer.indent :: lexer.indents }
  else lexer

/-- The block collections that a column closes: how many, the innermost that stays, and those around
it. -/
def closed (column : Int) : Int → List Int → Nat × Int × List Int
  | indent, [] => (0, indent, [])
  | indent, outer :: around =>
    if column < indent then
      let (count, remaining) := closed column outer around
      (count + 1, remaining)
    else (0, indent, outer :: around)

/-- Closes the block collections that are further to the right than a column. -/
def unroll (column : Int) (lexer : Lexer) : Lexer :=
  if lexer.flow == 0 then
    let (count, indent, indents) := closed column lexer.indent lexer.indents
    { lexer with
      tokens := List.replicate count .blockEnd ++ lexer.tokens
      indent := indent
      indents := indents }
  else lexer

/-- Passes gaps, comments and line ends. In block context a new line may begin with a key, and a tab
is no gap where a key may begin. -/
def passGaps : Nat → Lexer → Lexer
  | 0, lexer => lexer
  | bound + 1, lexer =>
    let tabs := lexer.flow != 0 || !lexer.keyAllowed
    let spaced := lexer.cursor.skipWhile fun character =>
      character == ' ' || (tabs && character == '\t')
    let ended := if spaced.sees 0 '#' then spaced.skipWhile (!isBreak ·) else spaced
    if ended.is 0 isBreak then
      passGaps bound { lexer with
        cursor := ended.next
        keyAllowed := lexer.keyAllowed || lexer.flow == 0 }
    else { lexer with cursor := ended }

/-- Passes a byte order mark at the very beginning, which takes up a column. -/
def passMark (lexer : Lexer) : Lexer :=
  if lexer.cursor.position.index == 0 && lexer.cursor.sees 0 '\uFEFF' then
    { lexer with cursor := lexer.cursor.next }
  else lexer

/-! ## Directives, anchors and tags -/

/-- Reads a number of at most nine digits. -/
def versionNumber? (cursor : Cursor) : Option (Nat × Cursor) :=
  let (digits, past) := cursor.takeWhile Char.isDigit
  if digits.isEmpty || 9 < digits.length then none
  else some (digits.foldl (fun value digit => value * 10 + (digit.toNat - '0'.toNat)) 0, past)

/-- Reads a tag handle: an exclamation mark, or a name between two. -/
def tagHandle? (directive : Bool) (cursor : Cursor) : Option (List Char × Cursor) :=
  if !cursor.sees 0 '!' then none
  else
    let (name, past) := cursor.next.takeWhile isNameChar
    if past.sees 0 '!' then some ('!' :: name ++ ['!'], past.next)
    else if directive && !name.isEmpty then none
    else some ('!' :: name, past)

/-- The characters of a tag besides those of names. -/
def tagChars : List Char :=
  [';', '/', '?', ':', '@', '&', '=', '+', '$', '.', '!', '~', '*', '\'', '(', ')']

/-- How many bytes a character has whose first byte is given. -/
def sequenceLength? (byte : Nat) : Option Nat :=
  if byte < 0x80 then some 1
  else if byte / 0x20 == 6 then some 2
  else if byte / 0x10 == 14 then some 3
  else if byte / 0x08 == 30 then some 4
  else none

/-- Reads one byte written as a percent sign and two hexadecimal digits. -/
def tagByte? (cursor : Cursor) : Option (Nat × Cursor) :=
  match cursor.rest with
  | '%' :: high :: low :: _ => (hexNumber? [high, low]).map (·, cursor.skip 3)
  | _ => none

/-- Reads the further bytes of a character. -/
def furtherBytes? : Nat → List Char → Cursor → Option (List Char × Cursor)
  | 0, bytes, cursor => some (bytes, cursor)
  | count + 1, bytes, cursor => do
    let (byte, past) ← tagByte? cursor
    if byte / 0x40 == 2 then furtherBytes? count (Char.ofNat byte :: bytes) past else none

/-- Reads the characters of a tag, in reverse; escaped bytes stay bytes. -/
def tagText? (verbatim : Bool) : Nat → List Char → Cursor → Option (List Char × Cursor)
  | 0, text, cursor => some (text, cursor)
  | bound + 1, text, cursor =>
    match cursor.rest with
    | [] => some (text, cursor)
    | character :: _ =>
      if character == '%' then do
        let (byte, behind) ← tagByte? cursor
        let length ← sequenceLength? byte
        let (longer, past) ← furtherBytes? (length - 1) (Char.ofNat byte :: text) behind
        tagText? verbatim bound longer past
      else if isNameChar character || tagChars.contains character ||
          (verbatim && [',', '[', ']'].contains character) then
        tagText? verbatim bound (character :: text) cursor.next
      else some (text, cursor)

/-- Reads a tag text behind a handle that belongs to it; together they must not be empty. -/
def tagSuffix? (verbatim : Bool) (handle : List Char) (cursor : Cursor) :
    Option (String × Cursor) := do
  let (text, past) ← tagText? verbatim cursor.rest.length [] cursor
  if handle.isEmpty && text.isEmpty then none
  else return (String.ofList (handle.drop 1 ++ text.reverse), past)

/-- Reads a directive from its percent sign on. -/
def directive? (cursor : Cursor) : Option (Token × Cursor) := do
  let (name, behind) := cursor.next.takeWhile isNameChar
  if name.isEmpty || !behind.blank 0 then none
  let spaced := behind.skipWhile isGap
  if name == "YAML".toList then
    let (major, point) ← versionNumber? spaced
    if !point.sees 0 '.' then none
    let (minor, past) ← versionNumber? point.next
    return (.versionDirective major minor, ← past.finishLine?)
  else if name == "TAG".toList then
    let (handle, gap) ← tagHandle? true spaced
    if !gap.is 0 isGap then none
    let (start, past) ← tagSuffix? true [] (gap.skipWhile isGap)
    if !past.blank 0 then none
    return (.tagDirective (String.ofList handle) start, ← past.finishLine?)
  else none

/-- Reads the name of an anchor or an alias behind its sign. -/
def anchorName? (cursor : Cursor) : Option (String × Cursor) :=
  let (name, past) := cursor.next.takeWhile isNameChar
  let ends := past.blank 0 ||
    past.is 0 fun character => ['?', ':', ',', ']', '}', '%', '@', '\x60'].contains character
  if name.isEmpty || !ends then none else some (String.ofList name, past)

/-- Reads a tag from its exclamation mark on. -/
def tag? (flow : Bool) (cursor : Cursor) : Option (Token × Cursor) := do
  let (token, past) ←
    if cursor.sees 1 '<' then do
      let (text, behind) ← tagSuffix? true [] (cursor.skip 2)
      if behind.sees 0 '>' then some (Token.tag "" text, behind.next) else none
    else do
      let (handle, behind) ← tagHandle? false cursor
      if 1 < handle.length && handle.getLast? == some '!' then
        let (suffix, past) ← tagSuffix? false [] behind
        some (Token.tag (String.ofList handle) suffix, past)
      else
        let (suffix, past) ← tagSuffix? false handle behind
        some (if suffix.isEmpty then Token.tag "" "!" else Token.tag "!" suffix, past)
  if past.blank 0 || (flow && past.sees 0 ',') then some (token, past) else none

/-! ## One token after another -/

/-- Emits a token that was read together with the place behind it. -/
def accept (lexer : Lexer) (read : Token × Cursor) : Lexer :=
  { lexer.emit read.1 with cursor := read.2 }

/-- A colon behind a key, or the colon of a mapping whose key had a question mark. -/
def value? (lexer : Lexer) : Option Lexer :=
  match lexer.keys with
  | some key :: outer =>
    let keyed := ({ lexer with keys := none :: outer }.emitAt key.tokens .key).roll
      key.position.column key.tokens .blockMappingStart
    some ((keyed.allowKey false).emitSkip 1 .value)
  | _ =>
    if lexer.flow == 0 then
      if lexer.keyAllowed then
        let rolled := lexer.roll lexer.cursor.column lexer.tokens.length .blockMappingStart
        some ((rolled.allowKey true).emitSkip 1 .value)
      else none
    else some ((lexer.allowKey false).emitSkip 1 .value)

/-- A dash in front of an entry of a sequence. -/
def blockEntry? (lexer : Lexer) : Option Lexer := do
  if lexer.flow == 0 && !lexer.keyAllowed then none
  let rolled := lexer.roll lexer.cursor.column lexer.tokens.length .blockSequenceStart
  let dropped ← rolled.dropKey?
  return (dropped.allowKey true).emitSkip 1 .blockEntry

/-- A question mark in front of a key. -/
def key? (lexer : Lexer) : Option Lexer := do
  if lexer.flow == 0 && !lexer.keyAllowed then none
  let rolled := lexer.roll lexer.cursor.column lexer.tokens.length .blockMappingStart
  let dropped ← rolled.dropKey?
  return (dropped.allowKey (lexer.flow == 0)).emitSkip 1 .key

/-- The beginning of a flow collection. -/
def openFlow? (lexer : Lexer) (token : Token) : Option Lexer := do
  let saved ← lexer.saveKey?
  let deeper := { saved with flow := saved.flow + 1, keys := none :: saved.keys }
  return (deeper.allowKey true).emitSkip 1 token

/-- The end of a flow collection; without an open one the token is left to the parser. -/
def closeFlow? (lexer : Lexer) (token : Token) : Option Lexer := do
  let dropped ← lexer.dropKey?
  let outer :=
    if dropped.flow == 0 then dropped
    else { dropped with flow := dropped.flow - 1, keys := dropped.keys.drop 1 }
  return (outer.allowKey false).emitSkip 1 token

/-- Whether a plain scalar may begin with what comes next. -/
def startsPlain (lexer : Lexer) : Bool :=
  let cursor := lexer.cursor
  let indicators : List Char :=
    ['-', '?', ':', ',', '[', ']', '{', '}', '#', '&', '*', '!', '|', '>', '\'', '"', '%', '@', '\x60']
  (!cursor.blank 0 && !cursor.is 0 indicators.contains) ||
    (cursor.sees 0 '-' && !cursor.is 1 isGap) ||
    (lexer.flow == 0 && (cursor.sees 0 '?' || cursor.sees 0 ':') && !cursor.blank 1)

/-- Reads the token that begins here. -/
def token? (lexer : Lexer) : Option Lexer := do
  let cursor := lexer.cursor
  let inFlow := lexer.flow != 0
  let character ← cursor.rest.head?
  let outermost : Option Lexer := do
    let dropped ← (lexer.unroll (-1)).dropKey?
    return dropped.allowKey false
  if cursor.column == 0 && character == '%' then
    return (← outermost).accept (← directive? cursor)
  if cursor.atMark '-' then return (← outermost).emitSkip 3 .documentStart
  if cursor.atMark '.' then return (← outermost).emitSkip 3 .documentEnd
  if character == '[' then return ← lexer.openFlow? .flowSequenceStart
  if character == '{' then return ← lexer.openFlow? .flowMappingStart
  if character == ']' then return ← lexer.closeFlow? .flowSequenceEnd
  if character == '}' then return ← lexer.closeFlow? .flowMappingEnd
  if character == ',' then return ((← lexer.dropKey?).allowKey true).emitSkip 1 .flowEntry
  if character == '-' && cursor.blank 1 then return ← lexer.blockEntry?
  if character == '?' && (inFlow || cursor.blank 1) then return ← lexer.key?
  if character == ':' && (inFlow || cursor.blank 1) then return ← lexer.value?
  if character == '*' then
    let saved ← lexer.saveKey?
    let (name, past) ← anchorName? cursor
    return (saved.allowKey false).accept (.alias name, past)
  if character == '&' then
    let saved ← lexer.saveKey?
    let (name, past) ← anchorName? cursor
    return (saved.allowKey false).accept (.anchor name, past)
  if character == '!' then
    let saved ← lexer.saveKey?
    return (saved.allowKey false).accept (← tag? inFlow cursor)
  if !inFlow && (character == '|' || character == '>') then
    let dropped ← lexer.dropKey?
    return (dropped.allowKey true).accept (← blockScalar? (character == '|') lexer.indent cursor)
  if character == '\'' || character == '"' then
    let saved ← lexer.saveKey?
    return (saved.allowKey false).accept (← quotedScalar? (character == '\'') cursor)
  if lexer.startsPlain then
    let saved ← lexer.saveKey?
    let (token, broken, past) ← plainScalar? inFlow (lexer.indent + 1).toNat cursor
    return (saved.allowKey broken).accept (token, past)
  none

/-- Closes everything at the end of the text. -/
def finish? (lexer : Lexer) : Option (List Token) := do
  let closed ← (lexer.unroll (-1)).dropKey?
  return closed.tokens.reverse

/-- Reads tokens up to the end, at most as many as the bound says. -/
def tokensFrom? : Nat → Lexer → Option (List Token)
  | 0, _ => none
  | bound + 1, lexer => do
    let passed := lexer.passMark.passGaps (lexer.cursor.rest.length + 1)
    let fresh ← passed.dropStale?
    let unrolled := fresh.unroll fresh.cursor.column
    if unrolled.cursor.rest.isEmpty then unrolled.finish?
    else tokensFrom? bound (← unrolled.token?)

end Lexer

/-- The tokens of a text, if it has any: every character must be allowed, and every token reads at
least one of them. -/
def tokens? (text : String) : Option (List Token) :=
  let characters := text.toList
  if characters.all isAllowed then Lexer.tokensFrom? (characters.length + 1) (.start characters)
  else none

end Convoy.Yaml
