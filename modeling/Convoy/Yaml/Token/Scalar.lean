import Convoy.Yaml.Cursor
import Convoy.Yaml.Token

/-!
# Scalars as they are written

Readers for the five styles of scalar. Lines of a scalar are folded: a single line end between two
words counts as a space, and of several the first is dropped. Only a literal scalar keeps its lines.
-/

namespace Convoy.Yaml

/-- White space inside a scalar, which counts only if more of the scalar follows. -/
structure Gap where
  /-- Gaps on the line of the last word, in reverse. -/
  blanks : List Char
  /-- Whether the line of the last word has ended. -/
  broken : Bool
  /-- The end of that line. -/
  first : Option Char
  /-- The ends of the lines after it, in reverse. -/
  later : List Char

namespace Gap

def empty : Gap := ⟨[], false, none, []⟩

/-- The white space behind an escaped line end. -/
def escapedBreak : Gap := ⟨[], true, none, []⟩

/-- What the white space stands for between two words. -/
def folded (gap : Gap) : List Char :=
  if gap.broken then
    match gap.first with
    | some '\n' => if gap.later.isEmpty then [' '] else gap.later.reverse
    | some separator => separator :: gap.later.reverse
    | none => gap.later.reverse
  else gap.blanks.reverse

/-- Reads white space. On a new line a tab left of a given column is refused. -/
def read? (leastTab : Nat) (gap : Gap) (position : Position) : List Char → Option (Gap × Cursor)
  | [] => some (gap, ⟨position, []⟩)
  | character :: rest =>
    let after := position.after character
    if isGap character then
      if gap.broken then
        if character == '\t' && position.column < leastTab then none
        else read? leastTab gap after rest
      else read? leastTab { gap with blanks := character :: gap.blanks } after rest
    else if isBreak character then
      if gap.broken then read? leastTab { gap with later := character :: gap.later } after rest
      else read? leastTab ⟨[], true, some character, []⟩ after rest
    else some (gap, ⟨position, character :: rest⟩)

end Gap

/-- The characters that separate the parts of a flow collection. -/
def isFlowIndicator (character : Char) : Bool := [',', '[', ']', '{', '}'].contains character

/-- Reads one word of a plain scalar, in reverse. Inside a flow collection a colon must not touch an
indicator. -/
def plainWord? (flow : Bool) (word : List Char) (position : Position) :
    List Char → Option (List Char × Cursor)
  | [] => some (word, ⟨position, []⟩)
  | character :: rest =>
    let here : Cursor := ⟨position, character :: rest⟩
    if isGap character || isBreak character then some (word, here)
    else if flow && character == ':' && here.is 1 (fun next => isFlowIndicator next || next == '?') then
      none
    else if (character == ':' && here.blank 1) || (flow && isFlowIndicator character) then
      some (word, here)
    else plainWord? flow (character :: word) (position.after character) rest

/-- Reads the words of a plain scalar, at most as many as the bound says. The result holds the text
in reverse, and whether a new line was begun after the last word. -/
def plainWords? (flow : Bool) (indent : Nat) :
    Nat → List Char → Gap → Cursor → Option (List Char × Bool × Cursor)
  | 0, text, gap, cursor => some (text, gap.broken, cursor)
  | bound + 1, text, gap, cursor =>
    if cursor.atDocumentMark || cursor.sees 0 '#' then some (text, gap.broken, cursor)
    else do
      let (word, behind) ← plainWord? flow [] cursor.position cursor.rest
      if word.isEmpty then return (text, gap.broken, behind)
      let longer := word ++ gap.folded.reverse ++ text
      if !behind.is 0 (fun next => isGap next || isBreak next) then return (longer, false, behind)
      let (following, past) ← Gap.empty.read? indent behind.position behind.rest
      if !flow && past.column < indent then return (longer, following.broken, past)
      plainWords? flow indent bound longer following past

/-- Reads a plain scalar whose further lines have at least the given indentation. -/
def plainScalar? (flow : Bool) (indent : Nat) (cursor : Cursor) :
    Option (Token × Bool × Cursor) := do
  let (text, broken, past) ← plainWords? flow indent (cursor.rest.length + 1) [] .empty cursor
  return (.scalar .plain (String.ofList text.reverse), broken, past)

def hexDigit? (character : Char) : Option Nat :=
  if character.isDigit then some (character.toNat - '0'.toNat)
  else if 'a' ≤ character && character ≤ 'f' then some (character.toNat - 'a'.toNat + 10)
  else if 'A' ≤ character && character ≤ 'F' then some (character.toNat - 'A'.toNat + 10)
  else none

/-- The number that hexadecimal digits spell. -/
def hexNumber? (digits : List Char) : Option Nat :=
  digits.foldlM (fun value digit => (hexDigit? digit).map (value * 16 + ·)) 0

/-- What a character stands for behind a backslash, if it stands alone. -/
def simpleEscape? : Char → Option Char
  | '0' => some '\x00'
  | 'a' => some '\x07'
  | 'b' => some '\x08'
  | 't' => some '\t'
  | '\t' => some '\t'
  | 'n' => some '\n'
  | 'v' => some '\x0B'
  | 'f' => some '\x0C'
  | 'r' => some '\r'
  | 'e' => some '\x1B'
  | ' ' => some ' '
  | '"' => some '"'
  | '/' => some '/'
  | '\\' => some '\\'
  | 'N' => some '\u0085'
  | '_' => some '\u00A0'
  | 'L' => some '\u2028'
  | 'P' => some '\u2029'
  | _ => none

/-- How many hexadecimal digits follow a character behind a backslash. -/
def escapeLength? : Char → Option Nat
  | 'x' => some 2
  | 'u' => some 4
  | 'U' => some 8
  | _ => none

/-- Reads an escape behind its backslash. -/
def escape? (cursor : Cursor) : Option (Char × Cursor) := do
  let letter ← cursor.rest.head?
  match simpleEscape? letter with
  | some character => return (character, cursor.next)
  | none =>
    let length ← escapeLength? letter
    let digits := cursor.next.rest.take length
    let code ← hexNumber? digits
    if digits.length < length || !code.isValidChar then none
    else return (Char.ofNat code, cursor.skip (length + 1))

/-- Reads the text between quotes up to the closing quote, at most as many steps as the bound
says. -/
def quotedFrom? (single : Bool) : Nat → List Char → Cursor → Option (List Char × Cursor)
  | 0, _, _ => none
  | bound + 1, text, cursor => do
    if cursor.atDocumentMark then none
    let character ← cursor.rest.head?
    if isGap character || isBreak character then
      let (gap, past) ← Gap.empty.read? 0 cursor.position cursor.rest
      quotedFrom? single bound (gap.folded.reverse ++ text) past
    else if single then
      if character == '\'' then
        if cursor.sees 1 '\'' then quotedFrom? single bound ('\'' :: text) (cursor.skip 2)
        else return (text, cursor.next)
      else quotedFrom? single bound (character :: text) cursor.next
    else if character == '"' then return (text, cursor.next)
    else if character == '\\' then
      if cursor.is 1 isBreak then
        let behind := cursor.skip 2
        let (gap, past) ← Gap.escapedBreak.read? 0 behind.position behind.rest
        quotedFrom? single bound (gap.folded.reverse ++ text) past
      else
        let (escaped, past) ← escape? cursor.next
        quotedFrom? single bound (escaped :: text) past
    else quotedFrom? single bound (character :: text) cursor.next

/-- Reads a scalar between quotes, from its opening quote on. -/
def quotedScalar? (single : Bool) (cursor : Cursor) : Option (Token × Cursor) := do
  let (text, past) ← quotedFrom? single (cursor.rest.length + 1) [] cursor.next
  let style : Style := if single then .singleQuoted else .doubleQuoted
  return (.scalar style (String.ofList text.reverse), past)

/-- What happens to the line ends at the end of a block scalar. -/
inductive Chomping where
  /-- All are dropped. -/
  | strip
  /-- One is kept. -/
  | clip
  /-- All are kept. -/
  | keep
  deriving DecidableEq

/-- Reads a sign behind a block indicator. -/
def chomping? (cursor : Cursor) : Option (Chomping × Cursor) :=
  if cursor.sees 0 '+' then some (.keep, cursor.next)
  else if cursor.sees 0 '-' then some (.strip, cursor.next)
  else none

/-- Reads a digit behind a block indicator, if there is one; zero is refused. -/
def increment? (cursor : Cursor) : Option (Nat × Cursor) :=
  match cursor.rest with
  | digit :: _ =>
    if digit == '0' then none
    else if digit.isDigit then some (digit.toNat - '0'.toNat, cursor.next)
    else some (0, cursor)
  | [] => some (0, cursor)

/-- Reads the sign and the digit behind a block indicator, in either order. -/
def blockHeader? (cursor : Cursor) : Option (Chomping × Nat × Cursor) := do
  match chomping? cursor with
  | some (chomping, behind) =>
    let (increment, past) ← increment? behind
    return (chomping, increment, past)
  | none =>
    let (increment, behind) ← increment? cursor
    if increment == 0 then return (.clip, 0, behind)
    let (chomping, past) := (chomping? behind).getD (.clip, behind)
    return (chomping, increment, past)

/-- Reads indentation and empty lines. An indentation of zero is not yet known; the result then also
tells the widest indentation seen. -/
def blockBreaks? (indent widest : Nat) (breaks : List Char) (position : Position) :
    List Char → Option (Nat × List Char × Cursor)
  | [] => some (max widest position.column, breaks, ⟨position, []⟩)
  | character :: rest =>
    let open_ := indent == 0 || position.column < indent
    if open_ && character == ' ' then blockBreaks? indent widest breaks (position.after ' ') rest
    else if open_ && character == '\t' then none
    else if isBreak character then
      blockBreaks? indent (max widest position.column) (character :: breaks)
        (position.after character) rest
    else some (max widest position.column, breaks, ⟨position, character :: rest⟩)

/-- What has been read of a block scalar. -/
structure BlockText where
  /-- The text so far, in reverse. -/
  text : List Char
  /-- The end of the last line. -/
  first : Option Char
  /-- The empty lines after it, in reverse. -/
  later : List Char
  /-- Whether the last line began with a gap. -/
  spaced : Bool

/-- Reads the lines of a block scalar, at most as many as the bound says. -/
def blockLines? (literal : Bool) (indent : Nat) :
    Nat → BlockText → Cursor → Option (BlockText × Cursor)
  | 0, block, cursor => some (block, cursor)
  | bound + 1, block, cursor =>
    if cursor.column != indent || cursor.rest.isEmpty then some (block, cursor)
    else do
      let spaced := cursor.is 0 isGap
      let joined :=
        if !literal && block.first == some '\n' && !block.spaced && !spaced then
          if block.later.isEmpty then ' ' :: block.text else block.later ++ block.text
        else block.later ++ block.first.toList ++ block.text
      let (line, ended) := cursor.takeWhile (!isBreak ·)
      let (_, later, past) ← blockBreaks? indent 0 [] ended.next.position ended.next.rest
      blockLines? literal indent bound ⟨line.reverse ++ joined, ended.rest.head?, later, spaced⟩ past

/-- Reads a block scalar from its indicator on, inside a collection with the given indentation. -/
def blockScalar? (literal : Bool) (parent : Int) (cursor : Cursor) : Option (Token × Cursor) := do
  let (chomping, increment, header) ← blockHeader? cursor.next
  let body ← header.finishLine?
  let base := parent.toNat
  let given := if increment == 0 then 0 else base + increment
  let (widest, breaks, first) ← blockBreaks? given 0 [] body.position body.rest
  let indent := if given == 0 then max widest (max (parent + 1).toNat 1) else given
  let (block, past) ←
    blockLines? literal indent (first.rest.length + 1) ⟨[], none, breaks, false⟩ first
  let kept :=
    match chomping with
    | .strip => block.text
    | .clip => block.first.toList ++ block.text
    | .keep => block.later ++ block.first.toList ++ block.text
  return (.scalar (if literal then .literal else .folded) (String.ofList kept.reverse), past)

end Convoy.Yaml
