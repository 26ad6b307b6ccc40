import Convoy.Yaml.Node
import Convoy.Yaml.Token.Lexer

/-!
# From tokens to nodes

Each kind of collection has a function that reads its entries. Collections nest, so the functions
call each other; every call goes one step down in a bound that is computed from the number of
tokens.
-/

namespace Convoy.Yaml

/-- What has been read so far. -/
structure Progress where
  tokens : List Token
  /-- The handles of tags and what they stand for. -/
  handles : List (String × String)
  /-- The anchors by name; a later one takes the place of an earlier one. -/
  names : List (String × Nat)
  anchored : List Anchored
  /-- How many parts of the document have begun or ended. -/
  size : Nat

/-- Reading changes the progress or finds that the tokens are no document. -/
abbrev Reading := StateT Progress Option

namespace Reading

/-- The next token, if there is one. -/
def peek : Reading (Option Token) := do return (← get).tokens.head?

/-- Whether the next token is one of the given ones; the end counts as none of them. -/
def sees (tokens : List Token) : Reading Bool := do
  return (← peek).any tokens.contains

def skip : Reading Unit := modify fun progress => { progress with tokens := progress.tokens.drop 1 }

/-- Counts one part of the document. -/
def count : Reading Unit := modify fun progress => { progress with size := progress.size + 1 }

/-- A node where nothing is written. -/
def blank : Reading Node := do
  count
  return .blank

/-- The number of a new anchor is the count of distinct names before it. -/
def newAnchor (name : String) : Reading Nat := do
  let progress ← get
  let anchor := progress.names.length
  let others := progress.names.filter (·.1 != name)
  set { progress with names := (name, anchor) :: others }
  return anchor

/-- Records the node of an anchor. -/
def record (anchor : Option Nat) (order : Nat) (node : Node) : Reading Node := do
  match anchor with
  | none => return node
  | some number =>
    modify fun progress =>
      { progress with anchored := ⟨number, order, node⟩ :: progress.anchored }
    return node

/-- The full tag that a handle and a suffix stand for. -/
def resolveTag (handle suffix : String) : Reading String := do
  if handle.isEmpty then return suffix
  match (← get).handles.lookup handle with
  | some start => return start ++ suffix
  | none => failure

/-- Reads the anchor in front of a node, if there is one. -/
def anchorName : Reading (Option String) := do
  match ← peek with
  | some (.anchor name) =>
    skip
    return some name
  | _ => return none

/-- Reads the tag in front of a node, if there is one. -/
def tagName : Reading (Option String) := do
  match ← peek with
  | some (.tag handle suffix) =>
    skip
    return some (← resolveTag handle suffix)
  | _ => return none

/-- Reads the anchor and the tag in front of a node, in either order. -/
def properties : Reading (Option String × Option String) := do
  match ← anchorName with
  | some name => return (some name, ← tagName)
  | none =>
    let tag ← tagName
    return (← anchorName, tag)

/-- Begins an anchored part: its number and what came before it. -/
def begin (name : Option String) : Reading (Option Nat × Nat) := do
  let anchor ← name.mapM newAnchor
  let order := (← get).size
  count
  return (anchor, order)

mutual

/-- Reads a node. In block context it may be a block collection, and as a key or value of a block
mapping also a sequence that is not indented. -/
def node : Nat → Bool → Bool → Reading Node
  | 0, _, _ => failure
  | bound + 1, block, unindented => do
    match ← peek with
    | some (.alias name) =>
      skip
      count
      match (← get).names.lookup name with
      | some anchor => return .alias anchor
      | none => failure
    | _ =>
      let (name, tag) ← properties
      let next ← peek
      match next with
      | some (.scalar style text) =>
        let (anchor, order) ← begin name
        skip
        record anchor order (.scalar style (tag.filter (· != "!")) text)
      | some .flowSequenceStart =>
        let (anchor, order) ← begin name
        skip
        record anchor order (.sequence tag (← flowItems bound true))
      | some .flowMappingStart =>
        let (anchor, order) ← begin name
        skip
        record anchor order (.mapping tag (← flowPairs bound true))
      | _ =>
        if unindented && next == some .blockEntry then
          let (anchor, order) ← begin name
          record anchor order (.sequence tag (← unindentedItems bound))
        else if block && next == some .blockSequenceStart then
          let (anchor, order) ← begin name
          skip
          record anchor order (.sequence tag (← blockItems bound))
        else if block && next == some .blockMappingStart then
          let (anchor, order) ← begin name
          skip
          record anchor order (.mapping tag (← blockPairs bound))
        else if name.isSome || tag.isSome then
          let (anchor, order) ← begin name
          record anchor order (.scalar .plain tag "")
        else failure

/-- Reads the entries of an indented sequence up to its end. -/
def blockItems : Nat → Reading (List Node)
  | 0 => failure
  | bound + 1 => do
    match ← peek with
    | some .blockEntry =>
      skip
      let item ← if ← sees [.blockEntry, .blockEnd] then blank else node bound true false
      return item :: (← blockItems bound)
    | some .blockEnd =>
      skip
      count
      return []
    | _ => failure

/-- Reads the entries of a sequence that is not indented; it ends where no dash follows. -/
def unindentedItems : Nat → Reading (List Node)
  | 0 => failure
  | bound + 1 => do
    match ← peek with
    | some .blockEntry =>
      skip
      let item ←
        if ← sees [.blockEntry, .key, .value, .blockEnd] then blank else node bound true false
      return item :: (← unindentedItems bound)
    | _ =>
      count
      return []

/-- Reads the entries of a block mapping up to its end. -/
def blockPairs : Nat → Reading (List (Node × Node))
  | 0 => failure
  | bound + 1 => do
    match ← peek with
    | some .key =>
      skip
      let key ← if ← sees [.key, .value, .blockEnd] then blank else node bound true true
      let value ←
        if ← sees [.value] then do
          skip
          if ← sees [.key, .value, .blockEnd] then blank else node bound true true
        else blank
      return (key, value) :: (← blockPairs bound)
    | some .blockEnd =>
      skip
      count
      return []
    | _ => failure

/-- Reads the entries of a flow sequence up to its end. An entry with a key is a mapping of its
own. -/
def flowItems : Nat → Bool → Reading (List Node)
  | 0, _ => failure
  | bound + 1, first => do
    if ← sees [.flowSequenceEnd] then
      skip
      count
      return []
    if !first then
      if ← sees [.flowEntry] then skip else failure
    match ← peek with
    | some .flowSequenceEnd =>
      skip
      count
      return []
    | some .key =>
      skip
      count
      let key ←
        if ← sees [.value, .flowEntry, .flowSequenceEnd] then do
          skip
          blank
        else node bound false false
      let value ←
        if ← sees [.value] then do
          skip
          if ← sees [.flowEntry, .flowSequenceEnd] then blank else node bound false false
        else blank
      count
      return .mapping none [(key, value)] :: (← flowItems bound false)
    | _ =>
      let item ← node bound false false
      return item :: (← flowItems bound false)

/-- Reads the entries of a flow mapping up to its end. An entry without a colon has no value. -/
def flowPairs : Nat → Bool → Reading (List (Node × Node))
  | 0, _ => failure
  | bound + 1, first => do
    if ← sees [.flowMappingEnd] then
      skip
      count
      return []
    if !first then
      if ← sees [.flowEntry] then skip else failure
    match ← peek with
    | some .flowMappingEnd =>
      skip
      count
      return []
    | some .key =>
      skip
      let key ←
        if ← sees [.value, .flowEntry, .flowMappingEnd] then blank else node bound false false
      let value ←
        if ← sees [.value] then do
          skip
          if ← sees [.flowEntry, .flowMappingEnd] then blank else node bound false false
        else blank
      return (key, value) :: (← flowPairs bound false)
    | _ =>
      let key ← node bound false false
      let value ← blank
      return (key, value) :: (← flowPairs bound false)

end

/-- Adds a tag handle of a directive; a handle is declared once. -/
def declareHandle (handle start : String) : Reading Unit := do
  let progress ← get
  if progress.handles.any (·.1 == handle) then failure
  else set { progress with handles := (handle, start) :: progress.handles }

/-- Reads the directives in front of a document: at most one version, which must be a known one. -/
def directives : Nat → Bool → Reading Unit
  | 0, _ => failure
  | bound + 1, versioned => do
    match ← peek with
    | some (.versionDirective major minor) =>
      if versioned || major != 1 || !(minor == 1 || minor == 2) then failure
      skip
      directives bound true
    | some (.tagDirective handle start) =>
      declareHandle handle start
      skip
      directives bound versioned
    | _ => return

/-- The handles that need no declaration, unless they were declared. -/
def declareUsual : Reading Unit :=
  modify fun progress =>
    { progress with
      handles := progress.handles ++ [("!", "!"), ("!!", "tag:yaml.org,2002:")] }

/-- Whether the content of an explicit document is missing. -/
def atContentEnd : Reading Bool := do
  match ← peek with
  | none => return true
  | some (.versionDirective ..) => return true
  | some (.tagDirective ..) => return true
  | some token => return token == .documentStart || token == .documentEnd

/-- Reads the root of the first document. -/
def root (bound : Nat) : Reading Node := do
  match ← peek with
  | none => blank
  | some (.versionDirective ..) | some (.tagDirective ..) | some .documentStart =>
    directives bound false
    declareUsual
    if !(← sees [.documentStart]) then failure
    skip
    if ← atContentEnd then blank else node bound true false
  | _ =>
    declareUsual
    node bound true false

end Reading

/-- The document of a text, if the text holds exactly one; an empty text holds an empty document. -/
def Document.read? (text : String) : Option Document := do
  let tokens ← tokens? text
  let (root, progress) ← Reading.root (3 * tokens.length + 3) ⟨tokens, [], [], [], 0⟩
  if progress.tokens.all (· == .documentEnd) then return ⟨root, progress.anchored, progress.size⟩
  else none

end Convoy.Yaml
