import Convoy.Yaml.Node
import Convoy.Yaml.Scalar

/-!
# Values out of nodes

Readers for the kinds of value that a configuration holds. A text may be any scalar as it is
written, numbers and booleans must be plain, and an empty place counts as an empty collection.
-/

namespace Convoy.Yaml

/-- The tags of the core schema. -/
def coreTag (name : String) : String := "tag:yaml.org,2002:" ++ name

/-- Reads a value out of a node of a document. -/
abbrev Decoder (α : Type) := Document → Node → Option α

namespace Decoder

variable {α : Type}

/-- Any scalar, as it is written. -/
def text : Decoder String := fun document node => do
  match ← document.follow? node with
  | .scalar _ _ text => some text
  | _ => none

/-- Whether a scalar may be something else than a text: a plain one, or a literal one with that
tag. -/
def isBare (style : Style) (tag : Option String) (name : String) : Bool :=
  style == .plain || (style == .literal && tag == some (coreTag name))

/-- A whole number below a limit. -/
def natural (limit : Nat) : Decoder Nat := fun document node => do
  match ← document.follow? node with
  | .scalar style tag text =>
    let value ← Scalar.natural? text.toList
    if isBare style tag "int" && value < limit then some value else none
  | _ => none

/-- A port number. -/
def port : Decoder UInt16 := fun document node =>
  (natural 65536 document node).map UInt16.ofNat

def boolean : Decoder Bool := fun document node => do
  match ← document.follow? node with
  | .scalar style tag text => if isBare style tag "bool" then Scalar.boolean? text else none
  | _ => none

/-- A value or nothing, which an empty place or a plain null stands for. -/
def option (decode : Decoder α) : Decoder (Option α) := fun document node => do
  let target ← document.follow? node
  let present ←
    match target with
    | .scalar .plain none text => some !(text.isEmpty || Scalar.isNull text)
    | .scalar .plain (some tag) text =>
      if tag == coreTag "null" then if Scalar.isNull text then some false else none else some true
    | _ => some true
  if present then (decode document target).map some else some none

/-- Whether a node is a place where nothing is written. -/
def isVacant : Node → Bool
  | .scalar .plain _ text => text.isEmpty
  | _ => false

/-- A sequence of values. -/
def list (decode : Decoder α) : Decoder (List α) := fun document node => do
  match ← document.follow? node with
  | .sequence _ items => items.mapM (decode document)
  | other => if isVacant other then some [] else none

/-- The entries of a mapping whose keys are texts. -/
def entries : Decoder (List (String × Node)) := fun document node => do
  match ← document.follow? node with
  | .mapping _ pairs => pairs.mapM fun pair => do return (← text document pair.1, pair.2)
  | other => if isVacant other then some [] else none

/-- A mapping from texts to values. -/
def table (decode : Decoder α) : Decoder (List (String × α)) := fun document node => do
  let found ← entries document node
  found.mapM fun entry => do return (entry.1, ← decode document entry.2)

/-- One of several words, or a tag with that name on an empty place. -/
def choice (words : List (String × α)) : Decoder α := fun document node => do
  match ← document.follow? node with
  | .scalar style tag text =>
    match tag.map String.toList with
    | some ('!' :: name) =>
      if style == .plain && (text.isEmpty || Scalar.isNull text) then
        words.lookup (String.ofList name)
      else none
    | _ => words.lookup text
  | _ => none

end Decoder

/-- The entries of a mapping with known field names, none of which occurs twice. -/
structure Fields where
  document : Document
  entries : List (String × Node)

namespace Fields

variable {α : Type}

/-- The fields of a node; entries with other names do not matter. -/
def ofNode (names : List String) (document : Document) (node : Node) : Option Fields := do
  let entries ← Decoder.entries document node
  let repeated := names.any fun name => 1 < (entries.filter (·.1 == name)).length
  if repeated then none else return ⟨document, entries⟩

/-- A field that must be there. -/
def required (fields : Fields) (name : String) (decode : Decoder α) : Option α := do
  let node ← fields.entries.lookup name
  decode fields.document node

/-- A field that has a usual value. -/
def usual (fields : Fields) (name : String) (decode : Decoder α) (value : α) : Option α :=
  match fields.entries.lookup name with
  | some node => decode fields.document node
  | none => some value

end Fields

end Convoy.Yaml
