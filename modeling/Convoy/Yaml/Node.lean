import Convoy.Yaml.Token

/-!
# Nodes of a document

The tree that a document stands for. An alias refers to an anchored node by a number; the number is
looked up only when the alias is followed, so that a node may even contain itself.
-/

namespace Convoy.Yaml

inductive Node where
  | scalar (style : Style) (tag : Option String) (text : String)
  | sequence (tag : Option String) (items : List Node)
  | mapping (tag : Option String) (pairs : List (Node × Node))
  | alias (anchor : Nat)

namespace Node

/-- The node of a place where nothing is written. -/
def blank : Node := scalar .plain none ""

instance : Inhabited Node := ⟨blank⟩

end Node

/-- A node that carries an anchor. -/
structure Anchored where
  anchor : Nat
  /-- How much of the document comes before the node. -/
  order : Nat
  node : Node

/-- A document: its root, the nodes that aliases refer to, and how many parts it has. -/
structure Document where
  root : Node
  anchored : List Anchored
  size : Nat

namespace Document

/-- The node that a number refers to: of several, the one that begins last. -/
def anchored? (document : Document) (anchor : Nat) : Option Node :=
  let found := document.anchored.foldl (fun (best : Option Anchored) candidate =>
    if candidate.anchor == anchor && best.all (·.order < candidate.order) then some candidate
    else best) none
  found.map (·.node)

/-- The node itself, or the one that an alias refers to. -/
def follow? (document : Document) : Node → Option Node
  | .alias anchor => document.anchored? anchor
  | node => some node

end Document

end Convoy.Yaml
