/-!
# Trees of values

Structured data on its way out: texts, numbers, lists, and records whose fields keep their order.
-/

namespace Convoy

inductive Tree where
  | text (value : String)
  | number (value : Nat)
  | boolean (value : Bool)
  | list (items : List Tree)
  | record (fields : List (String × Tree))

namespace Tree

/-- A list of texts. -/
def texts (values : List String) : Tree := list (values.map text)

/-- A field that is left out if there is nothing in its list. -/
def someTexts (name : String) (values : List String) : List (String × Tree) :=
  if values.isEmpty then [] else [(name, texts values)]

/-- A field that is left out if it has no value. -/
def optional {α : Type} (name : String) (value : Option α) (encode : α → Tree) :
    List (String × Tree) :=
  value.toList.map fun present => (name, encode present)

end Tree

end Convoy
