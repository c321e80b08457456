/-!
# YAML nodes

A YAML document is a tree of scalars, sequences and mappings. A scalar keeps the text that
was written, and whether it was written plainly, that is without quotes or a block header:
only a plain scalar can stand for something else than its text.

## Main definitions

* `Yaml.Node` — a node
* `Yaml.Node.empty` — what stands where nothing is written
-/

namespace ApiContract.Yaml

/-- A node. A tag is written out in full, so that a tag of the document's own starts with
an exclamation mark. -/
inductive Node where
  | scalar (tag : Option String) (plain : Bool) (text : String)
  | sequence (tag : Option String) (items : List Node)
  | mapping (tag : Option String) (pairs : List (Node × Node))
  deriving Repr

namespace Node

/-- What stands where nothing is written. -/
def empty : Node := .scalar none true ""

/-- Whether nothing is written. -/
def isEmpty : Node → Bool
  | .scalar _ plain text => plain && text.isEmpty
  | _ => false

/-- A node with a tag, if there is one to put on it. The bare tag says nothing of a scalar
that is written. -/
def withTag (tag : Option String) (n : Node) : Node :=
  match tag, n with
  | none, n => n
  | some "!", .scalar _ plain text =>
    .scalar (if plain && text.isEmpty then some "!" else none) plain text
  | some t, .scalar _ plain text => .scalar (some t) plain text
  | some t, .sequence _ items => .sequence (some t) items
  | some t, .mapping _ pairs => .mapping (some t) pairs

/-- The written text of a scalar. -/
def text? : Node → Option String
  | .scalar _ _ text => some text
  | _ => none

/-- The items of a sequence; where nothing is written there are none. -/
def items? : Node → Option (List Node)
  | .sequence _ items => some items
  | n => if n.isEmpty then some [] else none

/-- The pairs of a mapping; where nothing is written there are none. -/
def pairs? : Node → Option (List (Node × Node))
  | .mapping _ pairs => some pairs
  | n => if n.isEmpty then some [] else none

end Node

end ApiContract.Yaml
