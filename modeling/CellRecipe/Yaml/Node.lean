import CellRecipe.Yaml.Token

/-!
# Nodes of YAML

What a text denotes: scalars, sequences, mappings and aliases. An alias is the number of an anchor;
the nodes that anchors mark are kept beside the root, so that a node may be reached from within
itself.

## Main definitions

* `Node`: the nodes.
* `Content`: the root and the nodes that aliases stand for.
* `Node.text?`, `Node.items?`, `Node.entries?`: the parts of nodes, for readers of records.
-/

namespace CellRecipe.Yaml

/-- A scalar, its style and its tag. -/
structure Scalar where
  text : String
  style : ScalarStyle
  tag : Option String
  deriving DecidableEq, Inhabited

/-- A node. -/
inductive Node where
  | scalar (scalar : Scalar)
  | sequence (items : List Node)
  | mapping (entries : List (Node × Node))
  | aliasFor (number : Nat)
  deriving Inhabited

/-- The nodes that aliases stand for, by their numbers; of two nodes with one number the first one
counts. -/
abbrev Anchors := List (Nat × Node)

/-- The root of a document and the nodes that its aliases stand for. -/
structure Content where
  root : Node
  anchors : Anchors

namespace Node

/-- A scalar that is not there. -/
def empty (tag : Option String) : Node := .scalar ⟨"", .plain, tag⟩

/-- Is the node a plain scalar without characters? -/
def isEmpty : Node → Bool
  | .scalar s => s.text.isEmpty && s.style == .plain
  | _ => false

/-- The node that an alias stands for, and any other node itself. -/
def target (anchors : Anchors) : Node → Node
  | .aliasFor number => (anchors.lookup number).getD (.aliasFor number)
  | n => n

/-- The text of a scalar. -/
def text? : Node → Option String
  | .scalar s => some s.text
  | _ => none

/-- The items of a sequence; a plain scalar without characters has none. -/
def items? (anchors : Anchors) : Node → Option (List Node)
  | .sequence items => some (items.map (target anchors))
  | n => if n.isEmpty then some [] else none

/-- The entries of a mapping; a plain scalar without characters has none. -/
def entries? (anchors : Anchors) : Node → Option (List (Node × Node))
  | .mapping entries => some (entries.map fun e => (e.1.target anchors, e.2.target anchors))
  | n => if n.isEmpty then some [] else none

end Node

end CellRecipe.Yaml
