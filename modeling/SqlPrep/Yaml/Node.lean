import SqlPrep.Yaml.Tag

/-!
# Nodes

The nodes of a document as a tree. A node that a document refers to several times stands in the tree
several times, under one identity. A node without identity is referred to only where it stands.
-/

namespace SqlPrep.Yaml

/-- A node of a document. -/
inductive Node where
  | scalar (identity : Option Nat) (tag : Tag) (text : List Char)
  | sequence (identity : Option Nat) (tag : Tag) (items : List Node)
  | mapping (identity : Option Nat) (tag : Tag) (entries : List (Node × Node))

namespace Node

/-- What tells a node from others. -/
def identity : Node → Option Nat
  | scalar i _ _ | sequence i _ _ | mapping i _ _ => i

/-- The tag of a node. -/
def tag : Node → Tag
  | scalar _ t _ | sequence _ t _ | mapping _ t _ => t

/-- The node under another tag. -/
def withTag (t : Tag) : Node → Node
  | scalar i _ text => scalar i t text
  | sequence i _ items => sequence i t items
  | mapping i _ entries => mapping i t entries

end Node
end SqlPrep.Yaml
