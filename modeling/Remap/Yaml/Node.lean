import Remap.Yaml.Error
import Remap.Yaml.Tag

/-!
# Nodes

The nodes of a document: scalars, sequences and mappings, each with the kind that its tag or form
tells. A node with an anchor can be referred to from other places, also from within itself, so a
document is a graph. Its nodes are numbered in the order in which they start, and a collection holds
the numbers of its items.
-/

namespace Remap.Yaml

inductive Content where
  | scalar (text : List Char)
  | sequence (items : List Nat)
  | mapping (entries : List (Nat × Nat))
deriving Repr, DecidableEq

structure Node where
  tag : Tag
  content : Content
deriving Repr, DecidableEq

/-- A node that is not there. -/
def Node.empty : Node := ⟨.null, .scalar []⟩

/-- Nodes by their numbers. -/
abbrev Graph := Array Node

namespace Graph

def node (graph : Graph) (id : Nat) : Node := graph[id]?.getD .empty

def tag (graph : Graph) (id : Nat) : Tag := (graph.node id).tag

/-- The entries of a mapping; other nodes have none. -/
def entries (graph : Graph) (id : Nat) : List (Nat × Nat) :=
  match (graph.node id).content with
  | .mapping entries => entries
  | _ => []

def isMapping (graph : Graph) (id : Nat) : Bool :=
  match (graph.node id).content with
  | .mapping _ => true
  | _ => false

def setContent (graph : Graph) (id : Nat) (content : Content) : Graph :=
  graph.modify id ({ · with content })

def setTag (graph : Graph) (id : Nat) (tag : Tag) : Graph := graph.modify id ({ · with tag })

/-- The text of a scalar, or of the value that a mapping has under its default key. A way through
mappings is no longer than there are nodes, unless it leads in a circle. -/
def textFrom (graph : Graph) : Nat → Nat → Except Error (List Char)
  | 0, _ => .error .circle
  | steps + 1, id => match (graph.node id).content with
    | .scalar text => .ok text
    | .sequence _ => .error .malformed
    | .mapping entries => match entries.find? fun (key, _) => graph.tag key = .default with
      | some (_, value) => graph.textFrom steps value
      | none => .error .malformed

def text (graph : Graph) (id : Nat) : Except Error (List Char) := graph.textFrom (graph.size + 1) id

end Graph

end Remap.Yaml
