/-!
# Syntax trees

The tree that a parser delivers for a source text. A node has a kind, the bytes it spans, and
children in order; named nodes are those of the grammar's rules, the others are its punctuation.
Nothing is assumed of the spans: children may overlap or lie outside their parent.

A parser that met an error has marked the tree. `firstFlaw?` then finds the node to report, by a
walk with an explicit stack, so that deep trees need no recursion; `Node.preorder` is the order
in which it looks.
-/

namespace Remap

/-- A node of a syntax tree. `start` and `stop` are byte offsets; `row` and `column` (in bytes)
locate the start, both counted from zero. A missing node stands for a token that the parser had
to invent. -/
structure Node where
  kind : String
  start : Nat
  stop : Nat
  named : Bool
  missing : Bool
  row : Nat
  column : Nat
  children : List Node
deriving Repr, Inhabited

/-- The outcome of a parse: the root of the tree, and whether the parser met an error. -/
structure SyntaxTree where
  root : Node
  hasError : Bool
deriving Repr

namespace Node

/-- Whether the node marks a place that the parser could not make sense of. -/
def isFlaw (node : Node) : Bool := node.kind == "ERROR" || node.missing

mutual

/-- The nodes of a tree, each before its children. -/
def preorder : Node → List Node
  | node@⟨_, _, _, _, _, _, _, children⟩ => node :: preorderAll children

def preorderAll : List Node → List Node
  | [] => []
  | node :: rest => node.preorder ++ preorderAll rest

end

theorem preorder_eq (node : Node) : node.preorder = node :: preorderAll node.children := by
  cases node; rfl

theorem preorderAll_append (a b : List Node) :
    preorderAll (a ++ b) = preorderAll a ++ preorderAll b := by
  induction a with
  | nil => rfl
  | cons node rest ih => simp [preorderAll, ih]

/-! ## Flaws -/

/-- The nodes that a walk with this stack has still to visit, in order: from the last node of the
stack down to the first, each before its children. -/
def awaiting (stack : Array Node) : List Node := preorderAll stack.toList.reverse

theorem awaiting_push (stack : Array Node) (node : Node) :
    awaiting (stack.push node) = node :: awaiting (stack ++ node.children.reverse) := by
  simp [awaiting, preorderAll, preorder_eq, preorderAll_append]

/-- The first flaw that a walk comes to. It visits the last node of its stack and puts the children
of the node in its place, the last child first, so that the first one is visited next. -/
def firstFlaw? (stack : Array Node) : Option Node :=
  match _ : stack.back? with
  | none => none
  | some node =>
    if node.isFlaw then some node else firstFlaw? (stack.pop ++ node.children.reverse)
termination_by (awaiting stack).length
decreasing_by
  obtain ⟨below, rfl⟩ := Array.back?_eq_some_iff.mp ‹_›
  rw [Array.pop_push, awaiting_push, List.length_cons]
  exact Nat.lt_succ_self _

end Node

/-- Line and column of the first flaw of a tree, or of its root if there is none. The line counts
from one, the column from zero. -/
def SyntaxTree.errorPlace (tree : SyntaxTree) : Nat × Nat :=
  let node := (Node.firstFlaw? #[tree.root]).getD tree.root
  (node.row + 1, node.column)

end Remap
