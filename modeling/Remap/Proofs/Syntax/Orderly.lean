import Remap.Directive.Target
import Remap.Proofs.Text.Offsets

/-!
# Orderly trees

Trees are taken apart by induction over the children of a node. A tree fits a
text when every node has its children in order and within it, and every offset
falls between two characters of the text (`SyntaxTree.Fits`). All nodes below a
node then lie within it, the comments among them too.
-/

namespace Remap

namespace Node

/-! ## Trees by their children -/

/-- What passes from the children of a node to the node holds of all nodes. -/
theorem inductionOnChildren {motive : Node → Prop}
    (step : ∀ node, (∀ child ∈ node.children, motive child) → motive node) (node : Node) :
    motive node :=
  step node fun child _ => inductionOnChildren step child
termination_by sizeOf node
decreasing_by
  cases node
  have := List.sizeOf_lt_of_mem ‹_›
  simp only [mk.sizeOf_spec] at this ⊢
  omega

theorem preorderAll_eq_flatMap (nodes : List Node) :
    preorderAll nodes = nodes.flatMap preorder := by
  induction nodes with
  | nil => rfl
  | cons node rest ih => rw [preorderAll, ih, List.flatMap_cons]

theorem mem_preorder_iff {node other : Node} :
    other ∈ node.preorder ↔ other = node ∨ ∃ child ∈ node.children, other ∈ child.preorder := by
  rw [preorder_eq, preorderAll_eq_flatMap, List.mem_cons, List.mem_flatMap]

theorem self_mem_preorder (node : Node) : node ∈ node.preorder :=
  mem_preorder_iff.mpr (Or.inl rfl)

theorem mem_preorder_trans {root a b : Node} (ha : a ∈ root.preorder) (hb : b ∈ a.preorder) :
    b ∈ root.preorder := by
  induction root using inductionOnChildren with
  | step root ih =>
      rcases mem_preorder_iff.mp ha with rfl | ⟨child, hchild, ha⟩
      · exact hb
      · exact mem_preorder_iff.mpr (Or.inr ⟨child, hchild, ih child hchild ha⟩)

theorem mem_preorder_of_mem_children {root node child : Node} (hnode : node ∈ root.preorder)
    (hchild : child ∈ node.children) : child ∈ root.preorder :=
  mem_preorder_trans hnode (mem_preorder_iff.mpr (Or.inr ⟨child, hchild, self_mem_preorder child⟩))

theorem mem_children_of_mem_constructs {grammar : Grammar} {node child : Node}
    (h : child ∈ node.constructs grammar) : child ∈ node.children :=
  (List.mem_filter.mp h).1

theorem commentsAmong_eq_flatMap (grammar : Grammar) (nodes : List Node) :
    commentsAmong grammar nodes = nodes.flatMap (comments grammar) := by
  induction nodes with
  | nil => rfl
  | cons node rest ih => rw [commentsAmong, ih, List.flatMap_cons]

theorem comments_eq (grammar : Grammar) (node : Node) :
    node.comments grammar =
      if grammar.isComment node then [node] else node.children.flatMap (comments grammar) := by
  cases node
  rw [comments, commentsAmong_eq_flatMap]

/-- Comments are nodes of the tree. -/
theorem mem_preorder_of_mem_comments {grammar : Grammar} {root comment : Node}
    (h : comment ∈ root.comments grammar) : comment ∈ root.preorder := by
  induction root using inductionOnChildren with
  | step root ih =>
      rw [comments_eq] at h
      split at h
      · rw [List.mem_singleton.mp h]
        exact self_mem_preorder root
      · obtain ⟨child, hchild, h⟩ := List.mem_flatMap.mp h
        exact mem_preorder_iff.mpr (Or.inr ⟨child, hchild, ih child hchild h⟩)

/-! ## Order -/

/-- Whether both ends of a node lie within another. -/
structure Within (inner outer : Node) : Prop where
  start_le_start : outer.start ≤ inner.start
  start_le_stop : inner.start ≤ outer.stop
  stop_ge_start : outer.start ≤ inner.stop
  stop_le_stop : inner.stop ≤ outer.stop

instance (inner outer : Node) : Decidable (inner.Within outer) :=
  decidable_of_iff (outer.start ≤ inner.start ∧ inner.start ≤ outer.stop ∧
      outer.start ≤ inner.stop ∧ inner.stop ≤ outer.stop)
    ⟨fun ⟨h₁, h₂, h₃, h₄⟩ => ⟨h₁, h₂, h₃, h₄⟩, fun ⟨h₁, h₂, h₃, h₄⟩ => ⟨h₁, h₂, h₃, h₄⟩⟩

/-- Whether the children of a node are in order, apart from each other, and within it. -/
structure IsOrderly (node : Node) : Prop where
  pairwise : node.children.Pairwise fun a b => a.stop ≤ b.start
  within : ∀ child ∈ node.children, child.Within node

instance (node : Node) : Decidable node.IsOrderly :=
  decidable_of_iff ((node.children.Pairwise fun a b => a.stop ≤ b.start) ∧
      ∀ child ∈ node.children, child.Within node)
    ⟨fun ⟨h₁, h₂⟩ => ⟨h₁, h₂⟩, fun ⟨h₁, h₂⟩ => ⟨h₁, h₂⟩⟩

theorem IsOrderly.pairwise_constructs {node : Node} (h : node.IsOrderly) (grammar : Grammar) :
    (node.constructs grammar).Pairwise fun a b => a.stop ≤ b.start :=
  h.pairwise.filter _

/-- In a tree of orderly nodes no node reaches out of one above it. -/
theorem bounds_of_mem_preorder {node other : Node} (h : ∀ n ∈ node.preorder, n.IsOrderly)
    (hother : other ∈ node.preorder) : node.start ≤ other.start ∧ other.stop ≤ node.stop := by
  induction node using inductionOnChildren with
  | step node ih =>
      rcases mem_preorder_iff.mp hother with rfl | ⟨child, hchild, hother⟩
      · exact ⟨Nat.le_refl _, Nat.le_refl _⟩
      · have hbelow : ∀ n ∈ child.preorder, n.IsOrderly := fun n hn =>
          h n (mem_preorder_iff.mpr (Or.inr ⟨child, hchild, hn⟩))
        have hwithin := (h node (self_mem_preorder node)).within child hchild
        have := ih child hchild hbelow hother
        exact ⟨Nat.le_trans hwithin.start_le_start this.1,
          Nat.le_trans this.2 hwithin.stop_le_stop⟩

end Node

/-- An error-free tree of orderly nodes whose offsets fall between characters. -/
structure SyntaxTree.Fits (tree : SyntaxTree) (text : List Char) : Prop where
  hasError : tree.hasError = false
  orderly : ∀ node ∈ tree.root.preorder, node.IsOrderly
  marks : ∀ node ∈ tree.root.preorder,
    (∃ index, Text.Marks text node.start index) ∧ ∃ index, Text.Marks text node.stop index

end Remap
