import Remap.Proofs.Syntax.Orderly

/-!
# Where a target lies

The search for a target threads boundaries and ancestors through the tree.
`Target.IsPlaced` says what they are: the ancestors lead from the root down
through constructs that enclose the comment, the target is one of the constructs
of the last of them, and its boundaries are where the constructs beside it stop
and start, or where their parent does. Every target is placed so
(`exists_isPlaced_of_target?`), whatever the tree looks like.
-/

namespace Remap

open Node

/-- A way down from the root, the last node first: through constructs that enclose
the comment. -/
inductive Lineage (grammar : Grammar) (comment : ByteSpan) (root : Node) : List Node → Prop
  | root : Lineage grammar comment root [root]
  | child {node parent : Node} {rest : List Node} :
      Lineage grammar comment root (parent :: rest) → node ∈ parent.constructs grammar →
      encloses comment node → Lineage grammar comment root (node :: parent :: rest)

/-- Where the last of some constructs stops, if there is one. -/
def lastStop? (constructs : List Node) : Option Nat := constructs.getLast?.map Node.stop

/-- A target among the constructs `before` and `behind` of its parent. -/
structure Target.IsPlaced (grammar : Grammar) (root : Node) (comment : ByteSpan) (target : Target)
    (parent : Node) (rest before behind : List Node) : Prop where
  ancestors_eq : target.ancestors = parent :: rest
  lineage : Lineage grammar comment root (parent :: rest)
  constructs_eq : parent.constructs grammar = before ++ target.node :: behind
  before_eq : target.before = (lastStop? before).getD parent.start
  after_eq : target.after = (behind.head?.map Node.start).getD parent.stop
  follows : follows comment (lastStop? before) target.node.start

namespace Node

variable {grammar : Grammar} {comment : ByteSpan} {root : Node}

theorem targetAt?_eq (previous : Option Nat) (before after : Nat) (ancestors : List Node)
    (node : Node) :
    node.targetAt? grammar comment previous before after ancestors =
      if follows comment previous node.start then some ⟨node, before, after, ancestors⟩
      else if encloses comment node then
        targetAmong? grammar comment node.start node.stop (node :: ancestors) none node.children
      else none := by
  cases node
  rfl

/-- Every target below a node that some ancestors lead to is placed. -/
def PlacesTargets (grammar : Grammar) (comment : ByteSpan) (root node : Node) : Prop :=
  ∀ ⦃parent rest before behind target⦄, Lineage grammar comment root (parent :: rest) →
    parent.constructs grammar = before ++ node :: behind →
    node.targetAt? grammar comment (lastStop? before) ((lastStop? before).getD parent.start)
      ((behind.head?.map Node.start).getD parent.stop) (parent :: rest) = some target →
    ∃ parent rest before behind,
      target.IsPlaced grammar root comment parent rest before behind

theorem exists_isPlaced_of_targetAmong? {children : List Node}
    (hchildren : ∀ child ∈ children, PlacesTargets grammar comment root child) {parent : Node}
    {rest before : List Node} {target : Target}
    (hlineage : Lineage grammar comment root (parent :: rest))
    (hconstructs : parent.constructs grammar = before ++ children.filter grammar.isConstruct)
    (h : targetAmong? grammar comment parent.start parent.stop (parent :: rest) (lastStop? before)
      children = some target) :
    ∃ parent rest before behind,
      target.IsPlaced grammar root comment parent rest before behind := by
  induction children generalizing before with
  | nil => cases h
  | cons child children ih =>
      have hlater := fun c hc => hchildren c (List.mem_cons_of_mem _ hc)
      simp only [targetAmong?] at h
      split at h
      · next hconstruct =>
          rw [List.filter_cons_of_pos hconstruct] at hconstructs
          rw [← List.head?_filter] at h
          split at h
          · next found hfound =>
              cases h
              exact hchildren child List.mem_cons_self hlineage hconstructs hfound
          · have hstop : lastStop? (before ++ [child]) = some child.stop := by
              rw [lastStop?, List.getLast?_concat, Option.map_some]
            rw [← hstop] at h
            refine ih hlater ?_ h
            rw [hconstructs, List.append_assoc, List.singleton_append]
      · next hconstruct =>
          rw [List.filter_cons_of_neg hconstruct] at hconstructs
          exact ih hlater hconstructs h

theorem placesTargets (grammar : Grammar) (comment : ByteSpan) (root node : Node) :
    PlacesTargets grammar comment root node := by
  induction node using inductionOnChildren with
  | step node ih =>
      intro parent rest before behind target hlineage hconstructs h
      rw [targetAt?_eq] at h
      split at h
      · next hfollows =>
          cases h
          exact ⟨parent, rest, before, behind, rfl, hlineage, hconstructs, rfl, rfl, hfollows⟩
      · split at h
        · next hencloses =>
            have hmem : node ∈ parent.constructs grammar := by
              rw [hconstructs]
              exact List.mem_append_right _ List.mem_cons_self
            exact exists_isPlaced_of_targetAmong? ih (.child hlineage hmem hencloses)
              (List.nil_append _).symm h
        · cases h

/-- Every target is placed in its tree. -/
theorem exists_isPlaced_of_target? {target : Target}
    (h : root.target? grammar comment = some target) :
    ∃ parent rest before behind, target.IsPlaced grammar root comment parent rest before behind :=
  exists_isPlaced_of_targetAmong? (fun child _ => placesTargets grammar comment root child) .root
    (List.nil_append _).symm h

end Node

/-! ## Lineages in orderly trees -/

namespace Lineage

variable {grammar : Grammar} {comment : ByteSpan} {root node parent : Node}
  {ancestors rest : List Node}

theorem mem_preorder (h : Lineage grammar comment root ancestors) (hnode : node ∈ ancestors) :
    node ∈ root.preorder := by
  induction h generalizing node with
  | root =>
      rw [List.mem_singleton.mp hnode]
      exact self_mem_preorder root
  | child _ hconstruct _ ih =>
      rcases List.mem_cons.mp hnode with rfl | hnode
      · exact mem_preorder_of_mem_children (ih List.mem_cons_self) (List.mem_filter.mp hconstruct).1
      · exact ih hnode

/-- All ancestors start at or before a comment in the tree. -/
theorem start_le (h : Lineage grammar comment root ancestors) (hroot : root.start ≤ comment.start)
    (hnode : node ∈ ancestors) : node.start ≤ comment.start := by
  induction h with
  | root =>
      rw [List.mem_singleton.mp hnode]
      exact hroot
  | child _ _ hencloses ih =>
      rcases List.mem_cons.mp hnode with rfl | hnode
      · simp only [encloses, Bool.and_eq_true, decide_eq_true_eq] at hencloses
        exact hencloses.1
      · exact ih hnode

/-- Farther ancestors stop no earlier. -/
theorem stop_le (h : Lineage grammar comment root (parent :: rest))
    (horderly : ∀ n ∈ root.preorder, n.IsOrderly) (hnode : node ∈ parent :: rest) :
    parent.stop ≤ node.stop := by
  generalize hancestors : parent :: rest = ancestors at h hnode
  induction h generalizing parent rest with
  | root =>
      cases hancestors
      obtain rfl := List.mem_singleton.mp hnode
      exact Nat.le_refl _
  | @child own above rest' hlineage hconstruct _ ih =>
      cases hancestors
      rcases List.mem_cons.mp hnode with rfl | hnode
      · exact Nat.le_refl _
      · have habove := hlineage.mem_preorder List.mem_cons_self
        have hwithin := (horderly above habove).within own (List.mem_filter.mp hconstruct).1
        exact Nat.le_trans hwithin.stop_le_stop (ih rfl hnode)

end Lineage

/-! ## Targets in orderly trees -/

namespace Target.IsPlaced

variable {grammar : Grammar} {comment : ByteSpan} {root parent : Node} {target : Target}
  {rest before behind : List Node}

theorem parent_mem (h : target.IsPlaced grammar root comment parent rest before behind) :
    parent ∈ root.preorder :=
  h.lineage.mem_preorder List.mem_cons_self

theorem mem_children (h : target.IsPlaced grammar root comment parent rest before behind)
    {sibling : Node} (hsibling : sibling ∈ before ++ target.node :: behind) :
    sibling ∈ parent.children := by
  rw [← h.constructs_eq] at hsibling
  exact (List.mem_filter.mp hsibling).1

theorem mem_preorder (h : target.IsPlaced grammar root comment parent rest before behind)
    {sibling : Node} (hsibling : sibling ∈ before ++ target.node :: behind) :
    sibling ∈ root.preorder :=
  mem_preorder_of_mem_children h.parent_mem (h.mem_children hsibling)

/-- The construct lies behind the comment. -/
theorem comment_le (h : target.IsPlaced grammar root comment parent rest before behind) :
    comment.stop ≤ target.node.start := by
  have := h.follows
  simp only [Node.follows, Bool.and_eq_true, decide_eq_true_eq] at this
  exact this.1

/-- The first boundary lies before the comment. -/
theorem before_le (h : target.IsPlaced grammar root comment parent rest before behind)
    (hroot : root.start ≤ comment.start) : target.before ≤ comment.start := by
  have hfollows := h.follows
  rw [h.before_eq]
  cases hstop : lastStop? before with
  | none => exact h.lineage.start_le hroot List.mem_cons_self
  | some stop =>
      rw [hstop] at hfollows
      simp only [Node.follows, Option.all_some, Bool.and_eq_true, decide_eq_true_eq] at hfollows
      exact hfollows.2

/-- The first boundary is no earlier than the construct before stops. -/
theorem le_before (h : target.IsPlaced grammar root comment parent rest before behind)
    {sibling : Node} (hsibling : sibling ∈ before.getLast?) : target.before = sibling.stop := by
  rw [h.before_eq, lastStop?, Option.mem_def.mp hsibling]
  rfl

variable (horderly : ∀ n ∈ root.preorder, n.IsOrderly)

include horderly

/-- The second boundary lies behind the construct. -/
theorem stop_le_after (h : target.IsPlaced grammar root comment parent rest before behind) :
    target.node.stop ≤ target.after := by
  have hparent := horderly parent h.parent_mem
  rw [h.after_eq]
  cases hbehind : behind with
  | nil => exact (hparent.within _ (h.mem_children (by simp))).stop_le_stop
  | cons sibling others =>
      have hconstructs := hparent.pairwise_constructs grammar
      rw [h.constructs_eq, hbehind] at hconstructs
      have hfrom := (List.pairwise_append.mp hconstructs).2.1
      exact (List.pairwise_cons.mp hfrom).1 sibling List.mem_cons_self

theorem after_le (h : target.IsPlaced grammar root comment parent rest before behind) :
    target.after ≤ parent.stop := by
  have hparent := horderly parent h.parent_mem
  rw [h.after_eq]
  cases hbehind : behind with
  | nil => exact Nat.le_refl _
  | cons sibling others =>
      exact (hparent.within sibling (h.mem_children (by simp [hbehind]))).start_le_stop

/-- To the end of an enclosing block is at least as far as to the construct behind. -/
theorem after_le_of_rest (h : target.IsPlaced grammar root comment parent rest before behind)
    {range : ByteSpan} (hrange : target.range? grammar .rest = some range) :
    range.start = target.before ∧ target.after ≤ range.stop := by
  obtain ⟨block, hblock, rfl⟩ := Option.map_eq_some_iff.mp hrange
  have hmem := List.mem_of_find?_eq_some hblock
  rw [h.ancestors_eq] at hmem
  exact ⟨rfl, Nat.le_trans (h.after_le horderly) (h.lineage.stop_le horderly hmem)⟩

/-- A directive's bytes reach from the first boundary at least to the end of the
construct. -/
theorem range_bounds (h : target.IsPlaced grammar root comment parent rest before behind)
    {directive : RangeDirective} {range : ByteSpan}
    (hrange : target.range? grammar directive = some range) :
    range.start = target.before ∧ target.node.stop ≤ range.stop := by
  have hstop := h.stop_le_after horderly
  cases directive with
  | next =>
      cases hrange
      exact ⟨rfl, hstop⟩
  | rest =>
      obtain ⟨hstart, hafter⟩ := h.after_le_of_rest horderly hrange
      exact ⟨hstart, Nat.le_trans hstop hafter⟩

end Target.IsPlaced

end Remap
