import Mathlib.Order.Bounds.Basic
import Remap.Proofs.Directive.Accounting
import Remap.Proofs.Directive.Deepest

/-!
# Order of segments

Two comments may refer to constructs at different depths, one within a construct that lies beside
the other's. What their segments start from is nevertheless the same thing of both: of all edges
of constructs below the root (`IsEdge`), the last at or before the comment
(`Target.IsPlaced.isGreatest_before`). A later comment has no fewer edges before it, so its
segment starts no earlier (`resolveSegments_pairwise`).

That no edge lies between is shown along the way down to the target: an edge at or before the
comment is at or before the start of each node on the way, or below one of its constructs.
-/

namespace Remap

open Node Text

/-! ## Edges -/

/-- The starts and stops of a node and of the constructs below it that are reached through
constructs. -/
inductive IsEdge (grammar : Grammar) : Node → Nat → Prop
  | start (node : Node) : IsEdge grammar node node.start
  | stop (node : Node) : IsEdge grammar node node.stop
  | child {node own : Node} {edge : Nat} : own ∈ node.constructs grammar →
      IsEdge grammar own edge → IsEdge grammar node edge

/-- The edges at or before an offset. -/
def edgesUpTo (grammar : Grammar) (root : Node) (offset : Nat) : Set Nat :=
  {edge | IsEdge grammar root edge ∧ edge ≤ offset}

theorem edgesUpTo_mono {grammar : Grammar} {root : Node} {offset offset' : Nat}
    (h : offset ≤ offset') : edgesUpTo grammar root offset ⊆ edgesUpTo grammar root offset' :=
  fun _ hedge => ⟨hedge.1, Nat.le_trans hedge.2 h⟩

section

variable {grammar : Grammar} {comment : ByteSpan} {root node a : Node} {edge : Nat}

/-- In a nested tree no edge lies outside its node. -/
theorem IsEdge.bounds (h : IsEdge grammar node edge) (hnested : ∀ n ∈ root.preorder, n.IsNested)
    (hnode : node ∈ root.preorder) (hproper : node.start ≤ node.stop) :
    node.start ≤ edge ∧ edge ≤ node.stop := by
  induction h with
  | start node => exact ⟨Nat.le_refl _, hproper⟩
  | stop node => exact ⟨hproper, Nat.le_refl _⟩
  | @child node own edge hown _ ih =>
      have hchild := mem_children_of_mem_constructs hown
      have hwithin := (hnested node hnode).within own hchild
      obtain ⟨hstart, hstop⟩ := ih (mem_preorder_of_mem_children hnode hchild)
        ((hnested node hnode).start_le_stop own hchild)
      exact ⟨Nat.le_trans hwithin.start_le_start hstart, Nat.le_trans hstop hwithin.stop_le_stop⟩

theorem IsEdge.bounds_of_mem_constructs (h : IsEdge grammar a edge)
    (hnested : ∀ n ∈ root.preorder, n.IsNested) (hnode : node ∈ root.preorder)
    (ha : a ∈ node.constructs grammar) : a.start ≤ edge ∧ edge ≤ a.stop :=
  h.bounds hnested (mem_preorder_of_mem_children hnode (mem_children_of_mem_constructs ha))
    ((hnested node hnode).start_le_stop a (mem_children_of_mem_constructs ha))

/-- An edge at or before a comment within a node is its start or lies below it. -/
theorem IsEdge.eq_start_or_child (h : IsEdge grammar node edge)
    (hne : comment.start < comment.stop) (hencloses : encloses comment node)
    (hle : edge ≤ comment.start) :
    edge = node.start ∨ ∃ own ∈ node.constructs grammar, IsEdge grammar own edge := by
  cases h with
  | start => exact Or.inl rfl
  | stop =>
      have := (encloses_iff.mp hencloses).2
      omega
  | child hown hedge => exact Or.inr ⟨_, hown, hedge⟩

end

/-! ## Down to the target -/

section

variable {grammar : Grammar} {comment : ByteSpan} {root node : Node} {above : List Node}
  {edge : Nat}

/-- What is an edge of a node on the way down is one of the root. -/
theorem Lineage.isEdge (h : Lineage grammar comment root (node :: above))
    (hedge : IsEdge grammar node edge) : IsEdge grammar root edge := by
  generalize hancestors : node :: above = ancestors at h
  induction h generalizing node above with
  | root =>
      cases hancestors
      exact hedge
  | child _ hnext _ ih =>
      cases hancestors
      exact ih (.child hnext hedge) rfl

/-- On the way down an edge at or before the comment is left behind, or lies below. -/
theorem Lineage.le_start_or_child (h : Lineage grammar comment root (node :: above))
    (hnested : ∀ n ∈ root.preorder, n.IsNested) (hne : comment.start < comment.stop)
    (hroot : encloses comment root) (hedge : IsEdge grammar root edge)
    (hle : edge ≤ comment.start) :
    edge ≤ node.start ∨ ∃ own ∈ node.constructs grammar, IsEdge grammar own edge := by
  generalize hancestors : node :: above = ancestors at h
  induction h generalizing node above with
  | root =>
      cases hancestors
      exact (hedge.eq_start_or_child hne hroot hle).imp_left Nat.le_of_eq
  | @child next parent rest hlineage hnext hencloses ih =>
      cases hancestors
      have hmem := hlineage.mem_preorder List.mem_cons_self
      have hparent := hnested parent hmem
      rcases ih rfl with hstart | ⟨own, hown, hedge⟩
      · have hwithin := hparent.within next (mem_children_of_mem_constructs hnext)
        exact Or.inl (Nat.le_trans hstart hwithin.start_le_start)
      · have hbounds := hedge.bounds_of_mem_constructs hnested hmem hown
        rcases hparent.eq_or_apart hown hnext with rfl | hbefore | hbehind
        · exact (hedge.eq_start_or_child hne hencloses hle).imp_left Nat.le_of_eq
        · exact Or.inl (Nat.le_trans hbounds.2 hbefore)
        · -- What starts behind the node on the way starts behind the comment.
          have := (encloses_iff.mp hencloses).2
          omega

end

namespace Target.IsPlaced

variable {grammar : Grammar} {comment : ByteSpan} {root parent : Node} {target : Target}
  {rest before behind : List Node}

/-- The first boundary is an edge. -/
theorem isEdge_before (h : target.IsPlaced grammar root comment parent rest before behind) :
    IsEdge grammar root target.before := by
  rw [h.before_eq]
  cases hlast : before.getLast? with
  | none =>
      rw [lastStop?, hlast]
      exact h.lineage.isEdge (.start parent)
  | some last =>
      rw [lastStop?, hlast]
      refine h.lineage.isEdge (.child ?_ (.stop last))
      rw [h.constructs_eq]
      exact List.mem_append_left _ (List.mem_of_getLast? hlast)

/-- The parent starts, and the constructs before the target stop, at or before the first
boundary. -/
theorem le_before_of_mem (h : target.IsPlaced grammar root comment parent rest before behind)
    (hnested : ∀ n ∈ root.preorder, n.IsNested) :
    parent.start ≤ target.before ∧ ∀ own ∈ before, own.stop ≤ target.before := by
  have hparent := hnested parent h.parent_mem
  rw [h.before_eq]
  rcases List.eq_nil_or_concat before with rfl | ⟨front, last, rfl⟩
  · simp [lastStop?]
  · rw [List.concat_eq_append] at h ⊢
    have hlast : last ∈ parent.children := h.mem_children (by simp)
    have hpairwise := hparent.pairwise_constructs grammar
    rw [h.constructs_eq] at hpairwise
    have hfront := (List.pairwise_append.mp (List.pairwise_append.mp hpairwise).1).2.2
    rw [lastStop?, List.getLast?_concat, Option.map_some, Option.getD_some]
    refine ⟨(hparent.within last hlast).stop_ge_start, fun own hown => ?_⟩
    rcases List.mem_append.mp hown with hown | hown
    · exact Nat.le_trans (hfront own hown last (List.mem_singleton_self last))
        (hparent.start_le_stop last hlast)
    · rw [List.mem_singleton.mp hown]

/-- From the target on no construct of the parent starts before the comment stops. -/
theorem comment_le_of_mem (h : target.IsPlaced grammar root comment parent rest before behind)
    (hnested : ∀ n ∈ root.preorder, n.IsNested) :
    ∀ own ∈ target.node :: behind, comment.stop ≤ own.start := by
  have hparent := hnested parent h.parent_mem
  have hpairwise := hparent.pairwise_constructs grammar
  rw [h.constructs_eq] at hpairwise
  have hbehind := (List.pairwise_cons.mp (List.pairwise_append.mp hpairwise).2.1).1
  have hproper := hparent.start_le_stop target.node (h.mem_children (by simp))
  intro own hown
  have hcomment := h.comment_le
  rcases List.mem_cons.mp hown with rfl | hown
  · exact hcomment
  · have := hbehind own hown
    omega

/-- The first boundary is the last edge at or before the comment. -/
theorem isGreatest_before (h : target.IsPlaced grammar root comment parent rest before behind)
    (hnested : ∀ n ∈ root.preorder, n.IsNested) (hne : comment.start < comment.stop)
    (hroot : encloses comment root) :
    IsGreatest (edgesUpTo grammar root comment.start) target.before := by
  refine ⟨⟨h.isEdge_before, h.before_le (encloses_iff.mp hroot).1⟩, ?_⟩
  rintro edge ⟨hedge, hle⟩
  obtain ⟨hstart, hbefore⟩ := h.le_before_of_mem hnested
  rcases h.lineage.le_start_or_child hnested hne hroot hedge hle with hedge | ⟨own, hown, hedge⟩
  · exact Nat.le_trans hedge hstart
  · obtain ⟨hlower, hupper⟩ := hedge.bounds_of_mem_constructs hnested h.parent_mem hown
    rw [h.constructs_eq] at hown
    rcases List.mem_append.mp hown with hown | hown
    · exact Nat.le_trans hupper (hbefore own hown)
    · have := h.comment_le_of_mem hnested own hown
      omega

end Target.IsPlaced

/-! ## From comments to segments -/

/-- The comments of an orderly tree lie apart, in order. -/
theorem comments_pairwise {grammar : Grammar} {node : Node}
    (horderly : ∀ n ∈ node.preorder, n.IsOrderly) :
    (node.comments grammar).Pairwise fun a b => a.stop ≤ b.start := by
  induction node using inductionOnChildren with
  | step node ih =>
      have hbelow {child : Node} (hchild : child ∈ node.children) :
          ∀ n ∈ child.preorder, n.IsOrderly := fun n hn =>
        horderly n (mem_preorder_iff.mpr (Or.inr ⟨child, hchild, hn⟩))
      rw [comments_eq]
      split
      · exact List.pairwise_singleton _ _
      · refine List.pairwise_flatMap.mpr ⟨fun child hchild => ih child hchild (hbelow hchild), ?_⟩
        refine (horderly node (self_mem_preorder node)).pairwise.imp_of_mem ?_
        intro a b ha hb hle own hown other hother
        have hstop := (bounds_of_mem_preorder (hbelow ha) (mem_preorder_of_mem_comments hown)).2
        have hstart :=
          (bounds_of_mem_preorder (hbelow hb) (mem_preorder_of_mem_comments hother)).1
        exact Nat.le_trans hstop (Nat.le_trans hle hstart)

theorem pairwise_of_forall₂ {α β : Type} {R : α → β → Prop} {S : α → α → Prop}
    {T : β → β → Prop} {as : List α} {bs : List β} (h : List.Forall₂ R as bs)
    (hpairwise : as.Pairwise S)
    (hstep : ∀ ⦃a a' b b'⦄, S a a' → R a b → R a' b' → T b b') : bs.Pairwise T := by
  have hlength := h.length_eq
  rw [List.pairwise_iff_getElem] at hpairwise ⊢
  intro i j hi hj hlt
  exact hstep (hpairwise i j (by omega) (by omega) hlt) (h.get (by omega) hi) (h.get (by omega) hj)

theorem pairwise_withDirectives {R : Node → Node → Prop} {comments : List Node}
    (h : comments.Pairwise R) (text : List Char) :
    (withDirectives text comments).Pairwise fun a b => R a.1 b.1 := by
  refine List.pairwise_filterMap.mpr (h.imp fun {a b} hab own hown other hother => ?_)
  obtain ⟨_, -, rfl⟩ := Option.map_eq_some_iff.mp hown
  obtain ⟨_, -, rfl⟩ := Option.map_eq_some_iff.mp hother
  exact hab

section

variable {grammar : Grammar} {text : List Char} {tree : SyntaxTree} {comment : Node}
  {directive : RangeDirective} {event : Event} {segment : Segment}

/-- A segment starts from the last edge at or before its comment. -/
theorem AccountsFor.exists_isGreatest (hfits : tree.Fits text)
    (hnested : ∀ n ∈ tree.root.preorder, n.IsNested) (hcomment : comment ∈ tree.root.preorder)
    (hne : comment.start < comment.stop)
    (h : AccountsFor grammar text tree.root (comment, directive) event)
    (hsegment : event.segment? = some segment) :
    ∃ edge index : Nat, IsGreatest (edgesUpTo grammar tree.root comment.start) edge ∧
      Marks text edge index ∧ segment.start = index := by
  cases h with
  | withoutTarget => cases hsegment
  | withoutBlock => cases hsegment
  | resolved htarget hrange hresolved =>
      cases hsegment
      obtain ⟨parent, rest, before, behind, hplaced⟩ := exists_isPlaced_of_target? htarget
      have hroot : encloses comment.span tree.root :=
        encloses_iff.mpr (bounds_of_mem_preorder hfits.orderly hcomment)
      obtain ⟨start, stop, hstart, hstop⟩ := hplaced.exists_marks_range hfits hrange
      rw [segment_of_marks hstart hstop] at hresolved
      cases hresolved
      rw [(hplaced.range_bounds hfits.orderly hrange).1] at hstart
      exact ⟨_, start, hplaced.isGreatest_before hnested hne hroot, hstart, rfl⟩

/-- In a nested tree that fits its text, the segments come in the order of their starts. -/
theorem resolveSegments_pairwise (hfits : tree.Fits text)
    (hnested : ∀ n ∈ tree.root.preorder, n.IsNested)
    (hne : ∀ comment ∈ tree.root.comments grammar, comment.start < comment.stop) :
    ∃ segments, (resolveSegments grammar text tree).value = .ok segments ∧
      segments.Pairwise fun a b => a.start ≤ b.start := by
  obtain ⟨segments, hsegments, -⟩ := exists_segments_of_fits grammar hfits
  refine ⟨segments, hsegments, ?_⟩
  obtain ⟨haccounts, rfl⟩ := accountsFor_of_value_eq hsegments
  have hcomments : (tree.root.comments grammar).Pairwise fun a b =>
      a ∈ tree.root.comments grammar ∧ b ∈ tree.root.comments grammar ∧ a.start ≤ b.start := by
    refine (comments_pairwise hfits.orderly).imp_of_mem fun {a b} ha hb hle => ⟨ha, hb, ?_⟩
    exact Nat.le_trans (Nat.le_of_lt (hne a ha)) hle
  refine List.pairwise_filterMap.mpr
    (pairwise_of_forall₂ haccounts (pairwise_withDirectives hcomments text) ?_)
  rintro ⟨a, directive⟩ ⟨b, directive'⟩ event event' ⟨ha, hb, hle⟩ hevent hevent' segment hsegment
    segment' hsegment'
  obtain ⟨edge, index, hgreatest, hmarks, hstart⟩ := hevent.exists_isGreatest hfits hnested
    (mem_preorder_of_mem_comments ha) (hne a ha) hsegment
  obtain ⟨edge', index', hgreatest', hmarks', hstart'⟩ := hevent'.exists_isGreatest hfits hnested
    (mem_preorder_of_mem_comments hb) (hne b hb) hsegment'
  have hedge : edge ≤ edge' := hgreatest.mono hgreatest' (edgesUpTo_mono hle)
  rw [hstart, hstart']
  exact Int.ofNat_le.mpr (hmarks.index_le_of_le hmarks' hedge)

end

/-- A block with a comment before it, one within it and one behind a statement. -/
def layeredTree : SyntaxTree where
  root :=
    ⟨"program", 0, 62, true, false, 0, 0, [
      ⟨"comment", 0, 18, true, false, 0, 0, []⟩,
      ⟨"statement_block", 18, 40, true, false, 0, 18, [
        ⟨"comment", 19, 37, true, false, 0, 19, []⟩,
        ⟨"expression_statement", 37, 39, true, false, 0, 37, []⟩]⟩,
      ⟨"expression_statement", 40, 42, true, false, 0, 40, []⟩,
      ⟨"comment", 42, 60, true, false, 0, 42, []⟩,
      ⟨"expression_statement", 60, 62, true, false, 0, 60, []⟩]⟩
  hasError := false

def layeredText : List Char :=
  "/*t8 ignore next*/\x7b/*t8 ignore rest*/a;\x7db;/*t8 ignore next*/c;".toList

/-- One segment lies within another. -/
theorem resolveSegments_pairwise_layeredTree :
    layeredTree.Fits layeredText ∧
      (resolveSegments .javascript layeredText layeredTree).value =
        .ok [⟨0, 40⟩, ⟨18, 40⟩, ⟨42, 62⟩] ∧
      [(⟨0, 40⟩ : Segment), ⟨18, 40⟩, ⟨42, 62⟩].Pairwise fun a b => a.start ≤ b.start := by
  have hsingle : layeredText.length = byteSize layeredText := by decide
  have hbounds : ∀ node ∈ layeredTree.root.preorder,
      node.start ≤ layeredText.length ∧ node.stop ≤ layeredText.length := by decide
  have hfits : layeredTree.Fits layeredText := {
    hasError := rfl
    orderly := by decide
    marks := fun node hnode =>
      ⟨⟨_, marks_self hsingle (hbounds node hnode).1⟩,
        ⟨_, marks_self hsingle (hbounds node hnode).2⟩⟩ }
  have hvalue : (resolveSegments .javascript layeredText layeredTree).value =
      .ok [⟨0, 40⟩, ⟨18, 40⟩, ⟨42, 62⟩] := by
    rfl
  have hnested : ∀ node ∈ layeredTree.root.preorder, node.IsNested := by decide
  have hne : ∀ comment ∈ layeredTree.root.comments .javascript, comment.start < comment.stop := by
    decide
  obtain ⟨segments, hsegments, hpairwise⟩ := resolveSegments_pairwise hfits hnested hne
  cases hvalue.symm.trans hsegments
  exact ⟨hfits, hvalue, hpairwise⟩

end Remap
