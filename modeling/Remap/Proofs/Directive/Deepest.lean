import Mathlib.Data.List.TakeWhile
import Remap.Proofs.Directive.Coverage

/-!
# The deepest construct around a comment

What the search for a target finds, said without the search. From the root down
through constructs there is exactly one way to the deepest node that encloses a
comment (`IsDeepest`), and the target is the first construct of that node to start
behind the comment (`Node.firstBehind?`): `target?_eq_firstBehind?`. When that node has
none there is no target, whatever constructs stand behind the nodes above it.

Among the children of a node above a comment exactly one holds the comment; the
children before it stop before the comment, those behind it start behind the comment
(`Node.exists_children_around`). Where that one child is a construct, the search has to
go into it and finds nothing besides; where it is not, the node is the deepest.
-/

namespace Remap

open Node

namespace Node

/-- Whether the children of a node are in order, apart from each other, and within it, and
none of them stops before it starts. -/
structure IsNested (node : Node) : Prop extends node.IsOrderly where
  start_le_stop : ∀ child ∈ node.children, child.start ≤ child.stop

instance (node : Node) : Decidable node.IsNested :=
  decidable_of_iff (node.IsOrderly ∧ ∀ child ∈ node.children, child.start ≤ child.stop)
    ⟨fun ⟨h₁, h₂⟩ => ⟨h₁, h₂⟩, fun ⟨h₁, h₂⟩ => ⟨h₁, h₂⟩⟩

/-- The first construct of a node to start behind a comment, placed among the others;
`above` are the ancestors of the node. -/
def firstBehind? (grammar : Grammar) (comment : ByteSpan) (node : Node) (above : List Node) :
    Option Target :=
  let constructs := node.constructs grammar
  match constructs.dropWhile (·.start < comment.stop) with
  | [] => none
  | first :: behind => some
    { node := first
      before := (lastStop? (constructs.takeWhile (·.start < comment.stop))).getD node.start
      after := (behind.head?.map Node.start).getD node.stop
      ancestors := node :: above }

theorem encloses_iff {comment : ByteSpan} {node : Node} :
    encloses comment node ↔ node.start ≤ comment.start ∧ comment.stop ≤ node.stop := by
  simp [encloses]

theorem firstBehind?_eq_none_iff {grammar : Grammar} {comment : ByteSpan} {node : Node}
    {above : List Node} :
    node.firstBehind? grammar comment above = none ↔
      ∀ own ∈ node.constructs grammar, own.start < comment.stop := by
  have hall := List.dropWhile_eq_nil_iff (p := fun own : Node => decide (own.start < comment.stop))
    (l := node.constructs grammar)
  simp only [decide_eq_true_eq] at hall
  rw [← hall, firstBehind?]
  split
  · next h => simp [h]
  · next h => simp [h]

end Node

/-- A way down from the root, through constructs, to the last node that encloses a
comment. -/
structure IsDeepest (grammar : Grammar) (root : Node) (comment : ByteSpan) (node : Node)
    (above : List Node) : Prop where
  lineage : Lineage grammar comment root (node :: above)
  encloses : encloses comment node
  deepest : ∀ own ∈ node.constructs grammar, ¬ Node.encloses comment own

/-! ## Children around a comment -/

section

variable {grammar : Grammar} {node comment : Node}

/-- Of the children of a node above a comment one holds it, and the others lie on its two
sides. -/
theorem Node.exists_children_around (h : ∀ n ∈ node.preorder, n.IsNested)
    (hcomment : comment ∈ node.preorder) (hne : comment ≠ node) :
    ∃ before child behind, node.children = before ++ child :: behind ∧
      comment ∈ child.preorder ∧ encloses comment.span child ∧
      (∀ own ∈ before, own.stop ≤ comment.start) ∧ ∀ own ∈ behind, comment.stop ≤ own.start := by
  obtain ⟨child, hchild, hcomment⟩ := (mem_preorder_iff.mp hcomment).resolve_left hne
  have hbounds := bounds_of_mem_preorder
    (fun n hn => (h n (mem_preorder_iff.mpr (Or.inr ⟨child, hchild, hn⟩))).toIsOrderly) hcomment
  have hpairwise := (h node (self_mem_preorder node)).pairwise
  obtain ⟨before, behind, hchildren⟩ := List.append_of_mem hchild
  rw [hchildren] at hpairwise
  obtain ⟨-, hbehind, hbefore⟩ := List.pairwise_append.mp hpairwise
  refine ⟨before, child, behind, hchildren, hcomment, encloses_iff.mpr hbounds, ?_, ?_⟩
  · intro own hown
    exact Nat.le_trans (hbefore own hown child List.mem_cons_self) hbounds.1
  · intro own hown
    exact Nat.le_trans hbounds.2 ((List.pairwise_cons.mp hbehind).1 own hown)

end

/-! ## The search among children -/

theorem lastStop?_cons (node : Node) (constructs : List Node) :
    lastStop? (node :: constructs) = (lastStop? constructs).or (some node.stop) := by
  cases constructs with
  | nil => rfl
  | cons first others => simp [lastStop?, List.getLast?_cons]

namespace Node

variable {grammar : Grammar} {comment : ByteSpan} {start stop : Nat} {ancestors : List Node}

theorem targetAmong?_cons_of_isConstruct {child : Node} (h : grammar.isConstruct child)
    (previous : Option Nat) (rest : List Node) :
    targetAmong? grammar comment start stop ancestors previous (child :: rest) =
      (child.targetAt? grammar comment previous (previous.getD start)
        (((rest.filter grammar.isConstruct).head?.map Node.start).getD stop) ancestors).or
      (targetAmong? grammar comment start stop ancestors (some child.stop) rest) := by
  rw [targetAmong?, if_pos h, ← List.head?_filter]
  dsimp only
  split
  · next target htarget => rw [htarget, Option.some_or]
  · next hnone => rw [hnone, Option.none_or]

theorem targetAmong?_cons_of_not_isConstruct {child : Node} (h : ¬ grammar.isConstruct child)
    (previous : Option Nat) (rest : List Node) :
    targetAmong? grammar comment start stop ancestors previous (child :: rest) =
      targetAmong? grammar comment start stop ancestors previous rest := by
  rw [targetAmong?, if_neg h]

/-- Nothing is found at a child that neither starts behind the comment nor encloses it. -/
theorem targetAt?_eq_none {previous : Option Nat} {before after : Nat} {node : Node}
    (hfollows : ¬ follows comment previous node.start) (hencloses : ¬ encloses comment node) :
    node.targetAt? grammar comment previous before after ancestors = none := by
  rw [targetAt?_eq, if_neg hfollows, if_neg hencloses]

/-- The search passes over children before the comment. -/
theorem targetAmong?_append_of_before (hne : comment.start < comment.stop) {before : List Node}
    (hbefore : ∀ own ∈ before, own.start ≤ own.stop ∧ own.stop ≤ comment.start)
    (previous : Option Nat) (rest : List Node) :
    targetAmong? grammar comment start stop ancestors previous (before ++ rest) =
      targetAmong? grammar comment start stop ancestors
        ((lastStop? (before.filter grammar.isConstruct)).or previous) rest := by
  induction before generalizing previous with
  | nil => rfl
  | cons own before ih =>
      obtain ⟨hstart, hstop⟩ := hbefore own List.mem_cons_self
      have hlater := ih fun n hn => hbefore n (List.mem_cons_of_mem _ hn)
      rw [List.cons_append]
      by_cases hconstruct : grammar.isConstruct own
      · have hfollows : ¬ follows comment previous own.start := by
          simp only [follows, Bool.and_eq_true, decide_eq_true_eq]
          omega
        have hencloses : ¬ encloses comment own := by
          rw [encloses_iff]
          omega
        rw [targetAmong?_cons_of_isConstruct hconstruct, targetAt?_eq_none hfollows hencloses,
          Option.none_or, hlater, List.filter_cons_of_pos hconstruct, lastStop?_cons,
          Option.or_assoc, Option.some_or]
      · rw [targetAmong?_cons_of_not_isConstruct hconstruct, List.filter_cons_of_neg hconstruct,
          hlater]

/-- Behind a child that reaches past the comment's start nothing is found. -/
theorem targetAmong?_eq_none_of_behind (hne : comment.start < comment.stop) {rest : List Node}
    (hrest : ∀ own ∈ rest, comment.stop ≤ own.start ∧ own.start ≤ own.stop) {previous : Nat}
    (hprevious : comment.start < previous) :
    targetAmong? grammar comment start stop ancestors (some previous) rest = none := by
  induction rest generalizing previous with
  | nil => rfl
  | cons own rest ih =>
      obtain ⟨hstart, hstop⟩ := hrest own List.mem_cons_self
      have hlater := fun n hn => hrest n (List.mem_cons_of_mem _ hn)
      by_cases hconstruct : grammar.isConstruct own
      · have hfollows : ¬ follows comment (some previous) own.start := by
          simp only [follows, Option.all_some, Bool.and_eq_true, decide_eq_true_eq]
          omega
        have hencloses : ¬ encloses comment own := by
          rw [encloses_iff]
          omega
        rw [targetAmong?_cons_of_isConstruct hconstruct, targetAt?_eq_none hfollows hencloses,
          Option.none_or]
        exact ih hlater (by omega)
      · rw [targetAmong?_cons_of_not_isConstruct hconstruct]
        exact ih hlater hprevious

/-- Of children behind the comment the first construct is found, if no construct before
them reaches past the comment's start. -/
theorem targetAmong?_of_behind {rest : List Node} (hrest : ∀ own ∈ rest, comment.stop ≤ own.start)
    {previous : Option Nat} (hprevious : ∀ last ∈ previous, last ≤ comment.start) :
    targetAmong? grammar comment start stop ancestors previous rest =
      match rest.filter grammar.isConstruct with
      | [] => none
      | first :: behind => some
        ⟨first, previous.getD start, (behind.head?.map Node.start).getD stop, ancestors⟩ := by
  induction rest with
  | nil => rfl
  | cons own rest ih =>
      by_cases hconstruct : grammar.isConstruct own
      · have hfollows : follows comment previous own.start := by
          simp only [follows, Bool.and_eq_true, decide_eq_true_eq, Option.all_eq_true]
          exact ⟨hrest own List.mem_cons_self, hprevious⟩
        rw [targetAmong?_cons_of_isConstruct hconstruct, targetAt?_eq, if_pos hfollows,
          Option.some_or, List.filter_cons_of_pos hconstruct]
      · rw [targetAmong?_cons_of_not_isConstruct hconstruct, List.filter_cons_of_neg hconstruct]
        exact ih fun n hn => hrest n (List.mem_cons_of_mem _ hn)

end Node

/-! ## The search below a node -/

namespace Node

variable {grammar : Grammar} {comment : ByteSpan} {node child : Node}
  {above before behind : List Node}

/-- Where the child around a comment is no construct, the constructs of its parent lie on
the two sides of the comment, and the search finds the first of those behind. -/
theorem targetAmong?_eq_firstBehind? (hne : comment.start < comment.stop)
    (hchildren : node.children = before ++ child :: behind)
    (hbefore : ∀ own ∈ before, own.start ≤ own.stop ∧ own.stop ≤ comment.start)
    (hbehind : ∀ own ∈ behind, comment.stop ≤ own.start) (hchild : ¬ grammar.isConstruct child) :
    targetAmong? grammar comment node.start node.stop (node :: above) none node.children =
      node.firstBehind? grammar comment above := by
  have hstart : ∀ own ∈ before.filter grammar.isConstruct,
      decide (own.start < comment.stop) = true := by
    intro own hown
    have := hbefore own (List.mem_filter.mp hown).1
    simp only [decide_eq_true_eq]
    omega
  have hlast : ∀ last ∈ lastStop? (before.filter grammar.isConstruct), last ≤ comment.start := by
    intro last hlast
    obtain ⟨own, hown, rfl⟩ := Option.map_eq_some_iff.mp hlast
    exact (hbefore own (List.mem_filter.mp (List.mem_of_getLast? hown)).1).2
  rw [firstBehind?, constructs, hchildren, List.filter_append, List.filter_cons_of_neg hchild,
    List.takeWhile_append_of_pos hstart, List.dropWhile_append_of_pos hstart,
    targetAmong?_append_of_before hne hbefore, targetAmong?_cons_of_not_isConstruct hchild,
    Option.or_none, targetAmong?_of_behind hbehind hlast]
  cases hfilter : behind.filter grammar.isConstruct with
  | nil => rfl
  | cons first others =>
      have hmem : first ∈ behind.filter grammar.isConstruct := hfilter ▸ List.mem_cons_self
      have hfirst : ¬ first.start < comment.stop :=
        Nat.not_lt_of_le (hbehind first (List.mem_filter.mp hmem).1)
      simp only [List.takeWhile_cons, List.dropWhile_cons, hfirst, decide_false,
        Bool.false_eq_true, if_false, List.append_nil]

/-- Where the child around a comment is a construct, the search finds what it finds in that
child. -/
theorem targetAmong?_eq_of_isConstruct (hne : comment.start < comment.stop)
    (hchildren : node.children = before ++ child :: behind)
    (hbefore : ∀ own ∈ before, own.start ≤ own.stop ∧ own.stop ≤ comment.start)
    (hbehind : ∀ own ∈ behind, comment.stop ≤ own.start ∧ own.start ≤ own.stop)
    (hencloses : encloses comment child) (hchild : grammar.isConstruct child) :
    targetAmong? grammar comment node.start node.stop (node :: above) none node.children =
      targetAmong? grammar comment child.start child.stop (child :: node :: above) none
        child.children := by
  obtain ⟨hstart, hstop⟩ := encloses_iff.mp hencloses
  have hfollows (previous : Option Nat) : ¬ follows comment previous child.start := by
    simp only [follows, Bool.and_eq_true, decide_eq_true_eq]
    omega
  rw [hchildren, targetAmong?_append_of_before hne hbefore,
    targetAmong?_cons_of_isConstruct hchild, targetAt?_eq, if_neg (hfollows _), if_pos hencloses,
    targetAmong?_eq_none_of_behind hne hbehind (Nat.lt_of_lt_of_le hne hstop), Option.or_none]

end Node

/-! ## The deepest node -/

namespace Node

variable {grammar : Grammar} {comment : ByteSpan} {node a b : Node}

/-- Two nodes apart cannot both enclose a comment that is not empty. -/
theorem not_encloses_of_stop_le (hne : comment.start < comment.stop) (h : encloses comment a)
    (hle : a.stop ≤ b.start) : ¬ encloses comment b := by
  rw [encloses_iff] at h ⊢
  omega

/-- Of two constructs of a node one stops before the other starts, unless they are the same. -/
theorem IsOrderly.eq_or_apart (h : node.IsOrderly) (ha : a ∈ node.constructs grammar)
    (hb : b ∈ node.constructs grammar) : a = b ∨ a.stop ≤ b.start ∨ b.stop ≤ a.start := by
  have hpairwise := h.pairwise_constructs grammar
  exact List.Pairwise.forall_of_forall_of_flip
    (R := fun a b => a = b ∨ a.stop ≤ b.start ∨ b.stop ≤ a.start) (fun _ _ => Or.inl rfl)
    (hpairwise.imp fun hle => Or.inr (Or.inl hle)) (hpairwise.imp fun hle => Or.inr (Or.inr hle))
    ha hb

/-- Among the constructs of a node at most one encloses a comment that is not empty. -/
theorem IsOrderly.eq_of_encloses (h : node.IsOrderly) (hne : comment.start < comment.stop)
    (ha : a ∈ node.constructs grammar) (hb : b ∈ node.constructs grammar)
    (hencloses : encloses comment a) (hencloses' : encloses comment b) : a = b := by
  rcases h.eq_or_apart ha hb with heq | hle | hle
  · exact heq
  · exact absurd hencloses' (not_encloses_of_stop_le hne hencloses hle)
  · exact absurd hencloses (not_encloses_of_stop_le hne hencloses' hle)

end Node

namespace Lineage

variable {grammar : Grammar} {comment : ByteSpan} {root last node : Node} {above : List Node}

theorem tail (h : Lineage grammar comment root (last :: node :: above)) :
    Lineage grammar comment root (node :: above) := by
  cases h with
  | child hlineage _ _ => exact hlineage

/-- Each beginning of a way down is a way down. -/
theorem of_append {front : List Node} (h : Lineage grammar comment root (front ++ node :: above)) :
    Lineage grammar comment root (node :: above) := by
  induction front with
  | nil => exact h
  | cons last front ih =>
      cases front with
      | nil => exact h.tail
      | cons next front => exact ih h.tail

theorem root_isSuffix {ancestors : List Node} (h : Lineage grammar comment root ancestors) :
    [root] <:+ ancestors := by
  induction h with
  | root => exact List.suffix_refl _
  | child _ _ _ ih => exact ih.trans (List.suffix_cons _ _)

end Lineage

section

variable {grammar : Grammar} {root node : Node} {above : List Node}

/-- Every way down is a beginning of the one to the deepest node. -/
theorem IsDeepest.isSuffix {comment : ByteSpan} (horderly : ∀ n ∈ root.preorder, n.IsOrderly)
    (hne : comment.start < comment.stop) (h : IsDeepest grammar root comment node above)
    {ancestors : List Node} (hancestors : Lineage grammar comment root ancestors) :
    ancestors <:+ node :: above := by
  induction hancestors with
  | root => exact h.lineage.root_isSuffix
  | @child own parent rest hlineage hown hencloses ih =>
      obtain ⟨front, hfront⟩ := ih
      rcases List.eq_nil_or_concat front with rfl | ⟨front, next, rfl⟩
      · -- The deepest node has no construct that encloses the comment.
        cases hfront
        exact absurd hencloses (h.deepest own hown)
      · have hlineage' := h.lineage
        rw [List.concat_eq_append, List.append_assoc, List.singleton_append] at hfront
        rw [← hfront] at hlineage'
        have hparent := horderly parent (hlineage.mem_preorder List.mem_cons_self)
        cases hlineage'.of_append with
        | child _ hnext hencloses' =>
            obtain rfl := hparent.eq_of_encloses hne hown hnext hencloses hencloses'
            exact ⟨front, hfront⟩

theorem IsDeepest.eq {comment : ByteSpan} (horderly : ∀ n ∈ root.preorder, n.IsOrderly)
    (hne : comment.start < comment.stop) (h : IsDeepest grammar root comment node above)
    {own : Node} {above' : List Node} (h' : IsDeepest grammar root comment own above') :
    own = node ∧ above' = above := by
  have hsuffix := h.isSuffix horderly hne h'.lineage
  have hsuffix' := h'.isSuffix horderly hne h.lineage
  have heq := hsuffix.eq_of_length (Nat.le_antisymm hsuffix.length_le hsuffix'.length_le)
  exact List.cons.inj heq

/-- From each node on the way to a comment the search comes to the deepest node, and finds
the first construct behind the comment there. -/
theorem exists_isDeepest {comment : Node} (hkind : grammar.isComment comment)
    (hne : comment.start < comment.stop) (hnested : ∀ n ∈ node.preorder, n.IsNested)
    (hlineage : Lineage grammar comment.span root (node :: above))
    (hencloses : encloses comment.span node) (hcomment : comment ∈ node.preorder)
    (hself : comment ≠ node) :
    ∃ deepest rest, IsDeepest grammar root comment.span deepest rest ∧
      targetAmong? grammar comment.span node.start node.stop (node :: above) none node.children =
        deepest.firstBehind? grammar comment.span rest := by
  induction node using inductionOnChildren generalizing above with
  | step node ih =>
      obtain ⟨before, child, behind, hchildren, hbelow, haround, hbefore, hbehind⟩ :=
        exists_children_around hnested hcomment hself
      have hmem {own : Node} (hown : own ∈ before ++ child :: behind) : own ∈ node.children :=
        hchildren ▸ hown
      have hproper {own : Node} (hown : own ∈ before ++ child :: behind) : own.start ≤ own.stop :=
        (hnested node (self_mem_preorder node)).start_le_stop own (hmem hown)
      have hbefore' : ∀ own ∈ before, own.start ≤ own.stop ∧ own.stop ≤ comment.start :=
        fun own hown => ⟨hproper (List.mem_append_left _ hown), hbefore own hown⟩
      have hbehind' : ∀ own ∈ behind, comment.stop ≤ own.start ∧ own.start ≤ own.stop :=
        fun own hown =>
          ⟨hbehind own hown, hproper (List.mem_append_right _ (List.mem_cons_of_mem _ hown))⟩
      have hchild := hmem (List.mem_append_right _ List.mem_cons_self)
      by_cases hconstruct : grammar.isConstruct child
      · have hown : child ∈ node.constructs grammar := List.mem_filter.mpr ⟨hchild, hconstruct⟩
        have hother : comment ≠ child := by
          rintro rfl
          simp [Grammar.isConstruct, hkind] at hconstruct
        obtain ⟨deepest, rest, hdeepest, hsearch⟩ := ih child hchild
          (fun n hn => hnested n (mem_preorder_iff.mpr (Or.inr ⟨child, hchild, hn⟩)))
          (hlineage.child hown haround) haround hbelow hother
        refine ⟨deepest, rest, hdeepest, ?_⟩
        rw [targetAmong?_eq_of_isConstruct hne hchildren hbefore' hbehind' haround hconstruct,
          hsearch]
      · refine ⟨node, above, ⟨hlineage, hencloses, fun own hown hown' => ?_⟩,
          targetAmong?_eq_firstBehind? hne hchildren hbefore' hbehind hconstruct⟩
        -- A construct that enclosed the comment would not be apart from the child around it.
        obtain ⟨hown, hkind⟩ := List.mem_filter.mp hown
        obtain ⟨hstart, hstop⟩ : own.start ≤ comment.start ∧ comment.stop ≤ own.stop :=
          encloses_iff.mp hown'
        rw [hchildren] at hown
        rcases List.mem_append.mp hown with hown | hown
        · have := hbefore own hown
          omega
        · rcases List.mem_cons.mp hown with rfl | hown
          · exact hconstruct hkind
          · have := hbehind own hown
            omega

end

/-- Down from the root there is exactly one way to the deepest node that encloses a comment
of the tree, and the target is the first construct of that node behind the comment. There
is none exactly when all of its constructs start before the comment stops. -/
theorem target?_eq_firstBehind? {grammar : Grammar} {root comment : Node}
    (hnested : ∀ node ∈ root.preorder, node.IsNested) (hroot : ¬ grammar.isComment root)
    (hcomment : comment ∈ root.preorder) (hkind : grammar.isComment comment)
    (hne : comment.start < comment.stop) :
    ∃ deepest above,
      (∀ node rest, IsDeepest grammar root comment.span node rest ↔
        node = deepest ∧ rest = above) ∧
      root.target? grammar comment.span = deepest.firstBehind? grammar comment.span above ∧
      (root.target? grammar comment.span = none ↔
        ∀ construct ∈ deepest.constructs grammar, construct.start < comment.stop) := by
  have horderly : ∀ node ∈ root.preorder, node.IsOrderly := fun node hnode =>
    (hnested node hnode).toIsOrderly
  have hself : comment ≠ root := by
    rintro rfl
    exact hroot hkind
  have haround : encloses comment.span root :=
    encloses_iff.mpr (bounds_of_mem_preorder horderly hcomment)
  obtain ⟨deepest, above, hdeepest, hsearch⟩ :=
    exists_isDeepest hkind hne hnested .root haround hcomment hself
  have htarget : root.target? grammar comment.span =
      deepest.firstBehind? grammar comment.span above := hsearch
  refine ⟨deepest, above, fun node rest => ⟨fun h => ?_, ?_⟩, htarget, ?_⟩
  · exact hdeepest.eq horderly hne h
  · rintro ⟨rfl, rfl⟩
    exact hdeepest
  · rw [htarget]
    exact firstBehind?_eq_none_iff

def bracketedComment : Node :=
  ⟨"comment", 10, 20, true, false, 0, 10, []⟩

def lastComment : Node :=
  ⟨"comment", 23, 28, true, false, 0, 23, []⟩

def emptyStatement : Node :=
  ⟨"empty_statement", 22, 22, true, false, 0, 22, []⟩

/-- A block of a statement, a comment in brackets, an empty statement and another comment. -/
def commentedBlock : Node :=
  ⟨"statement_block", 0, 30, true, false, 0, 0, [
    ⟨"expression_statement", 2, 8, true, false, 0, 2, []⟩,
    ⟨"brackets", 9, 22, false, false, 0, 9, [bracketedComment]⟩,
    emptyStatement, lastComment]⟩

/-- The block with a statement behind it. -/
def commentedProgram : Node :=
  ⟨"program", 0, 50, true, false, 0, 0, [commentedBlock,
    ⟨"expression_statement", 31, 40, true, false, 0, 31, []⟩]⟩

theorem isDeepest_commentedBlock {comment : ByteSpan} (h : encloses comment commentedBlock)
    (hdeepest : ∀ own ∈ commentedBlock.constructs .javascript, ¬ encloses comment own) :
    IsDeepest .javascript commentedProgram comment commentedBlock [commentedProgram] :=
  ⟨.child .root List.mem_cons_self h, h, hdeepest⟩

/-- The comment in brackets refers to the empty statement, the last one to nothing, although
a statement stands behind the block. -/
theorem target?_eq_firstBehind?_commentedProgram :
    (∀ node ∈ commentedProgram.preorder, node.IsNested) ∧
      commentedProgram.target? .javascript bracketedComment.span =
        some ⟨emptyStatement, 8, 30, [commentedBlock, commentedProgram]⟩ ∧
      commentedProgram.target? .javascript lastComment.span = none := by
  have hnested : ∀ node ∈ commentedProgram.preorder, node.IsNested := by decide
  have hroot : ¬ Grammar.javascript.isComment commentedProgram := by decide
  refine ⟨hnested, ?_, ?_⟩
  · obtain ⟨deepest, above, hunique, htarget, -⟩ := target?_eq_firstBehind? hnested hroot
      (List.mem_of_getElem? (i := 4) (a := bracketedComment) rfl) rfl (by decide)
    obtain ⟨rfl, rfl⟩ := (hunique _ _).mp (isDeepest_commentedBlock rfl (by decide))
    exact htarget
  · obtain ⟨deepest, above, hunique, -, hnone⟩ := target?_eq_firstBehind? hnested hroot
      (List.mem_of_getElem? (i := 6) (a := lastComment) rfl) rfl (by decide)
    obtain ⟨rfl, rfl⟩ := (hunique _ _).mp (isDeepest_commentedBlock rfl (by decide))
    exact hnone.mpr (by decide)

end Remap
