import Mathlib.Data.List.Forall2
import Remap.Proofs.Directive.Coverage

/-!
# Events of directives

Which comments are to be accounted for is said of the places of a tree (`Node.places`): its nodes
in preorder (`map_fst_places`), each with the nodes above it. A comment counts where no other lies
above it (`IsOutermost`), and those are the comments that are looked at (`comments_eq_places`).
Each of them that holds a directive is reported by one event, in their order, and the events of
segments are those of the segments that are found (`resolveSegments_accountsFor`).

One comment makes one event or none (`accountsFor_of_resolveComment`); the comments of a tree
follow by induction along their list.
-/

namespace Remap

open Node

/-! ## Places -/

namespace Node

mutual

/-- The nodes of a tree in preorder, each with the nodes above it, the nearest first; `above`
are those above the tree. -/
def places (above : List Node) : Node → List (Node × List Node)
  | node@⟨_, _, _, _, _, _, _, children⟩ => (node, above) :: placesAmong (node :: above) children

def placesAmong (above : List Node) : List Node → List (Node × List Node)
  | [] => []
  | node :: rest => node.places above ++ placesAmong above rest

end

variable {grammar : Grammar}

theorem placesAmong_eq_flatMap (above nodes : List Node) :
    placesAmong above nodes = nodes.flatMap (places above) := by
  induction nodes with
  | nil => rfl
  | cons node rest ih => rw [placesAmong, ih, List.flatMap_cons]

theorem places_eq (above : List Node) (node : Node) :
    node.places above = (node, above) :: node.children.flatMap (places (node :: above)) := by
  cases node
  rw [places, placesAmong_eq_flatMap]

theorem map_fst_places (above : List Node) (node : Node) :
    (node.places above).map Prod.fst = node.preorder := by
  induction node using inductionOnChildren generalizing above with
  | step node ih =>
      rw [places_eq, preorder_eq, preorderAll_eq_flatMap, List.map_cons, List.map_flatMap]
      exact congrArg _ (List.flatMap_congr fun child hchild => ih child hchild _)

theorem mem_places_of_mem_children {root node child : Node} {above outside : List Node}
    (h : (node, above) ∈ root.places outside) (hchild : child ∈ node.children) :
    (child, node :: above) ∈ root.places outside := by
  induction root using inductionOnChildren generalizing outside with
  | step root ih =>
      rw [places_eq] at h ⊢
      rcases List.mem_cons.mp h with heq | h
      · cases heq
        refine List.mem_cons_of_mem _ (List.mem_flatMap.mpr ⟨child, hchild, ?_⟩)
        rw [places_eq]
        exact List.mem_cons_self
      · obtain ⟨own, hown, h⟩ := List.mem_flatMap.mp h
        exact List.mem_cons_of_mem _ (List.mem_flatMap.mpr ⟨own, hown, ih own hown h⟩)

/-! ## Comments that count -/

/-- Whether a place is that of a comment with no other above it. -/
def IsOutermost (grammar : Grammar) (place : Node × List Node) : Prop :=
  grammar.isComment place.1 ∧ ∀ node ∈ place.2, ¬ grammar.isComment node

instance (grammar : Grammar) : DecidablePred (IsOutermost grammar) := fun place =>
  inferInstanceAs
    (Decidable (grammar.isComment place.1 ∧ ∀ node ∈ place.2, ¬ grammar.isComment node))

/-- Below a comment no other counts. -/
theorem filter_places_eq_nil {above : List Node} {comment : Node} (hmem : comment ∈ above)
    (hcomment : grammar.isComment comment) (node : Node) :
    (node.places above).filter (IsOutermost grammar) = [] := by
  refine List.filter_eq_nil_iff.mpr ?_
  induction node using inductionOnChildren generalizing above with
  | step node ih =>
      intro place hplace hcounts
      rw [places_eq] at hplace
      rcases List.mem_cons.mp hplace with rfl | hplace
      · exact (of_decide_eq_true hcounts).2 comment hmem hcomment
      · obtain ⟨child, hchild, hplace⟩ := List.mem_flatMap.mp hplace
        exact ih child hchild (List.mem_cons_of_mem _ hmem) place hplace hcounts

theorem comments_eq_places {above : List Node} (habove : ∀ node ∈ above, ¬ grammar.isComment node)
    (node : Node) :
    node.comments grammar = ((node.places above).filter (IsOutermost grammar)).map Prod.fst := by
  induction node using inductionOnChildren generalizing above with
  | step node ih =>
      rw [comments_eq, places_eq, List.filter_cons, List.filter_flatMap]
      by_cases hcomment : grammar.isComment node
      · have hself : IsOutermost grammar (node, above) := ⟨hcomment, habove⟩
        have hbelow : node.children.flatMap (fun child =>
            (child.places (node :: above)).filter (IsOutermost grammar)) = [] :=
          List.flatMap_eq_nil_iff.mpr fun child _ =>
            filter_places_eq_nil List.mem_cons_self hcomment child
        rw [if_pos hcomment, if_pos (decide_eq_true hself), hbelow]
        rfl
      · have hself : ¬ IsOutermost grammar (node, above) := fun h => hcomment h.1
        have hbelow : ∀ own ∈ node :: above, ¬ grammar.isComment own :=
          List.forall_mem_cons.mpr ⟨hcomment, habove⟩
        rw [if_neg hcomment, if_neg (by simpa using hself), List.map_flatMap]
        exact List.flatMap_congr fun child hchild => ih child hchild hbelow

/-- The directive in the text of a comment. -/
def directive? (text : List Char) (comment : Node) : Option RangeDirective :=
  (Text.cut? text comment.start comment.stop).bind RangeDirective.ofComment?

/-- The comments that hold directives, with them. -/
def withDirectives (text : List Char) (comments : List Node) : List (Node × RangeDirective) :=
  comments.filterMap fun comment => (directive? text comment).map (comment, ·)

/-- The comments of a tree that are to be accounted for, in preorder. -/
def directives (grammar : Grammar) (text : List Char) (root : Node) :
    List (Node × RangeDirective) :=
  withDirectives text (((root.places []).filter (IsOutermost grammar)).map Prod.fst)

end Node

/-! ## Events -/

/-- The segment that an event reports. -/
def Event.segment? : Event → Option Segment
  | segmentResolved _ segment => some segment
  | _ => none

/-- What an event says of a comment with a directive. -/
inductive AccountsFor (grammar : Grammar) (text : List Char) (root : Node) :
    Node × RangeDirective → Event → Prop
  | resolved {comment : Node} {directive : RangeDirective} {target : Target} {range : ByteSpan}
      {segment : Segment} : root.target? grammar comment.span = some target →
      target.range? grammar directive = some range → range.segment text = .ok segment →
      AccountsFor grammar text root (comment, directive) (.segmentResolved directive segment)
  | withoutTarget {comment : Node} {offset : Nat} (directive : RangeDirective) :
      root.target? grammar comment.span = none → charOffset text comment.start = .ok offset →
      AccountsFor grammar text root (comment, directive) (.directiveWithoutTarget directive offset)
  /-- Of all nodes above the target none is a block. -/
  | withoutBlock {comment : Node} {target : Target} {offset : Nat} :
      root.target? grammar comment.span = some target →
      (target.node, target.ancestors) ∈ root.places [] →
      (∀ node ∈ target.ancestors, ¬ grammar.isBlock node) →
      charOffset text comment.start = .ok offset →
      AccountsFor grammar text root (comment, .rest) (.directiveWithoutBlock .rest offset)

theorem Lineage.mem_places {grammar : Grammar} {comment : ByteSpan} {root node : Node}
    {above : List Node} (h : Lineage grammar comment root (node :: above)) :
    (node, above) ∈ root.places [] := by
  generalize hancestors : node :: above = ancestors at h
  induction h generalizing node above with
  | root =>
      cases hancestors
      rw [places_eq]
      exact List.mem_cons_self
  | child _ hconstruct _ ih =>
      cases hancestors
      exact mem_places_of_mem_children (ih rfl) (mem_children_of_mem_constructs hconstruct)

/-- The ancestors of a target are the nodes above it. -/
theorem mem_places_of_target? {grammar : Grammar} {comment : ByteSpan} {root : Node}
    {target : Target} (h : root.target? grammar comment = some target) :
    (target.node, target.ancestors) ∈ root.places [] := by
  obtain ⟨parent, rest, before, behind, hplaced⟩ := exists_isPlaced_of_target? h
  rw [hplaced.ancestors_eq]
  exact mem_places_of_mem_children hplaced.lineage.mem_places (hplaced.mem_children (by simp))

section

variable {grammar : Grammar} {text : List Char} {root comment : Node}

/-- Only `rest` has no range, and that where no ancestor is a block. -/
theorem range?_eq_none {target : Target} {directive : RangeDirective}
    (h : target.range? grammar directive = none) :
    directive = .rest ∧ ∀ node ∈ target.ancestors, ¬ grammar.isBlock node := by
  cases directive with
  | next => cases h
  | rest => exact ⟨rfl, List.find?_eq_none.mp (Option.map_eq_none_iff.mp h)⟩

/-- Whatever a comment with a directive comes to accounts for it. -/
theorem exists_accountsFor {directive : RangeDirective} {outcome : Option Resolution}
    (h : resolveComment grammar text root comment = .ok outcome)
    (hdirective : directive? text comment = some directive) :
    ∃ resolution, outcome = some resolution ∧
      AccountsFor grammar text root (comment, directive) resolution.event := by
  obtain ⟨body, hbody, hform⟩ := Option.bind_eq_some_iff.mp hdirective
  simp only [resolveComment, hbody, hform, bind, Except.bind, pure, Except.pure] at h
  split at h
  · next htarget =>
      split at h
      · cases h
      · next offset hoffset =>
          cases h
          exact ⟨_, rfl, .withoutTarget directive htarget hoffset⟩
  · next target htarget =>
      split at h
      · next hrange =>
          obtain ⟨rfl, hblock⟩ := range?_eq_none hrange
          split at h
          · cases h
          · next offset hoffset =>
              cases h
              exact ⟨_, rfl,
                .withoutBlock htarget (mem_places_of_target? htarget) hblock hoffset⟩
      · next range hrange =>
          split at h
          · cases h
          · next segment hsegment =>
              cases h
              exact ⟨_, rfl, .resolved htarget hrange hsegment⟩

theorem eq_none_of_directive?_eq_none {outcome : Option Resolution}
    (h : resolveComment grammar text root comment = .ok outcome)
    (hdirective : directive? text comment = none) : outcome = none := by
  simp only [resolveComment, bind, Except.bind, pure, Except.pure] at h
  split at h
  · next body hbody =>
      rw [directive?, hbody, Option.bind_some] at hdirective
      rw [hdirective] at h
      cases h
      rfl
  · cases h

/-- A comment makes one event if it holds a directive and else none. -/
theorem accountsFor_of_resolveComment {outcome : Option Resolution}
    (h : resolveComment grammar text root comment = .ok outcome) :
    List.Forall₂ (AccountsFor grammar text root) (withDirectives text [comment])
      (outcome.toList.map Resolution.event) := by
  cases hdirective : directive? text comment with
  | none =>
      rw [eq_none_of_directive?_eq_none h hdirective]
      simp [withDirectives, hdirective]
  | some directive =>
      obtain ⟨resolution, rfl, haccounts⟩ := exists_accountsFor h hdirective
      simpa [withDirectives, hdirective] using haccounts

theorem withDirectives_cons (text : List Char) (comment : Node) (comments : List Node) :
    withDirectives text (comment :: comments) =
      withDirectives text [comment] ++ withDirectives text comments :=
  List.filterMap_append (l := [comment])

/-- If none of the comments fails, their events are those of the comments with directives. -/
theorem accountsFor_of_resolveComments {comments : List Node}
    (h : (resolveComments grammar text root comments).2 = none) :
    List.Forall₂ (AccountsFor grammar text root) (withDirectives text comments)
      ((resolveComments grammar text root comments).1.map Resolution.event) := by
  induction comments with
  | nil => exact .nil
  | cons comment comments ih =>
      rw [resolveComments] at h ⊢
      split at h
      · cases h
      · next outcome houtcome =>
          rw [withDirectives_cons, List.map_append]
          exact List.rel_append (accountsFor_of_resolveComment houtcome) (ih h)

theorem segment?_event (resolution : Resolution) :
    resolution.event.segment? = resolution.segment? := by
  cases resolution <;> rfl

/-- The events of a resolution that does not fail are those of the comments with directives, and
the segments are those of the events. -/
theorem accountsFor_of_value_eq {tree : SyntaxTree} {segments : List Segment}
    (h : (resolveSegments grammar text tree).value = .ok segments) :
    List.Forall₂ (AccountsFor grammar text tree.root)
        (withDirectives text (tree.root.comments grammar))
        (resolveSegments grammar text tree).events ∧
      (resolveSegments grammar text tree).events.filterMap Event.segment? = segments := by
  rw [resolveSegments] at h ⊢
  split at h
  · cases h
  · next herror =>
      rw [if_neg herror]
      dsimp only at h ⊢
      split at h
      · cases h
      · next hnone =>
          cases h
          refine ⟨accountsFor_of_resolveComments hnone, ?_⟩
          rw [List.filterMap_map]
          exact congrArg (List.filterMap · _) (funext segment?_event)

end

/-- Every comment that counts and holds a directive is accounted for by one event, in preorder,
and the segments are those that the events report. -/
theorem resolveSegments_accountsFor {grammar : Grammar} {text : List Char} {tree : SyntaxTree}
    {segments : List Segment} (h : (resolveSegments grammar text tree).value = .ok segments) :
    List.Forall₂ (AccountsFor grammar text tree.root) (tree.root.directives grammar text)
        (resolveSegments grammar text tree).events ∧
      (resolveSegments grammar text tree).events.filterMap Event.segment? = segments := by
  have hcomments : tree.root.comments grammar =
      ((tree.root.places []).filter (IsOutermost grammar)).map Prod.fst :=
    comments_eq_places (List.forall_mem_nil _) tree.root
  rw [directives, ← hcomments]
  exact accountsFor_of_value_eq h

def nextComment : Node :=
  ⟨"comment", 0, 18, true, false, 0, 0, []⟩

def closingComment : Node :=
  ⟨"comment", 21, 39, true, false, 0, 21, []⟩

/-- A comment with the same directive within it. -/
def looseComment : Node :=
  ⟨"comment", 40, 58, true, false, 0, 40, [⟨"comment", 40, 58, true, false, 0, 40, []⟩]⟩

/-- Three directives: before a statement, at the end of a block, and behind it. -/
def scatteredTree : SyntaxTree where
  root :=
    ⟨"program", 0, 60, true, false, 0, 0, [nextComment,
      ⟨"expression_statement", 18, 20, true, false, 0, 18, []⟩,
      ⟨"statement_block", 20, 40, true, false, 0, 20, [closingComment]⟩, looseComment,
      ⟨"expression_statement", 58, 60, true, false, 0, 58, []⟩]⟩
  hasError := false

def scatteredText : List Char :=
  "/*t8 ignore next*/a;\x7b/*t8 ignore rest*/\x7d/*t8 ignore rest*/b;".toList

/-- The comment within the last one makes no event of its own. -/
theorem resolveSegments_accountsFor_scatteredTree :
    (resolveSegments .javascript scatteredText scatteredTree).value = .ok [⟨0, 20⟩] ∧
      List.Forall₂ (AccountsFor .javascript scatteredText scatteredTree.root)
        [(nextComment, .next), (closingComment, .rest), (looseComment, .rest)]
        [.segmentResolved .next ⟨0, 20⟩, .directiveWithoutTarget .rest 21,
          .directiveWithoutBlock .rest 40] := by
  have hvalue : (resolveSegments .javascript scatteredText scatteredTree).value =
      .ok [⟨0, 20⟩] := by
    rfl
  exact ⟨hvalue, (resolveSegments_accountsFor hvalue).1⟩

end Remap
