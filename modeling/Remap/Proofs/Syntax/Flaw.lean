import Remap.Proofs.Listing.Lines

/-!
# The flaw that is reported

A parser that met an error leaves a tree whose first flaw in preorder is the place to
report, or its root where no node is a flaw. The walk that looks for the place takes
the nodes from a stack (`Node.Walk`). What it has still to visit is the preorder of the
stack from the top down (`Node.awaiting`): a visit takes the first node of that list
off and leaves the rest as it is, so that a walk ends and comes to what a search through
the list comes to (`Node.Walk.searches`).

A tree with an error is refused at that place before any directive is looked at
(`resolveSegments_of_hasError`), and no listing is made of its text
(`Listing.build_of_hasError`).
-/

namespace Remap

namespace Node

/-- Whether a node stands for what the parser could not make sense of, or for a token that it
had to invent. -/
def IsFlawed (node : Node) : Prop := node.kind = "ERROR" ∨ node.missing

theorem isFlaw_iff {node : Node} : node.isFlaw ↔ node.IsFlawed := by
  simp only [isFlaw, IsFlawed, Bool.or_eq_true, beq_iff_eq]

/-! ## Searches in order -/

/-- A search through nodes in order: the nodes that it looks at, up to the first flaw, and this
flaw; or all nodes, where none is a flaw. -/
inductive Searches : List Node → List Node → Option Node → Prop
  | all {nodes : List Node} : (∀ node ∈ nodes, ¬ node.IsFlawed) → Searches nodes nodes none
  | upTo {before after : List Node} {node : Node} : (∀ other ∈ before, ¬ other.IsFlawed) →
      node.IsFlawed → Searches (before ++ node :: after) (before ++ [node]) (some node)

section

variable {node : Node} {nodes visited : List Node} {found? : Option Node}

/-- A search goes on behind a node that is no flaw. -/
theorem Searches.cons (hnode : ¬ node.IsFlawed) (h : Searches nodes visited found?) :
    Searches (node :: nodes) (node :: visited) found? := by
  cases h with
  | all hnone => exact .all (List.forall_mem_cons.mpr ⟨hnode, hnone⟩)
  | @upTo before after flaw hbefore hflaw =>
      have hlead : ∀ other ∈ node :: before, ¬ other.IsFlawed :=
        List.forall_mem_cons.mpr ⟨hnode, hbefore⟩
      exact @Searches.upTo (node :: before) after flaw hlead hflaw

/-- A search comes to the first flaw of the nodes. -/
theorem Searches.found_eq (h : Searches nodes visited found?) : found? = nodes.find? isFlaw := by
  cases h with
  | all hnone =>
      refine (List.find?_eq_none.mpr fun node hnode => ?_).symm
      exact mt isFlaw_iff.mp (hnone node hnode)
  | @upTo before after flaw hbefore hflaw =>
      refine (List.find?_eq_some_iff_append.mpr ⟨isFlaw_iff.mpr hflaw, before, after, rfl, ?_⟩).symm
      intro other hother
      simpa using mt isFlaw_iff.mp (hbefore other hother)

end

/-! ## Walks -/

/-- A walk from a stack of nodes: it takes the last one, ends there if that is a flaw, and else
goes on with the children of the node on the stack, the first child on top. The walk visits these
nodes one after another and comes to this flaw, if to any. -/
inductive Walk : Array Node → List Node → Option Node → Prop
  | done : Walk #[] [] none
  | found {below : Array Node} {node : Node} : node.IsFlawed →
      Walk (below.push node) [node] (some node)
  | visit {below : Array Node} {node : Node} {visited : List Node} {found? : Option Node} :
      ¬ node.IsFlawed → Walk (below ++ node.children.reverse) visited found? →
      Walk (below.push node) (node :: visited) found?

section

variable {stack : Array Node} {visited : List Node} {found? : Option Node}

/-- A walk comes to what a search through the nodes comes to that it has still to visit. -/
theorem Walk.searches (h : Walk stack visited found?) :
    Searches (awaiting stack) visited found? := by
  induction h with
  | done => exact .all (by simp [awaiting, preorderAll])
  | @found below node hnode =>
      rw [awaiting_push]
      exact @Searches.upTo [] _ node (by simp) hnode
  | @visit below node visited found? hnode _ ih =>
      rw [awaiting_push]
      exact ih.cons hnode

theorem firstFlaw?_empty : firstFlaw? #[] = none := by
  rw [firstFlaw?]
  rfl

theorem firstFlaw?_push (below : Array Node) (node : Node) :
    firstFlaw? (below.push node) =
      if node.isFlaw then some node else firstFlaw? (below ++ node.children.reverse) := by
  rw [firstFlaw?]
  split
  · next hback => simp at hback
  · next top hback =>
      obtain rfl : node = top := by simpa using hback
      rw [Array.pop_push]

/-- From every stack there is a walk, and the flaw that it comes to is the one that is found. -/
theorem exists_walk (stack : Array Node) : ∃ visited, Walk stack visited (firstFlaw? stack) := by
  -- The recursion of the search itself, of which each turn is one constructor of the walk.
  induction stack using firstFlaw?.induct with
  | case1 stack hback =>
      obtain rfl := Array.back?_eq_none_iff.mp hback
      rw [firstFlaw?_empty]
      exact ⟨[], .done⟩
  | case2 stack node hback hflaw =>
      obtain ⟨below, rfl⟩ := Array.back?_eq_some_iff.mp hback
      rw [firstFlaw?_push, if_pos hflaw]
      exact ⟨[node], .found (isFlaw_iff.mp hflaw)⟩
  | case3 stack node hback hflaw ih =>
      obtain ⟨below, rfl⟩ := Array.back?_eq_some_iff.mp hback
      rw [Array.pop_push] at ih
      obtain ⟨visited, hwalk⟩ := ih
      rw [firstFlaw?_push, if_neg hflaw]
      exact ⟨node :: visited, .visit (mt isFlaw_iff.mpr hflaw) hwalk⟩

/-- What is found is the first flaw of the nodes that await a visit. -/
theorem firstFlaw?_eq (stack : Array Node) : firstFlaw? stack = (awaiting stack).find? isFlaw := by
  obtain ⟨visited, hwalk⟩ := exists_walk stack
  exact hwalk.searches.found_eq

/-- All walks from a stack come to the flaw that is found. -/
theorem Walk.found_eq (h : Walk stack visited found?) : found? = firstFlaw? stack := by
  rw [h.searches.found_eq, firstFlaw?_eq]

theorem awaiting_root (root : Node) : awaiting #[root] = root.preorder := by
  simp [awaiting, preorderAll]

end

end Node

/-! ## Refused trees -/

section

variable {tree : SyntaxTree} {visited : List Node} {found? : Option Node}

/-- The place of an error is that of the flaw that a walk from the root comes to, or of the
root. -/
theorem Node.Walk.errorPlace_eq (h : Node.Walk #[tree.root] visited found?) :
    tree.errorPlace = ((found?.getD tree.root).row + 1, (found?.getD tree.root).column) := by
  rw [SyntaxTree.errorPlace, h.found_eq]

theorem resolveSegments_eq_of_hasError (herror : tree.hasError) (grammar : Grammar)
    (text : List Char) :
    resolveSegments grammar text tree =
      ⟨.error (.flawed grammar.name tree.errorPlace.1 tree.errorPlace.2), []⟩ := by
  rw [resolveSegments, if_pos herror]

/-- The walk through a tree with an error ends. It visits the nodes in preorder up to the first
flaw, or all of them, and the line and the column of this flaw, or else of the root, are what the
tree is refused with. No directive is resolved or reported. -/
theorem resolveSegments_of_hasError (herror : tree.hasError) (grammar : Grammar)
    (text : List Char) :
    (∃ visited found?, Node.Walk #[tree.root] visited found?) ∧
      ∀ visited found?, Node.Walk #[tree.root] visited found? →
        Node.Searches tree.root.preorder visited found? ∧
        let node := found?.getD tree.root
        let error := ResolutionError.flawed grammar.name (node.row + 1) node.column
        tree.errorPlace = (node.row + 1, node.column) ∧
        resolveSegments grammar text tree = ⟨.error error, []⟩ ∧
        error.fault? = some (.sourceFlawed (.str grammar.name) (.int (node.row + 1))
          (.int node.column)) := by
  obtain ⟨own, hown⟩ := Node.exists_walk #[tree.root]
  refine ⟨⟨own, _, hown⟩, fun visited found? hwalk => ?_⟩
  have hplace := hwalk.errorPlace_eq
  refine ⟨?_, hplace, ?_, rfl⟩
  · rw [← Node.awaiting_root]
    exact hwalk.searches
  · rw [resolveSegments_eq_of_hasError herror, hplace]

end

/-- A call that is not closed, so that its parenthesis is missing, and behind it what makes no
sense at all. The first flaw in preorder is the deeper one. -/
def unclosedCall : SyntaxTree where
  root :=
    ⟨"program", 0, 5, true, false, 0, 0, [
      ⟨"expression_statement", 0, 3, true, false, 0, 0, [
        ⟨"call_expression", 0, 3, true, false, 0, 0, [
          ⟨"identifier", 0, 1, true, false, 0, 0, []⟩,
          ⟨"arguments", 1, 3, true, false, 0, 1, [
            ⟨"(", 1, 2, false, false, 0, 1, []⟩,
            ⟨"identifier", 2, 3, true, false, 0, 2, []⟩,
            ⟨")", 3, 3, false, true, 0, 3, []⟩]⟩]⟩]⟩,
      ⟨"ERROR", 4, 5, true, false, 1, 0, [⟨"(", 4, 5, false, false, 1, 0, []⟩]⟩]⟩
  hasError := true

theorem resolveSegments_of_hasError_unclosedCall :
    unclosedCall.hasError ∧ (∃ visited found?, Node.Walk #[unclosedCall.root] visited found?) ∧
      resolveSegments .javascript "f(a\n(".toList unclosedCall =
        ⟨.error (.flawed "javascript" 1 3), []⟩ := by
  have herror : unclosedCall.hasError := rfl
  obtain ⟨⟨visited, found?, hwalk⟩, hrefused⟩ :=
    resolveSegments_of_hasError herror .javascript "f(a\n(".toList
  obtain ⟨hsearches, -, hresolve, -⟩ := hrefused visited found? hwalk
  have hfirst : unclosedCall.root.preorder.find? Node.isFlaw =
      some ⟨")", 3, 3, false, true, 0, 3, []⟩ := rfl
  obtain rfl := hsearches.found_eq.trans hfirst
  exact ⟨herror, ⟨visited, _, hwalk⟩, hresolve⟩

/-! ## Listings -/

namespace Listing

variable {parse : Parse} {source : List Char} {wrapperLength : Int} {name : String}
  {grammar : Grammar} {plain : Listing}

/-- A text that has a listing without a language has none in a language whose parser meets an
error in it. -/
theorem build_of_hasError (hplain : (build parse source wrapperLength none).value = .ok plain)
    (hgrammar : Grammar.named? name = some grammar)
    (herror : (parse grammar (Text.trimEnd source)).hasError) :
    build parse source wrapperLength (some name) =
      let (line, column) := (parse grammar (Text.trimEnd source)).errorPlace
      ⟨.error (.resolution (.flawed grammar.name line column)), []⟩ := by
  obtain ⟨lines, segments, hlines, -, -⟩ := build_eq_ok_iff.mp hplain
  have hfound : findSegments parse (Text.trimEnd source) (some name) =
      let (line, column) := (parse grammar (Text.trimEnd source)).errorPlace
      ⟨.error (.resolution (.flawed grammar.name line column)), []⟩ := by
    rw [findSegments_of_named? parse _ hgrammar, resolveSegments_eq_of_hasError herror]
    rfl
  rw [build, hlines, hfound]

end Listing

end Remap
