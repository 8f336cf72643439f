import Remap.Proofs.Directive.Deepest

/-!
# The descent into trees of any shape

What the search for a target finds where nothing is known of the tree: its nodes may
overlap, stand out of order or reach out of their parents, so that several branches may
enclose one comment and it may address several constructs. A construct has a position, the
indices of the constructs on the way down to it, and positions are in document order
(`Position.Precedes`). The search looks at the constructs to which the way leads through
nodes that enclose the comment, and the target is the first of them that is addressed
(`target?_eq_some_iff_isFirst`).

The places that a search looks at come one group after another: a construct with those below
it, then the constructs behind it. So an answer is the first of one group, or else of the
next (`IsFirstOf.or`), and the tree follows by induction.
-/

namespace Remap

open Node

/-! ## Positions -/

/-- A construct with its surroundings: its parent, the nodes above that, and the constructs on
its two sides. -/
structure Site where
  node : Node
  parent : Node
  above : List Node
  previous : Option Node
  next : Option Node

namespace Site

/-- The construct as a target: where there is none beside it, its parent bounds it. -/
def target (site : Site) : Target where
  node := site.node
  before := (site.previous.map Node.stop).getD site.parent.start
  after := (site.next.map Node.start).getD site.parent.stop
  ancestors := site.parent :: site.above

/-- Whether a comment lies before a construct, and behind the one before it. -/
structure IsAddressed (comment : ByteSpan) (site : Site) : Prop where
  stop_le : comment.stop ≤ site.node.start
  le_start : ∀ node ∈ site.previous, node.stop ≤ comment.start

end Site

/-- A position in a tree: the index of a construct for each node on the way down. -/
abbrev Position := List Nat

/-- Document order: what stands above comes first, else what has the lower index where the
two ways part. -/
def Position.Precedes (a b : Position) : Prop := List.Lex (· < ·) a b

namespace Node

/-- The construct of a node at an index, which is known to be there. -/
def siteOf (grammar : Grammar) (above : List Node) (node : Node) (i : Nat) (own : Node) : Site where
  node := own
  parent := node
  above := above
  previous := if i = 0 then none else (node.constructs grammar)[i - 1]?
  next := (node.constructs grammar)[i + 1]?

/-- The construct at a position below a node, which stands below the nodes `above`. -/
def site? (grammar : Grammar) (above : List Node) (node : Node) : Position → Option Site
  | [] => none
  | [i] => (node.constructs grammar)[i]?.map (node.siteOf grammar above i)
  | i :: j :: rest => (node.constructs grammar)[i]?.bind fun own =>
    own.site? grammar (node :: above) (j :: rest)

end Node

section

variable (grammar : Grammar) (comment : ByteSpan)

/-- Whether the construct at a position is addressed, and all on the way down to it enclose the
comment. -/
structure IsFound (above : List Node) (node : Node) (position : Position) (site : Site) : Prop where
  site_eq : node.site? grammar above position = some site
  encloses : ∀ front, front <+: position → front ≠ position →
    ∀ own ∈ node.site? grammar above front, encloses comment own.node
  isAddressed : site.IsAddressed comment

/-- Whether a position is the first in document order of those where something is found. -/
structure IsFirst (above : List Node) (node : Node) (position : Position) (site : Site) : Prop
    extends IsFound grammar comment above node position site where
  first : ∀ other own, IsFound grammar comment above node other own →
    other = position ∨ position.Precedes other

end

/-! ## Places in order -/

/-- Whether an answer is the target at the first place of some, or there is no such place. -/
def IsFirstOf (found : Position → Site → Prop) : Option Target → Prop
  | none => ∀ position site, ¬ found position site
  | some target => ∃ position site, found position site ∧
    (∀ other own, found other own → other = position ∨ position.Precedes other) ∧
    target = site.target

namespace IsFirstOf

variable {found later : Position → Site → Prop} {answer : Option Target}

theorem congr (h : IsFirstOf found answer)
    (hiff : ∀ position site, later position site ↔ found position site) :
    IsFirstOf later answer := by
  have heq : later = found := by
    funext position site
    exact propext (hiff position site)
  rw [heq]
  exact h

/-- The first of places, of which some come before all others. -/
theorem or {next : Option Target} (h : IsFirstOf found answer) (hlater : IsFirstOf later next)
    (hprecedes : ∀ a own b other, found a own → later b other → a.Precedes b) :
    IsFirstOf (fun position site => found position site ∨ later position site)
      (answer.or next) := by
  cases answer with
  | some target =>
      obtain ⟨position, site, hfound, hfirst, htarget⟩ := h
      refine ⟨position, site, Or.inl hfound, ?_, htarget⟩
      rintro other own (hown | hown)
      · exact hfirst other own hown
      · exact Or.inr (hprecedes position site other own hfound hown)
  | none =>
      rw [Option.none_or]
      refine hlater.congr fun position site => ?_
      exact or_iff_right (h position site)

/-- The first of places that all stand below one construct. -/
theorem cons (h : IsFirstOf found answer) (i : Nat) :
    IsFirstOf (fun position site => ∃ rest, position = i :: rest ∧ found rest site) answer := by
  cases answer with
  | some target =>
      obtain ⟨position, site, hfound, hfirst, htarget⟩ := h
      refine ⟨i :: position, site, ⟨position, rfl, hfound⟩, ?_, htarget⟩
      rintro other own ⟨rest, rfl, hown⟩
      rcases hfirst rest own hown with rfl | hprecedes
      · exact Or.inl rfl
      · exact Or.inr (List.Lex.cons hprecedes)
  | none =>
      rintro position site ⟨rest, -, hfound⟩
      exact h rest site hfound

end IsFirstOf

/-! ## Places below a node -/

section

variable {grammar : Grammar} {comment : ByteSpan} {above : List Node} {node own : Node}
  {i : Nat} {rest : Position} {site : Site}

theorem Node.site?_cons (hrest : rest ≠ []) :
    node.site? grammar above (i :: rest) = (node.constructs grammar)[i]?.bind fun own =>
      own.site? grammar (node :: above) rest := by
  cases rest with
  | nil => exact absurd rfl hrest
  | cons j rest => rfl

theorem not_isFound_nil : ¬ IsFound grammar comment above node [] site := by
  intro h
  cases h.site_eq

/-- A construct of a node is found where it is addressed. -/
theorem isFound_singleton_iff :
    IsFound grammar comment above node [i] site ↔
      ∃ own, (node.constructs grammar)[i]? = some own ∧
        site = node.siteOf grammar above i own ∧ site.IsAddressed comment := by
  constructor
  · intro h
    obtain ⟨own, hown, hsite⟩ := Option.map_eq_some_iff.mp h.site_eq
    exact ⟨own, hown, hsite.symm, h.isAddressed⟩
  · rintro ⟨own, hown, rfl, haddressed⟩
    refine ⟨Option.map_eq_some_iff.mpr ⟨own, hown, rfl⟩, ?_, haddressed⟩
    intro front hfront hne place hplace
    rcases List.prefix_cons_iff.mp hfront with rfl | ⟨last, rfl, hlast⟩
    · cases hplace
    · exact absurd (congrArg (i :: ·) (List.prefix_nil.mp hlast)) hne

/-- What stands below a construct of a node is found where the construct encloses the comment. -/
theorem isFound_below_iff (hrest : rest ≠ []) :
    IsFound grammar comment above node (i :: rest) site ↔
      ∃ own, (node.constructs grammar)[i]? = some own ∧ encloses comment own ∧
        IsFound grammar comment (node :: above) own rest site := by
  constructor
  · intro h
    have hsite := h.site_eq
    rw [site?_cons hrest] at hsite
    obtain ⟨own, hown, hsite⟩ := Option.bind_eq_some_iff.mp hsite
    have hself : encloses comment own :=
      h.encloses [i] (List.cons_prefix_cons.mpr ⟨rfl, List.nil_prefix⟩)
        (fun heq => hrest (List.cons.inj heq).2.symm) (node.siteOf grammar above i own)
        (Option.map_eq_some_iff.mpr ⟨own, hown, rfl⟩)
    refine ⟨own, hown, hself, hsite, ?_, h.isAddressed⟩
    intro front hfront hne place hplace
    have hstep : front ≠ [] := by
      rintro rfl
      cases hplace
    refine h.encloses (i :: front) (List.cons_prefix_cons.mpr ⟨rfl, hfront⟩) ?_ place ?_
    · exact fun heq => hne (List.cons.inj heq).2
    · rw [site?_cons hstep, hown]
      exact hplace
  · rintro ⟨own, hown, hself, hfound⟩
    refine ⟨?_, ?_, hfound.isAddressed⟩
    · rw [site?_cons hrest, hown]
      exact hfound.site_eq
    · intro front hfront hne place hplace
      rcases List.prefix_cons_iff.mp hfront with rfl | ⟨front, rfl, hbelow⟩
      · cases hplace
      · by_cases hstep : front = []
        · subst hstep
          obtain ⟨child, hchild, rfl⟩ := Option.map_eq_some_iff.mp hplace
          rw [hown] at hchild
          cases hchild
          exact hself
        · rw [site?_cons hstep, hown] at hplace
          exact hfound.encloses front hbelow (fun heq => hne (by rw [heq])) place hplace

theorem IsFound.exists_getElem? (h : IsFound grammar comment above node (i :: rest) site) :
    ∃ own, (node.constructs grammar)[i]? = some own := by
  by_cases hrest : rest = []
  · subst hrest
    obtain ⟨own, hown, -⟩ := isFound_singleton_iff.mp h
    exact ⟨own, hown⟩
  · obtain ⟨own, hown, -⟩ := (isFound_below_iff hrest).mp h
    exact ⟨own, hown⟩

/-! ## The search below a node -/

/-- The constructs beside one are those that the search has to do with. -/
theorem siteOf_of_constructs {before behind : List Node}
    (hconstructs : node.constructs grammar = before ++ own :: behind) :
    node.siteOf grammar above before.length own =
      ⟨own, node, above, before.getLast?, behind.head?⟩ := by
  have hprevious : (if before.length = 0 then none
      else (before ++ own :: behind)[before.length - 1]?) = before.getLast? := by
    split
    · next hnone => rw [List.eq_nil_of_length_eq_zero hnone, List.getLast?_nil]
    · next hsome => rw [List.getElem?_append_left (by omega), List.getLast?_eq_getElem?]
  have hnext : (before ++ own :: behind)[before.length + 1]? = behind.head? := by
    rw [List.getElem?_append_right (by omega), Nat.add_sub_cancel_left, List.getElem?_cons_succ,
      List.head?_eq_getElem?]
  rw [siteOf, hconstructs, hprevious, hnext]

theorem isAddressed_iff_follows {before : List Node} {next : Option Node} :
    Site.IsAddressed comment ⟨own, node, above, before.getLast?, next⟩ ↔
      follows comment (lastStop? before) own.start := by
  rw [follows, Bool.and_eq_true, decide_eq_true_eq, lastStop?, Option.all_map, Option.all_eq_true]
  constructor
  · intro h
    exact ⟨h.stop_le, fun last hlast => decide_eq_true (h.le_start last hlast)⟩
  · rintro ⟨hstop, hlast⟩
    exact ⟨hstop, fun last h => of_decide_eq_true (hlast last h)⟩

/-- Whether a position leads to the constructs of a node from an index on. -/
def LeadsFrom (k : Nat) (position : Position) : Prop := ∃ i rest, position = i :: rest ∧ k ≤ i

/-- The search looks at a construct first, then at what stands below it. -/
theorem isFirstOf_targetAt? {before after : Nat} (previous : Option Nat)
    (hown : (node.constructs grammar)[i]? = some own)
    (htarget : (node.siteOf grammar above i own).target = ⟨own, before, after, node :: above⟩)
    (hfollows : (node.siteOf grammar above i own).IsAddressed comment ↔
      follows comment previous own.start)
    (hbelow : IsFirstOf (IsFound grammar comment (node :: above) own)
      (targetAmong? grammar comment own.start own.stop (own :: node :: above) none own.children)) :
    IsFirstOf (fun position site => ∃ rest, position = i :: rest ∧
        IsFound grammar comment above node position site)
      (own.targetAt? grammar comment previous before after (node :: above)) := by
  rw [targetAt?_eq]
  by_cases haddressed : (node.siteOf grammar above i own).IsAddressed comment
  · rw [if_pos (hfollows.mp haddressed)]
    refine ⟨[i], node.siteOf grammar above i own,
      ⟨[], rfl, isFound_singleton_iff.mpr ⟨own, hown, rfl, haddressed⟩⟩, ?_, htarget.symm⟩
    rintro other place ⟨rest, rfl, -⟩
    cases rest with
    | nil => exact Or.inl rfl
    | cons j rest => exact Or.inr (List.Lex.cons List.Lex.nil)
  · rw [if_neg (mt hfollows.mpr haddressed)]
    -- The construct itself is not found, so that all places are below it.
    have hrest {rest : Position} {site : Site}
        (h : IsFound grammar comment above node (i :: rest) site) : rest ≠ [] := by
      rintro rfl
      obtain ⟨child, hchild, rfl, hplace⟩ := isFound_singleton_iff.mp h
      rw [hown] at hchild
      cases hchild
      exact haddressed hplace
    split
    · next hself =>
        refine (hbelow.cons i).congr fun position site => exists_congr fun rest => ?_
        refine and_congr_right ?_
        rintro rfl
        constructor
        · intro h
          obtain ⟨child, hchild, -, hfound⟩ := (isFound_below_iff (hrest h)).mp h
          rw [hown] at hchild
          cases hchild
          exact hfound
        · intro h
          have hne : rest ≠ [] := by
            rintro rfl
            exact not_isFound_nil h
          exact (isFound_below_iff hne).mpr ⟨own, hown, hself, h⟩
    · next hself =>
        rintro position site ⟨rest, rfl, h⟩
        obtain ⟨child, hchild, hencloses, -⟩ := (isFound_below_iff (hrest h)).mp h
        rw [hown] at hchild
        cases hchild
        exact hself hencloses

/-- Whether the search below a node answers with the first place below it. -/
def AnswersFirst (grammar : Grammar) (comment : ByteSpan) (node : Node) : Prop :=
  ∀ above, IsFirstOf (IsFound grammar comment above node)
    (targetAmong? grammar comment node.start node.stop (node :: above) none node.children)

/-- The search among children answers with the first place from there on. -/
theorem isFirstOf_targetAmong? {before children : List Node}
    (hchildren : ∀ child ∈ children, AnswersFirst grammar comment child)
    (hconstructs : node.constructs grammar = before ++ children.filter grammar.isConstruct) :
    IsFirstOf (fun position site => LeadsFrom before.length position ∧
        IsFound grammar comment above node position site)
      (targetAmong? grammar comment node.start node.stop (node :: above) (lastStop? before)
        children) := by
  induction children generalizing before with
  | nil =>
      rintro position site ⟨⟨i, rest, rfl, hle⟩, h⟩
      obtain ⟨own, hown⟩ := h.exists_getElem?
      rw [hconstructs, List.filter_nil, List.append_nil, List.getElem?_eq_none hle] at hown
      cases hown
  | cons child children ih =>
      have hlater := fun c hc => hchildren c (List.mem_cons_of_mem _ hc)
      by_cases hconstruct : grammar.isConstruct child
      · rw [List.filter_cons_of_pos hconstruct] at hconstructs
        have hown : (node.constructs grammar)[before.length]? = some child := by
          rw [hconstructs, List.getElem?_append_right (Nat.le_refl _), Nat.sub_self,
            List.getElem?_cons_zero]
        have hstop : lastStop? (before ++ [child]) = some child.stop := by
          rw [lastStop?, List.getLast?_concat, Option.map_some]
        have hchild := isFirstOf_targetAt? (lastStop? before) hown
          (by rw [siteOf_of_constructs hconstructs]; rfl)
          (by rw [siteOf_of_constructs hconstructs]; exact isAddressed_iff_follows)
          (hchildren child List.mem_cons_self (node :: above))
        have hbehind : node.constructs grammar =
            (before ++ [child]) ++ children.filter grammar.isConstruct := by
          rw [hconstructs, List.append_assoc, List.singleton_append]
        have hrest := ih hlater hbehind
        rw [hstop] at hrest
        rw [targetAmong?_cons_of_isConstruct hconstruct]
        refine (hchild.or hrest ?_).congr ?_
        · rintro _ _ _ _ ⟨rest, rfl, -⟩ ⟨⟨j, rest', rfl, hlt⟩, -⟩
          rw [List.length_append, List.length_singleton] at hlt
          exact List.Lex.rel hlt
        · intro position site
          rw [LeadsFrom, List.length_append, List.length_singleton]
          constructor
          · rintro ⟨⟨i, rest, rfl, hle⟩, h⟩
            rcases Nat.eq_or_lt_of_le hle with rfl | hlt
            · exact Or.inl ⟨rest, rfl, h⟩
            · exact Or.inr ⟨⟨i, rest, rfl, hlt⟩, h⟩
          · rintro (⟨rest, rfl, h⟩ | ⟨⟨i, rest, rfl, hlt⟩, h⟩)
            · exact ⟨⟨before.length, rest, rfl, Nat.le_refl _⟩, h⟩
            · exact ⟨⟨i, rest, rfl, Nat.le_of_succ_le hlt⟩, h⟩
      · rw [targetAmong?_cons_of_not_isConstruct hconstruct]
        rw [List.filter_cons_of_neg hconstruct] at hconstructs
        exact ih hlater hconstructs

theorem answersFirst (grammar : Grammar) (comment : ByteSpan) (node : Node) :
    AnswersFirst grammar comment node := by
  induction node using inductionOnChildren with
  | step node ih =>
      intro above
      refine (isFirstOf_targetAmong? ih (List.nil_append _).symm).congr fun position site => ?_
      refine (and_iff_right_of_imp fun h => ?_).symm
      cases position with
      | nil => exact absurd h not_isFound_nil
      | cons i rest => exact ⟨i, rest, rfl, Nat.zero_le i⟩

theorem IsFirst.eq {position other : Position} {site place : Site}
    (h : IsFirst grammar comment above node position site)
    (hother : IsFirst grammar comment above node other place) : position = other ∧ site = place := by
  have heq : position = other := by
    rcases h.first other place hother.toIsFound with heq | hprecedes
    · exact heq.symm
    · rcases hother.first position site h.toIsFound with heq | hprecedes'
      · exact heq
      · exact absurd hprecedes' (List.lex_asymm Nat.lt_asymm hprecedes)
  subst heq
  exact ⟨rfl, Option.some.inj (h.site_eq.symm.trans hother.site_eq)⟩

end

/-- Whatever a tree looks like, the target is the construct at the first position in document
order where one is addressed and all constructs above it enclose the comment, with the
constructs beside it for bounds, or else its parent, and with the way down from the root. There
is none exactly when there is no such position. -/
theorem target?_eq_some_iff_isFirst (grammar : Grammar) (comment : ByteSpan) (root : Node) :
    (∀ target, root.target? grammar comment = some target ↔
      ∃ position site, IsFirst grammar comment [] root position site ∧ target = site.target) ∧
    (root.target? grammar comment = none ↔
      ∀ position site, ¬ IsFound grammar comment [] root position site) := by
  have hanswer : IsFirstOf (IsFound grammar comment [] root) (root.target? grammar comment) :=
    answersFirst grammar comment root []
  cases htarget : root.target? grammar comment with
  | none =>
      rw [htarget] at hanswer
      refine ⟨fun target => iff_of_false nofun ?_, iff_of_true rfl hanswer⟩
      rintro ⟨position, site, hfirst, -⟩
      exact hanswer position site hfirst.toIsFound
  | some target =>
      rw [htarget] at hanswer
      obtain ⟨position, site, hfound, hfirst, rfl⟩ := hanswer
      refine ⟨fun target => ⟨?_, ?_⟩, iff_of_false nofun fun hnone => hnone position site hfound⟩
      · rintro ⟨⟩
        exact ⟨position, site, ⟨hfound, hfirst⟩, rfl⟩
      · rintro ⟨other, place, hother, rfl⟩
        obtain ⟨-, rfl⟩ := hother.eq ⟨hfound, hfirst⟩
        rfl

/-- Of two statements that both enclose a comment the first holds only an expression that starts
too early, and the second one behind the comment. -/
example :
    let late : Node := ⟨"identifier", 14, 20, true, false, 0, 14, []⟩
    let first : Node := ⟨"statement", 0, 20, true, false, 0, 0,
      [⟨"identifier", 8, 12, true, false, 0, 8, []⟩]⟩
    let second : Node := ⟨"statement", 2, 16, true, false, 0, 2, [late]⟩
    let root : Node := ⟨"program", 30, 40, true, false, 0, 30, [first, second]⟩
    root.target? .javascript ⟨4, 9⟩ = some ⟨late, 2, 16, [second, root]⟩ := by
  rfl

end Remap
