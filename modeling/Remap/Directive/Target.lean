import Remap.Directive.RangeDirective
import Remap.Syntax.Grammar
import Remap.Syntax.Node

/-!
# The construct that a comment refers to

A directive refers to the construct after its comment. The search descends from the root through
the children that count as siblings (named, neither comment nor extra), keeping the boundaries on
both sides of the child it looks at: where the sibling before it stops and where the one after it
starts, or the parent's own start and stop at the ends of the list. The first child that lies
just after the comment is the target; a child that encloses the comment is searched in turn.
-/

namespace Remap

/-- The bytes that a comment spans. -/
structure ByteSpan where
  start : Nat
  stop : Nat
deriving Repr, DecidableEq

/-- A construct with its neighbourhood: where the construct before it stops, where the one after
it starts, and its ancestors, the nearest first. -/
structure Target where
  node : Node
  before : Nat
  after : Nat
  ancestors : List Node
deriving Repr

namespace Grammar

def isComment (grammar : Grammar) (node : Node) : Bool := grammar.commentKinds.contains node.kind

def isBlock (grammar : Grammar) (node : Node) : Bool := grammar.blockKinds.contains node.kind

/-- Whether a child counts as a sibling of the others. -/
def isConstruct (grammar : Grammar) (node : Node) : Bool :=
  node.named && !(grammar.isComment node || grammar.skippedKinds.contains node.kind)

end Grammar

namespace Node

mutual

/-- The comments of a tree in order; what a comment contains is not looked at. -/
def comments (grammar : Grammar) : Node → List Node
  | node@⟨_, _, _, _, _, _, _, children⟩ =>
    if grammar.isComment node then [node] else commentsAmong grammar children

def commentsAmong (grammar : Grammar) : List Node → List Node
  | [] => []
  | node :: rest => node.comments grammar ++ commentsAmong grammar rest

end

def constructs (grammar : Grammar) (node : Node) : List Node :=
  node.children.filter grammar.isConstruct

/-- Whether a child that starts at `start` lies just after a comment, given where the construct
before the child stops, if there is one. -/
def follows (comment : ByteSpan) (previous : Option Nat) (start : Nat) : Bool :=
  comment.stop ≤ start && previous.all (· ≤ comment.start)

def encloses (comment : ByteSpan) (node : Node) : Bool :=
  node.start ≤ comment.start && comment.stop ≤ node.stop

mutual

/-- The target in the tree below a node that is not the root. -/
def targetAt? (grammar : Grammar) (comment : ByteSpan) (previous : Option Nat)
    (before after : Nat) (ancestors : List Node) : Node → Option Target
  | node@⟨_, start, stop, _, _, _, _, children⟩ =>
    if follows comment previous start then some ⟨node, before, after, ancestors⟩
    else if encloses comment node then
      targetAmong? grammar comment start stop (node :: ancestors) none children
    else none

/-- The target among the children, from some child on, of a node that spans `[start, stop)`;
`previous` is where the construct before them stops. -/
def targetAmong? (grammar : Grammar) (comment : ByteSpan) (start stop : Nat)
    (ancestors : List Node) (previous : Option Nat) : List Node → Option Target
  | [] => none
  | child :: rest =>
    if grammar.isConstruct child then
      let after := ((rest.find? grammar.isConstruct).map Node.start).getD stop
      match child.targetAt? grammar comment previous (previous.getD start) after ancestors with
      | some target => some target
      | none => targetAmong? grammar comment start stop ancestors (some child.stop) rest
    else targetAmong? grammar comment start stop ancestors previous rest

end

/-- The construct that a comment in the tree refers to. -/
def target? (grammar : Grammar) (root : Node) (comment : ByteSpan) : Option Target :=
  targetAmong? grammar comment root.start root.stop [root] none root.children

end Node

/-- The bytes that a directive excludes: from the end of the construct before the target to the
start of the one after it, or to the end of the nearest enclosing block. -/
def Target.range? (grammar : Grammar) (target : Target) : RangeDirective → Option ByteSpan
  | .next => some ⟨target.before, target.after⟩
  | .rest => (target.ancestors.find? grammar.isBlock).map fun block => ⟨target.before, block.stop⟩

end Remap
