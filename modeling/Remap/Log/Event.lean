import Remap.Directive.RangeDirective
import Remap.Map.Unresolved
import Remap.Segment
import Remap.Value.Basic

/-!
# Events

What the program reports while it works: each directive that it resolves or has to pass over, each
text that it has indexed, and each range that has no original range. All are of severity `debug`.
Work that reports events returns them beside its result, as a `Logged` value.
-/

namespace Remap

inductive Event where
  | sourceIndexed (lines ignoredLines segments : Nat) (language : Option String)
  | segmentResolved (directive : RangeDirective) (segment : Segment)
  | directiveWithoutTarget (directive : RangeDirective) (offset : Int)
  | directiveWithoutBlock (directive : RangeDirective) (offset : Int)
  | rangeUnresolved (reason : Unresolved) (start stop : Int)
deriving Repr, DecidableEq

namespace Event

def name : Event → String
  | sourceIndexed .. => "source_indexed"
  | segmentResolved .. => "ignore_segment_resolved"
  | directiveWithoutTarget .. => "ignore_directive_without_target"
  | directiveWithoutBlock .. => "ignore_directive_without_block"
  | rangeUnresolved .. => "range_unresolved"

def fields : Event → List (String × Value)
  | sourceIndexed lines ignoredLines segments language =>
    [("lines", .int lines), ("ignored_lines", .int ignoredLines),
      ("ignore_segments", .int segments),
      ("parser", match language with | some l => .str l | none => .null)]
  | segmentResolved directive segment =>
    [("keyword", .str directive.keyword), ("start", .int segment.start),
      ("end", .int segment.stop)]
  | directiveWithoutTarget directive offset | directiveWithoutBlock directive offset =>
    [("keyword", .str directive.keyword), ("offset", .int offset)]
  | rangeUnresolved reason start stop =>
    [("reason", .str reason.label), ("start", .int start), ("end", .int stop)]

end Event

/-- A result with the events reported on the way to it, in order. -/
structure Logged (α : Type u) where
  value : α
  events : List Event
deriving Repr

end Remap
