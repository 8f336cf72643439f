/-!
# Segments

A half-open range of offsets in a text that is excluded from coverage.
-/

namespace Remap

structure Segment where
  start : Int
  stop : Int
deriving Repr, DecidableEq

namespace Segment

def holds (segment : Segment) (offset : Int) : Bool :=
  segment.start ≤ offset && offset < segment.stop

/-- Whether all of `[start, stop)` lies in the segment. -/
def covers (segment : Segment) (start stop : Int) : Bool :=
  segment.start ≤ start && stop ≤ segment.stop

end Segment

end Remap
