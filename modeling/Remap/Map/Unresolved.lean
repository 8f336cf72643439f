/-!
# Why a range has no original range

No line overlaps it, a bound has no mapping, a bound has a position but no source, the bounds lie
in different sources, or they collapse into one point with no mapping after it.
-/

namespace Remap

inductive Unresolved where
  | noLines
  | unmapped
  | noSource
  | crossSource
  | collapsed
deriving Repr, DecidableEq

def Unresolved.label : Unresolved → String
  | noLines => "no_lines"
  | unmapped => "unmapped"
  | noSource => "no_source"
  | crossSource => "cross_source"
  | collapsed => "collapsed"

end Remap
