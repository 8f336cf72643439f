/-!
# Ranges of code points

A class of characters as a list of inclusive ranges of code points, in increasing order.
-/

namespace Remap.Text

abbrev CodeRanges := List (Nat × Nat)

def CodeRanges.contains (ranges : CodeRanges) (c : Char) : Bool :=
  ranges.any fun range => range.1 ≤ c.toNat && c.toNat ≤ range.2

end Remap.Text
