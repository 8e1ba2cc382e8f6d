/-!
# Tables of ranges

A property of characters that has no short rule is given as a table of ranges
of code points. The tables themselves stand in the modules named for their
property; this one only looks a code point up.
-/

namespace FixedWidth.Text

/-- Whether a code point lies in one of the ranges, ends included. -/
def inRanges (table : List (Nat × Nat)) (n : Nat) : Bool :=
  table.any fun range => range.1 ≤ n && n ≤ range.2

end FixedWidth.Text
