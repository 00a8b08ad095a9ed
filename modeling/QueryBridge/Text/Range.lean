/-!
# Ranges of code points

A character property of the Unicode standard is written down as the list of its
inclusive ranges of code points.
-/

namespace QueryBridge.Text

/-- Whether a code point lies in one of the inclusive ranges. -/
def inRanges (ranges : List (Nat × Nat)) (code : Nat) : Bool :=
  ranges.any fun range => range.1 ≤ code && code ≤ range.2

end QueryBridge.Text
