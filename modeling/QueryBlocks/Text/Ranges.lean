/-!
# Ranges of characters

Sets of characters by ranges of code points.
-/

set_option autoImplicit false

namespace QueryBlocks.Text

/-- Code points from the first to the second of each pair. -/
abbrev Ranges := List (Nat × Nat)

def inRanges (ranges : Ranges) (c : Char) : Bool :=
  ranges.any fun range => range.1 ≤ c.toNat && c.toNat ≤ range.2

end QueryBlocks.Text
