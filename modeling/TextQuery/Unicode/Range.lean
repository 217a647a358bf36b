/-!
# Blocks of code points

Properties of characters are tabulated as lists of blocks of consecutive code points.
-/
set_option autoImplicit false

namespace TextQuery.Unicode

/-- A block of consecutive code points, given by its first and its last. -/
abbrev CodeRange := Nat × Nat

def inRange (range : CodeRange) (c : Char) : Bool :=
  range.1 ≤ c.toNat && c.toNat ≤ range.2

def inRanges (ranges : List CodeRange) (c : Char) : Bool :=
  ranges.any fun range => inRange range c

end TextQuery.Unicode
