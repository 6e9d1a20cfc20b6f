/-!
# Sets of characters

A set of characters beyond ASCII is given as a table of ranges of codes.
-/

namespace TaggedConfig.Text

/-- Ranges of codes, both ends included. -/
abbrev Ranges := List (Nat × Nat)

def Ranges.contains (ranges : Ranges) (code : Nat) : Bool :=
  ranges.any fun range => range.1 ≤ code && code ≤ range.2

end TaggedConfig.Text
