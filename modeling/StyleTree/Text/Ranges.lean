/-!
# Ranges of characters

A class of characters as inclusive ranges of code points.
-/

namespace StyleTree

/-- Inclusive ranges of code points in ascending order. -/
abbrev Ranges := List (Nat × Nat)

def Ranges.contains (ranges : Ranges) (c : Char) : Bool :=
  ranges.any fun r => r.1 ≤ c.toNat && c.toNat ≤ r.2

end StyleTree
