/-
  Sets of characters
  ==================
  A property of characters is given by the ranges of code points that have it.
-/

namespace ManagedRuntime.Text

/-- Ranges of code points, each with its first and its last. -/
abbrev Ranges := List (Nat × Nat)

def Ranges.contains (ranges : Ranges) (c : Char) : Bool :=
  ranges.any fun (first, last) => first ≤ c.toNat && c.toNat ≤ last

end ManagedRuntime.Text
