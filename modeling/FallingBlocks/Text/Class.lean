/-
Classes of characters, given as ranges of code points.
-/

namespace FallingBlocks.Text

/-- A class of characters as inclusive ranges of code points. -/
abbrev Class := List (Nat × Nat)

/-- Whether a character belongs to a class. -/
def Class.has (ranges : Class) (c : Char) : Bool :=
  ranges.any fun r => r.1 ≤ c.toNat && c.toNat ≤ r.2

end FallingBlocks.Text
