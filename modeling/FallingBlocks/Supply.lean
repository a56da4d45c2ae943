/-
Where the shapes come from.

A supply is an endless sequence of shapes and the number of those already drawn.  A
session never sees more of it than that: it draws the next shape, and the position
moves on by one.  Any rule for choosing shapes, fixed or random, is such a sequence.
-/
import FallingBlocks.Shape

namespace FallingBlocks

/-- An endless sequence of shapes with a position in it. -/
structure Supply where
  shapeAt : Nat → Shape
  drawn : Nat := 0

namespace Supply

/-- The next shape, and the supply without it. -/
def draw (s : Supply) : Shape × Supply :=
  (s.shapeAt s.drawn, { s with drawn := s.drawn + 1 })

/-- A list of shapes over and over again. -/
def cycle (first : Shape) (rest : List Shape) : Supply where
  shapeAt n := (first :: rest).getD (n % (rest.length + 1)) first

/-- Every shape in turn. -/
def inOrder : Supply := cycle .I [.J, .L, .O, .S, .T, .Z]

end Supply

end FallingBlocks
