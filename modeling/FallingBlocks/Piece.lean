/-
A piece: a shape with its pivot somewhere on the board and a rotation.

The rotation of a piece may be any integer, because snapshots from outside are kept
as they were written until they are checked; only looking up the cells reduces it
modulo four, and moving a piece leaves it reduced.
-/
import FallingBlocks.Shape

namespace FallingBlocks

/-- A shape in the air, its pivot at column `x` of row `y`. -/
structure Piece where
  shape : Shape
  x : Int
  y : Int
  rotation : Int := 0
  deriving DecidableEq, Repr, Inhabited

namespace Piece

/-- Where the cells of the piece lie relative to its pivot. -/
def offsets (p : Piece) : List Offset :=
  p.shape.offsets p.rotation

/-- The four places the piece covers. -/
def cells (p : Piece) : List Cell :=
  p.offsets.map fun o => ⟨p.y + o.dy, p.x + o.dx⟩

/-- The piece `dx` columns to the right, `dy` rows down and `turns` quarter turns on. -/
def moved (p : Piece) (dx dy turns : Int) : Piece :=
  { p with
    x := p.x + dx
    y := p.y + dy
    rotation := (p.rotation + turns) % Shape.quarterTurns }

end Piece

end FallingBlocks
