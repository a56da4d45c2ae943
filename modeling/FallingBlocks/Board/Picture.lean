/-
A board as text: one line per row, one character per column.

The falling piece is laid over the board: a cell of the overlay shows as such whether
or not the board is filled there, and every other character tells exactly whether its
cell is filled.  Cells of the overlay that lie outside the board do not show.
-/
import FallingBlocks.Board

namespace FallingBlocks.Board

/-- The characters of a picture. -/
structure Palette where
  overlay : Char
  filled : Char
  free : Char
  deriving DecidableEq, Repr

/-- A shaded square for the falling piece, a full one for the stack, a dot for nothing. -/
def palette : Palette := ⟨'▓', '█', '·'⟩

/-- The character shown for one cell. -/
def mark (b : Board) (overlay : List Cell) (c : Cell) : Except Fault Char :=
  if c ∈ overlay then .ok palette.overlay
  else (b.occupied c).map fun filled => if filled then palette.filled else palette.free

/-- One line of the picture. -/
def line (b : Board) (overlay : List Cell) (row : Nat) : Except Fault (List Char) :=
  (List.range b.width.toNat).mapM fun (col : Nat) => b.mark overlay ⟨row, col⟩

/-- The lines of the picture, top row first. -/
def lines (b : Board) (overlay : List Cell) : Except Fault (List (List Char)) :=
  (List.range b.height.toNat).mapM (b.line overlay)

/-- The picture as one text, its lines separated by newlines. -/
def render (b : Board) (overlay : List Cell := []) : Except Fault String :=
  (b.lines overlay).map fun ls => String.ofList (['\n'].intercalate ls)

end FallingBlocks.Board
