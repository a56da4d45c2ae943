/-
The well: a board and the piece that is falling into it.

Every movement is an attempt to put the piece somewhere else.  An attempt that would
leave the board or overlap a filled cell changes nothing and answers `false`; so does
every attempt while there is no piece.
-/
import FallingBlocks.Board
import FallingBlocks.Config
import FallingBlocks.Piece

namespace FallingBlocks

/-- A board, the falling piece if there is one, and the row in which pieces enter. -/
structure Well where
  board : Board
  piece : Option Piece := none
  spawnY : Int := 0
  deriving DecidableEq, Repr

namespace Well

/-- The column in which pieces enter. -/
def spawnX (w : Well) : Int :=
  spawnColumn w.board.width

/-- A piece of some shape where pieces enter. -/
def entering (w : Well) (s : Shape) : Piece :=
  { shape := s, x := w.spawnX, y := w.spawnY, rotation := 0 }

/-- Lets a new piece enter, whether or not there is room for it. -/
def spawn (w : Well) (s : Shape) : Well :=
  { w with piece := some (w.entering s) }

/-- Whether a piece is in bounds and overlaps no filled cell. -/
def fits (w : Well) (p : Piece) : Except Board.Fault Bool :=
  w.board.fits p.cells

/-- Moves the piece if it fits where it would go, and says whether it did. -/
def attempt (w : Well) (dx dy turns : Int) : Except Board.Fault (Well × Bool) :=
  match w.piece with
  | none => .ok (w, false)
  | some p =>
      let there := p.moved dx dy turns
      (w.fits there).map fun free =>
        if free then ({ w with piece := some there }, true) else (w, false)

/-- One column to the left. -/
def moveLeft (w : Well) : Except Board.Fault (Well × Bool) := w.attempt (-1) 0 0

/-- One column to the right. -/
def moveRight (w : Well) : Except Board.Fault (Well × Bool) := w.attempt 1 0 0

/-- One quarter turn. -/
def rotate (w : Well) : Except Board.Fault (Well × Bool) := w.attempt 0 0 1

/-- One row down. -/
def softDrop (w : Well) : Except Board.Fault (Well × Bool) := w.attempt 0 1 0

/-- The cells of the piece, none if there is no piece. -/
def cells (w : Well) : List Cell :=
  (w.piece.map Piece.cells).getD []

/--
Lowers the piece row by row, at most `fuel` times, and counts the rows.  The well that
comes back with a fault is the one in which the piece could not be tested any further.
-/
def descend : Nat → Well → Well × Except Board.Fault Nat
  | 0, w => (w, .ok 0)
  | fuel + 1, w =>
      match w.softDrop with
      | .error fault => (w, .error fault)
      | .ok (_, false) => (w, .ok 0)
      | .ok (lower, true) =>
          let (bottom, steps) := descend fuel lower
          (bottom, steps.map (· + 1))

/--
More rows than the piece can descend: every shape has a cell in the row of its pivot or
below it, so the pivot never leaves the board downwards.
-/
def room (w : Well) : Nat :=
  match w.piece with
  | none => 0
  | some p => (w.board.height - p.y).toNat + 1

/-- Lowers the piece until it is blocked and counts the rows. -/
def drop (w : Well) : Well × Except Board.Fault Nat :=
  w.descend w.room

end Well

end FallingBlocks
